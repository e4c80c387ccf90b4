import Pagewise.Keyed
import Pagewise.Binary64.Basic

/-!
# TOML values

What a settings file says, before it is known which settings there are.
-/

namespace Pagewise

/-- A TOML value. -/
inductive Toml where
  | string (value : String)
  /-- An integer; none when what is written has the form of one, but not its digits. -/
  | integer (value : Option Int)
  /-- A double; none when the numeral is too great for one. -/
  | float (value : Option Binary64)
  | boolean (value : Bool)
  /-- A date, a time, or both. -/
  | moment
  | array (items : List Toml)
  | table (entries : List (String × Toml))

end Pagewise
