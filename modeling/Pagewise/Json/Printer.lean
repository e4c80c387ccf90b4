import Pagewise.Json.Basic
import Pagewise.Binary64.Layout
import Pagewise.Text.Hex

/-!
# Compact JSON text

`Json.print` writes a value on one line without blanks. Members are written in the order in which
the value holds them, which is the order of their keys. Characters outside of ASCII stand for
themselves.
-/

namespace Pagewise.Json

/-- Doubles have at least one place and take an exponent below `1e-5` and from `1e16` on. -/
def realLayout : Binary64.Layout := ⟨.toEven, some (-5, 15), ".0"⟩

/-- An integer in decimal, with a sign only when it is negative. -/
def printInt (n : Int) : String :=
  if n < 0 then "-" ++ Nat.repr n.natAbs else Nat.repr n.natAbs

/-- The text of a number. -/
def Number.print : Number → String
  | .int n => printInt n
  | .real x => realLayout.write x

/-- A character within quotes: quote, backslash and controls are escaped, five of the controls
by a letter. -/
def escapeChar (c : Char) : List Char :=
  if c = '"' then ['\\', '"']
  else if c = '\\' then ['\\', '\\']
  else if c = '\n' then ['\\', 'n']
  else if c = '\r' then ['\\', 'r']
  else if c = '\t' then ['\\', 't']
  else if c = Char.ofNat 8 then ['\\', 'b']
  else if c = Char.ofNat 12 then ['\\', 'f']
  else if c.toNat < 32 then
    ['\\', 'u', '0', '0', Text.hexDigit (c.toNat / 16), Text.hexDigit (c.toNat % 16)]
  else [c]

/-- A string in quotes. -/
def quote (s : String) : String :=
  "\"" ++ String.ofList (s.toList.flatMap escapeChar) ++ "\""

/-- One member of an object, given the text of its value. -/
def printMember (key text : String) : String :=
  quote key ++ ":" ++ text

/-- An array, given the texts of its items. -/
def printArray (items : List String) : String :=
  "[" ++ ",".intercalate items ++ "]"

/-- An object, given the texts of its members. -/
def printObject (members : List String) : String :=
  "\x7b" ++ ",".intercalate members ++ "\x7d"

mutual

/-- The text of a value. -/
def print : Json → String
  | .null => "null"
  | .bool true => "true"
  | .bool false => "false"
  | .number n => n.print
  | .string s => quote s
  | .array items => printArray (printItems items)
  | .object members => printObject (printMembers members)

/-- The texts of the items of an array. -/
def printItems : List Json → List String
  | [] => []
  | v :: rest => v.print :: printItems rest

/-- The texts of the members of an object. -/
def printMembers : List (String × Json) → List String
  | [] => []
  | (k, v) :: rest => printMember k v.print :: printMembers rest

end

end Pagewise.Json
