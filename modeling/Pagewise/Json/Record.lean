import Pagewise.Json.Node

/-!
# Records in JSON text

A record has named fields, each of them optional in the text. It is written as an object, whose
members with other names are skipped whatever they hold, or as an array of the fields in their
order. A field may be given once.
-/

namespace Pagewise.Json

namespace Node

/-- The fields that members give: keys have to be readable, names of no field are skipped, and no
field is given twice. -/
def namedFields? (names : List String) :
    List (Option String × Node) → Option (List (String × Node))
  | [] => some []
  | (key, node) :: rest => do
    let k ← key
    let fields ← namedFields? names rest
    if k ∈ names then
      if fields.any (·.1 = k) then none else some ((k, node) :: fields)
    else some fields

/-- The fields of a record with the given names. -/
def fields? (names : List String) : Node → Option (List (String × Node))
  | .object members => namedFields? names members
  | .array items => if items.length ≤ names.length then some (names.zip items) else none
  | _ => none

/-- A field that has a value of its own when it is not given. -/
def field? {α : Type} (fields : List (String × Node)) (name : String) (absent : α)
    (read : Node → Option α) : Option α :=
  match Keyed.get? name fields with
  | none => some absent
  | some node => read node

/-- Nothing where `null` is written, else what `read` finds. -/
def nullable? {α : Type} (read : Node → Option α) : Node → Option (Option α)
  | .null => some none
  | node => (read node).map some

/-- The value of a string. -/
def string? : Node → Option String
  | .string s => s
  | _ => none

/-- The value of a literal `true` or `false`. -/
def bool? : Node → Option Bool
  | .bool b => some b
  | _ => none

/-- An integer within bounds, both included. A double is no integer, whatever it equals. -/
def intWithin? (low high : Int) : Node → Option Int
  | .number (some (.int n)) => if low ≤ n ∧ n ≤ high then some n else none
  | _ => none

end Node

/-! ## Parts of values -/

/-- The characters of a string. -/
def string? : Json → Option String
  | .string s => some s
  | _ => none

/-- An integer within bounds, both included. A double is no integer, whatever it equals. -/
def intWithin? (low high : Int) : Json → Option Int
  | .number (.int n) => if low ≤ n ∧ n ≤ high then some n else none
  | _ => none

/-- The fields that a value gives for a record with the given names, as in JSON text. -/
def fields? (names : List String) : Json → Option (List (String × Json))
  | .object members => some (members.filter (·.1 ∈ names))
  | .array items => if items.length ≤ names.length then some (names.zip items) else none
  | _ => none

end Pagewise.Json
