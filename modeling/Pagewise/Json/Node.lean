import Pagewise.Json.Token

/-!
# The syntax of JSON text

A `Node` is a JSON text as it is written: members in the order of the text, keys that may repeat,
and tokens that may have no value. `Node.ofTokens?` reads it with a stack of the arrays and objects
that are still open, one token at a time, so no text is nested too deeply for it. Which nodes stand
for values is decided by `Node.value?`.
-/

namespace Pagewise.Json

/-- A JSON text as it is written. -/
inductive Node where
  | null
  | bool (value : Bool)
  | number (value : Option Number)
  | string (value : Option String)
  | array (items : List Node)
  | object (members : List (Option String × Node))

namespace Node

/-- An array or object that is still open, with what it holds so far, last item first. -/
inductive Frame where
  | array (items : List Node)
  /-- An object that waits for the value of a key. -/
  | object (members : List (Option String × Node)) (key : Option String)

mutual

/-- Reads a text from where a value has to begin, inside the open arrays and objects. -/
def read? (stack : List Frame) : List Token → Option Node
  | .null :: rest => resume? stack .null rest
  | .bool b :: rest => resume? stack (.bool b) rest
  | .number n :: rest => resume? stack (.number n) rest
  | .string s :: rest => resume? stack (.string s) rest
  | .openArray :: .closeArray :: rest => resume? stack (.array []) rest
  | .openArray :: rest => read? (.array [] :: stack) rest
  | .openObject :: .closeObject :: rest => resume? stack (.object []) rest
  | .openObject :: .string key :: .colon :: rest => read? (.object [] key :: stack) rest
  | _ => none

/-- Reads on behind a value. -/
def resume? (stack : List Frame) (value : Node) : List Token → Option Node
  | [] => if stack.isEmpty then some value else none
  | .comma :: rest =>
    match stack with
    | .array items :: stack => read? (.array (value :: items) :: stack) rest
    | .object members key :: stack =>
      match rest with
      | .string next :: .colon :: rest =>
        read? (.object ((key, value) :: members) next :: stack) rest
      | _ => none
    | [] => none
  | .closeArray :: rest =>
    match stack with
    | .array items :: stack => resume? stack (.array (value :: items).reverse) rest
    | _ => none
  | .closeObject :: rest =>
    match stack with
    | .object members key :: stack =>
      resume? stack (.object ((key, value) :: members).reverse) rest
    | _ => none
  | _ => none

end

/-- The syntax of a whole text, given its tokens. -/
def ofTokens? (tokens : List Token) : Option Node :=
  read? [] tokens

/-- The syntax of a whole text. -/
def ofText? (text : String) : Option Node :=
  (Token.ofText? text.toList).bind ofTokens?

/-! ## Values -/

mutual

/-- The value of a node that is nested at most `depth` arrays and objects deep. Of members with
one key the last one counts. -/
def value? (depth : Nat) : Node → Option Json
  | .null => some .null
  | .bool b => some (.bool b)
  | .number n => n.map .number
  | .string s => s.map .string
  | .array items =>
    match depth with
    | 0 => none
    | depth + 1 => (itemValues? depth items).map .array
  | .object members =>
    match depth with
    | 0 => none
    | depth + 1 => (memberValues? depth members).map fun ms => .object (Keyed.ofList ms)

/-- The values of the items of an array. -/
def itemValues? (depth : Nat) : List Node → Option (List Json)
  | [] => some []
  | item :: rest => do
    let v ← item.value? depth
    let vs ← itemValues? depth rest
    return v :: vs

/-- The keys and values of the members of an object, in the order of the text. -/
def memberValues? (depth : Nat) : List (Option String × Node) → Option (List (String × Json))
  | [] => some []
  | (key, node) :: rest => do
    let k ← key
    let v ← node.value? depth
    let vs ← memberValues? depth rest
    return (k, v) :: vs

end

end Node

/-- How many arrays and objects may be open at once. -/
def maxDepth : Nat := 127

/-- The value of a whole text. -/
def ofText? (text : String) : Option Json :=
  (Node.ofText? text).bind (Node.value? maxDepth)

end Pagewise.Json
