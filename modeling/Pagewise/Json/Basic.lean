import Pagewise.Keyed
import Pagewise.Bits
import Pagewise.Binary64.Basic

/-!
# JSON values

Rows, bind variables and their parts. A number is either an integer or a double, and the two
never agree: `1` and `1.0` are different values. The members of an object are in the order of
their keys (`Keyed.Sorted`), so `Json.equals` compares two objects entry by entry.
-/

namespace Pagewise

/-- A JSON number: an integer of 64 bits, signed or unsigned, or a finite double. -/
inductive Json.Number where
  | int (value : Int)
  | real (value : Binary64)
deriving DecidableEq, Repr

/-- A JSON value. -/
inductive Json where
  | null
  | bool (value : Bool)
  | number (value : Json.Number)
  | string (value : String)
  | array (items : List Json)
  | object (members : List (String × Json))

namespace Json

/-- The integers that are kept as integers. -/
def Number.isWord (n : Int) : Bool :=
  minSigned 64 ≤ n && n ≤ maxUnsigned 64

/-- The number that stands for a double: infinities and what is not a number have none. -/
def ofBinary64 (x : Binary64) : Json :=
  if x.isFinite then .number (.real x) else .null

/-! ## Equality -/

/-- Integers agree by value, doubles numerically, and an integer agrees with no double. -/
def Number.equals : Number → Number → Bool
  | .int a, .int b => a == b
  | .real x, .real y => x.equals y
  | _, _ => false

mutual

/-- Equality of values, with the zeros of both signs equal. -/
def equals : Json → Json → Bool
  | .null, .null => true
  | .bool a, .bool b => a == b
  | .number a, .number b => a.equals b
  | .string a, .string b => a == b
  | .array a, .array b => itemsEqual a b
  | .object a, .object b => membersEqual a b
  | _, _ => false

/-- Equality item by item. -/
def itemsEqual : List Json → List Json → Bool
  | [], [] => true
  | a :: as, b :: bs => a.equals b && itemsEqual as bs
  | _, _ => false

/-- Equality member by member, in the order of the keys. -/
def membersEqual : List (String × Json) → List (String × Json) → Bool
  | [], [] => true
  | (k, a) :: as, (l, b) :: bs => k == l && a.equals b && membersEqual as bs
  | _, _ => false

end

/-! ## Shape -/

/-- What a value is, with `true` and `false` of one kind. -/
inductive Kind where
  | null
  | bool
  | number
  | string
  | array
  | object
deriving DecidableEq, Repr

/-- The kind of a value. -/
def kind : Json → Kind
  | .null => .null
  | .bool _ => .bool
  | .number _ => .number
  | .string _ => .string
  | .array _ => .array
  | .object _ => .object

end Json

end Pagewise
