/-!
# Decimal digits

Reading and counting the digits of numerals. A natural number is written with `Nat.repr`; the
functions here go the other way and say how long such a text is.

* `repr_injective`: different numbers are written differently.
-/

namespace Pagewise.Decimal

/-- The power of ten with an exponent. -/
def tenTo (exponent : Nat) : Nat := Nat.pow 10 exponent

/-- The ten decimal digits, and no digit of another script. -/
def isDigit (c : Char) : Bool :=
  '0' ≤ c && c ≤ '9'

/-- What a digit stands for. -/
def digitValue (c : Char) : Nat :=
  c.toNat - '0'.toNat

/-- The number that a row of digits stands for, the empty row for zero. -/
def value (digits : List Char) : Nat :=
  digits.foldl (fun n c => 10 * n + digitValue c) 0

/-- The number of digits of a positive number without leading zeros; zero has none. -/
def length (n : Nat) : Nat :=
  if n = 0 then 0 else length (n / 10) + 1

/-- A row of digits, at least one of them, as a number. -/
def nat? (text : List Char) : Option Nat :=
  if text.isEmpty || !text.all isDigit then none else some (value text)

/-- Digits behind an optional sign. -/
def int? : List Char → Option Int
  | '-' :: digits => (nat? digits).map fun n => -(n : Int)
  | '+' :: digits => (nat? digits).map Int.ofNat
  | digits => (nat? digits).map Int.ofNat

/-- The digits in front of a text, and what follows them. -/
def span (text : List Char) : List Char × List Char :=
  (text.takeWhile isDigit, text.dropWhile isDigit)

theorem span_append (text : List Char) : (span text).1 ++ (span text).2 = text :=
  List.takeWhile_append_dropWhile

theorem span_rest_length_le (text : List Char) : (span text).2.length ≤ text.length :=
  (List.dropWhile_suffix _).length_le

/-- Different numbers are written differently. -/
theorem repr_injective {i j : Nat} (h : Nat.repr i = Nat.repr j) : i = j := by
  have hdigits := congrArg String.toList h
  rw [Nat.toList_repr, Nat.toList_repr] at hdigits
  rw [← Nat.ofDigitChars_ten_toDigits (n := i), hdigits, Nat.ofDigitChars_ten_toDigits]

end Pagewise.Decimal
