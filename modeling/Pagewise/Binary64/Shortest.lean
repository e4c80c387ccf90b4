import Pagewise.Binary64.Basic

/-!
# The fewest digits that read back

A finite magnitude `m · 2 ^ q` is the nearest double to every real of an interval around it,
ends included when `m` is even. `shortest` finds the decimal with the fewest digits inside that
interval, and of those with that many digits the one nearest to the number. Decimals with a given
number of digits form a grid; if any of its points lies in the interval, one of the two around
the number does, so two candidates per grid are enough, and the seventeenth grid always has one.
-/

namespace Pagewise.Binary64

/-- Where an exact tie between two nearest decimals goes. -/
inductive Tie where
  /-- To the greater one. -/
  | up
  /-- To the one whose last digit is even. -/
  | toEven
deriving DecidableEq, Repr

/-- A decimal `0.d₁d₂… · 10 ^ point`, with neither a leading nor a trailing zero digit. -/
structure Digits where
  digits : List Char
  point : Int
deriving DecidableEq, Repr

namespace Digits

/-- The decimal `n · 10 ^ exponent` for a positive `n`. -/
def ofScaled (n : Nat) (exponent : Int) : Digits :=
  let all := (Nat.repr n).toList
  ⟨(all.reverse.dropWhile (· == '0')).reverse, all.length + exponent⟩

end Digits

/-- The power of ten just above a ratio: `10 ^ (k - 1) ≤ num / den < 10 ^ k`, for a ratio that is
no smaller than a subnormal number. -/
def decimalPoint (num den : Nat) : Int :=
  (Decimal.length (num * Decimal.tenTo 340 / den) : Int) - 340

/-- The point of the grid of multiples of `10 ^ exponent` that reads back as the magnitude and is
nearest to it, if there is one. Lengths are counted in quarters of the distance between two
neighbouring significands, and both sides are multiplied to integers. -/
def gridPoint? (tie : Tie) (magnitude : Nat) (exponent : Int) : Option Nat :=
  let m := significand magnitude
  let q := scale magnitude - 2
  let unit := Decimal.tenTo exponent.toNat * twoTo (-q).toNat
  let quarter := Decimal.tenTo (-exponent).toNat * twoTo q.toNat
  let isLeast := m = hiddenBit && magnitude ≠ hiddenBit
  let low := (if isLeast then 4 * m - 1 else 4 * m - 2) * quarter
  let high := (4 * m + 2) * quarter
  let exact := 4 * m * quarter
  let inside (c : Nat) : Bool :=
    if m % 2 = 0 then low ≤ c * unit && c * unit ≤ high
    else low < c * unit && c * unit < high
  let below := exact / unit
  let above := below + 1
  let nearBelow := exact - below * unit
  let nearAbove := above * unit - exact
  let upward := nearAbove < nearBelow ||
    (nearAbove == nearBelow && (tie = .up || below % 2 = 1))
  match inside below, inside above with
  | true, true => some (if upward then above else below)
  | true, false => some below
  | false, true => some above
  | false, false => none

/-- The shortest decimal that reads back as a positive finite magnitude. -/
def shortest (tie : Tie) (magnitude : Nat) : Digits :=
  let (num, den) := ratio magnitude
  let point := decimalPoint num den
  let grid (n : Nat) : Option Digits :=
    let exponent := point - (n : Int)
    (gridPoint? tie magnitude exponent).map (Digits.ofScaled · exponent)
  ((List.range' 1 17).findSome? grid).getD ⟨[], 0⟩

end Pagewise.Binary64
