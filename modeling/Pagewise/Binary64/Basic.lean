import Pagewise.Bits
import Pagewise.Decimal

/-!
# Double precision numbers, exactly

A double is a sign and the 63 bits below it. The bits, read as a natural number, grow with the
number they stand for, so rounding a ratio is integer arithmetic: scale it to 53 bits, round to
the nearest integer, and put the scale into the bits above. Nothing here uses machine floating
point; every operation is exact up to the one rounding that it names.

* `nearest num den` is the magnitude nearest to `num / den`, a tie going to the even one;
* `mul`, `div` and `ofDecimal` are exact arithmetic followed by `nearest`.
-/

namespace Pagewise

/-- A double precision number: its sign, and its exponent and fraction bits as one number. -/
structure Binary64 where
  /-- Whether the sign bit is set. -/
  negative : Bool
  /-- The bits below the sign. -/
  magnitude : Nat
deriving DecidableEq, Repr

namespace Binary64

/-- The least significand of a normal number, and the distance of the exponents in the bits. -/
def hiddenBit : Nat := twoTo 52

/-- The magnitude of the infinities; the greater ones are not numbers. -/
def infinite : Nat := 2047 * hiddenBit

/-- The infinity of a sign. -/
def infinity (negative : Bool) : Binary64 := ⟨negative, infinite⟩

/-- What is not a number. -/
def nan : Binary64 := ⟨false, infinite + twoTo 51⟩

/-- The zero of a sign. -/
def zero (negative : Bool) : Binary64 := ⟨negative, 0⟩

/-- Whether a double is a number and no infinity. -/
def isFinite (x : Binary64) : Bool := x.magnitude < infinite

/-- Whether a double is one of the infinities. -/
def isInfinite (x : Binary64) : Bool := x.magnitude == infinite

/-- Whether a double is one of the zeros. -/
def isZero (x : Binary64) : Bool := x.magnitude == 0

/-- Numeric equality: the two zeros are equal, and what is not a number equals nothing. -/
def equals (x y : Binary64) : Bool :=
  x.magnitude ≤ infinite && x.magnitude == y.magnitude && (x.negative == y.negative || x.isZero)

/-- A finite magnitude is `significand · 2 ^ scale`. -/
def significand (magnitude : Nat) : Nat :=
  if magnitude < hiddenBit then magnitude else hiddenBit + magnitude % hiddenBit

/-- The power of two that goes with `significand`. -/
def scale (magnitude : Nat) : Int :=
  if magnitude < hiddenBit then -1074 else (magnitude / hiddenBit : Nat) - 1075

/-- A finite magnitude as numerator and denominator. -/
def ratio (magnitude : Nat) : Nat × Nat :=
  let q := scale magnitude
  (significand magnitude * twoTo q.toNat, twoTo (-q).toNat)

/-- The integer nearest to `num / den`; a half goes to the even neighbour. -/
def roundHalfEven (num den : Nat) : Nat :=
  let n := num / den
  let r := num % den
  if 2 * r < den || (2 * r == den && n % 2 == 0) then n else n + 1

/-- The magnitude nearest to `num / den`, for a positive `den`. What rounds beyond the greatest
finite number is infinite. -/
def nearest (num den : Nat) : Nat :=
  if num = 0 then 0 else
  let guess : Int := (num.log2 : Int) - den.log2 - 53
  let scaled (q : Int) : Nat × Nat := (num * twoTo (-q).toNat, den * twoTo q.toNat)
  let (n₀, d₀) := scaled guess
  let q := max (if n₀ / d₀ < 2 * hiddenBit then guess else guess + 1) (-1074)
  let (n, d) := scaled q
  min ((q + 1074).toNat * hiddenBit + roundHalfEven n d) infinite

/-- The double nearest to a signed ratio. -/
def ofRatio (negative : Bool) (num den : Nat) : Binary64 :=
  ⟨negative, nearest num den⟩

/-- The rounded product of two finite numbers. -/
def mul (x y : Binary64) : Binary64 :=
  let (a, b) := ratio x.magnitude
  let (c, d) := ratio y.magnitude
  ofRatio (x.negative != y.negative) (a * c) (b * d)

/-- The rounded quotient of two finite numbers, for a divisor that is not zero. -/
def div (x y : Binary64) : Binary64 :=
  let (a, b) := ratio x.magnitude
  let (c, d) := ratio y.magnitude
  ofRatio (x.negative != y.negative) (a * d) (b * c)

/-- The double nearest to `digits · 10 ^ exponent`. Beyond 400 places the answer no longer
depends on the digits, and no power of ten is computed. -/
def ofDecimal (negative : Bool) (digits : Nat) (exponent : Int) : Binary64 :=
  let point := (Decimal.length digits : Int) + exponent
  if digits = 0 || point < -400 then zero negative
  else if 400 < point then infinity negative
  else ofRatio negative (digits * Decimal.tenTo exponent.toNat)
    (Decimal.tenTo (-exponent).toNat)

/-- Reads a decimal numeral with an optional sign, point and exponent, or the name of an infinity
or of no number, in any case of letters. The number is rounded once, to nearest. -/
def ofText? (text : String) : Option Binary64 :=
  let (negative, body) := match text.toList with
    | '-' :: rest => (true, rest)
    | '+' :: rest => (false, rest)
    | rest => (false, rest)
  let word := String.ofList (body.map Char.toLower)
  if word = "inf" || word = "infinity" then some (infinity negative)
  else if word = "nan" then some { nan with negative }
  else
    let (whole, rest) := Decimal.span body
    let (fraction, rest) := match rest with
      | '.' :: rest => Decimal.span rest
      | rest => ([], rest)
    let exponent := match rest with
      | [] => some 0
      | c :: rest => if c = 'e' || c = 'E' then Decimal.int? rest else none
    if whole.isEmpty && fraction.isEmpty then none
    else exponent.map fun e =>
      ofDecimal negative (Decimal.value (whole ++ fraction)) (e - fraction.length)

end Binary64

end Pagewise
