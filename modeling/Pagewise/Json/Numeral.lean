import Pagewise.Json.Basic

/-!
# JSON numerals

The grammar of a number in JSON text, and the number it stands for. An integer of 64 bits is kept
as it is. Every other numeral becomes a double by the arithmetic of a 64-bit significand: digits
are taken into it as long as it holds them, and the double of the significand is multiplied or
divided by a double power of ten. The result can be off by one place from the nearest double, as
in `9007199254740993.0`, which is read as `9007199254740994.0`.
-/

namespace Pagewise.Json

/-- The parts of a numeral as they are written. -/
structure Numeral where
  negative : Bool
  whole : List Char
  /-- The digits behind the point, when there is one. -/
  fraction : Option (List Char)
  /-- The exponent, when there is one. -/
  exponent : Option Int
deriving DecidableEq, Repr

namespace Numeral

/-- The fraction in front of a text: a point and at least one digit, or nothing. -/
def scanFraction? : List Char → Option (Option (List Char) × List Char)
  | '.' :: rest =>
    let (digits, rest) := Decimal.span rest
    if digits.isEmpty then none else some (some digits, rest)
  | rest => some (none, rest)

/-- The exponent in front of a text: a letter, a sign if any and at least one digit, or nothing. -/
def scanExponent? : List Char → Option (Option Int × List Char)
  | [] => some (none, [])
  | c :: rest =>
    if c = 'e' || c = 'E' then
      let (negative, rest) := match rest with
        | '-' :: rest => (true, rest)
        | '+' :: rest => (false, rest)
        | rest => (false, rest)
      let (digits, rest) := Decimal.span rest
      if digits.isEmpty then none
      else
        let n := Decimal.value digits
        some (some (if negative then -(n : Int) else n), rest)
    else some (none, c :: rest)

/-- The numeral in front of a text, but for its sign. A leading zero stands alone. -/
def scanUnsigned? (negative : Bool) (text : List Char) : Option (Numeral × List Char) :=
  let (whole, rest) := Decimal.span text
  if whole.isEmpty || (whole.head? = some '0' && 1 < whole.length) then none
  else do
    let (fraction, rest) ← scanFraction? rest
    let (exponent, rest) ← scanExponent? rest
    return (⟨negative, whole, fraction, exponent⟩, rest)

/-- The numeral in front of a text. -/
def scan? : List Char → Option (Numeral × List Char)
  | '-' :: rest => scanUnsigned? true rest
  | text => scanUnsigned? false text

theorem scanFraction?_length {text rest : List Char} {f : Option (List Char)}
    (h : scanFraction? text = some (f, rest)) : rest.length ≤ text.length := by
  unfold scanFraction? at h
  split at h
  · rename_i tail
    have := Decimal.span_rest_length_le tail
    grind
  · grind

theorem scanExponent?_length {text rest : List Char} {e : Option Int}
    (h : scanExponent? text = some (e, rest)) : rest.length ≤ text.length := by
  unfold scanExponent? at h
  split at h
  · grind
  · have bound (l : List Char) := Decimal.span_rest_length_le l
    grind

theorem scanUnsigned?_length {negative : Bool} {text rest : List Char} {n : Numeral}
    (h : scanUnsigned? negative text = some (n, rest)) : rest.length < text.length := by
  simp only [scanUnsigned?] at h
  split at h
  · simp at h
  · rename_i ok
    obtain ⟨⟨f, r₁⟩, hf, h⟩ := Option.bind_eq_some_iff.1 h
    obtain ⟨⟨e, r₂⟩, he, h⟩ := Option.bind_eq_some_iff.1 h
    have h₁ := scanFraction?_length hf
    have h₂ := scanExponent?_length he
    have h₃ := congrArg List.length (Decimal.span_append text)
    have h₄ : 0 < (Decimal.span text).1.length := List.length_pos_iff.2 (by simp_all)
    simp at h h₃ h₁ h₂
    grind

theorem scan?_length {text rest : List Char} {n : Numeral}
    (h : scan? text = some (n, rest)) : rest.length < text.length := by
  unfold scan? at h
  split at h
  · exact Nat.lt_succ_of_lt (scanUnsigned?_length h)
  · exact scanUnsigned?_length h

/-! ## The number that a numeral stands for -/

/-- Digits are taken into a number as long as it has at most 64 bits; gives the number and the
digits that are left. -/
def accumulate (n : Nat) : List Char → Nat × List Char
  | [] => (n, [])
  | c :: rest =>
    let next := 10 * n + Decimal.digitValue c
    if next ≤ maxUnsigned 64 then accumulate next rest else (n, c :: rest)

/-- The double nearest to a power of ten. -/
def powerOfTen (k : Nat) : Binary64 :=
  .ofRatio false (Decimal.tenTo k) 1

/-- The greatest exponent of ten among the doubles. -/
def maxPower : Nat := 308

/-- Division by a power of ten, in steps of the greatest power. -/
def scaleDown (x : Binary64) (k : Nat) : Binary64 :=
  if k ≤ maxPower then x.div (powerOfTen k)
  else if x.isZero then x
  else scaleDown (x.div (powerOfTen maxPower)) (k - maxPower)
termination_by k
decreasing_by simp_all [maxPower]; omega

/-- Scales a double by a power of ten; nothing when the result is too great for a double. -/
def scale? (x : Binary64) (exponent : Int) : Option Binary64 :=
  if exponent < 0 then some (scaleDown x exponent.natAbs)
  else if x.isZero then some x
  else if maxPower < exponent.toNat then none
  else
    let y := x.mul (powerOfTen exponent.toNat)
    if y.isInfinite then none else some y

/-- The number of a numeral; nothing when it is too great for a double. Whole digits that the
significand does not hold count as powers of ten, fraction digits that it does not hold are
dropped. -/
def number? (n : Numeral) : Option Number :=
  let (significand, left) := accumulate 0 n.whole
  let signed : Int := if n.negative then -(significand : Int) else significand
  let isPlain := n.fraction.isNone && n.exponent.isNone && left.isEmpty
  if isPlain && Number.isWord signed && !(n.negative && significand = 0) then
    some (.int signed)
  else
    let digits := n.fraction.getD []
    let (significand, dropped) := accumulate significand digits
    let exponent := (left.length : Int) - (digits.length - dropped.length : Nat)
      + n.exponent.getD 0
    (scale? (.ofRatio false significand 1) exponent).map fun x =>
      .real { x with negative := n.negative }

end Numeral

end Pagewise.Json
