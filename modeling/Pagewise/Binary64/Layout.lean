import Pagewise.Binary64.Shortest

/-!
# Writing doubles

The digits of a number are `shortest`; a `Layout` holds the choices that a text format makes
about them. Each format of this library is one value of it, kept where that format is written.
-/

namespace Pagewise.Binary64

/-- The choices of one text format for doubles. -/
structure Layout where
  /-- Where an exact tie between two shortest decimals goes. -/
  tie : Tie
  /-- The exponents of the leading digit, from the first to the second, that are written without
  an exponent; all of them when absent. -/
  positional : Option (Int × Int)
  /-- What follows the digits of a whole number written without an exponent. -/
  wholeMark : String

namespace Layout

/-- Digits around a decimal point, filled up with zeros where the point lies outside of them. -/
def writePositional (l : Layout) (d : Digits) : String :=
  let n := d.digits.length
  if d.point ≤ 0 then
    "0." ++ String.ofList (List.replicate (-d.point).toNat '0' ++ d.digits)
  else if n ≤ d.point.toNat then
    String.ofList (d.digits ++ List.replicate (d.point.toNat - n) '0') ++ l.wholeMark
  else
    String.ofList (d.digits.take d.point.toNat) ++ "."
      ++ String.ofList (d.digits.drop d.point.toNat)

/-- One digit before the point, then the exponent with its sign. -/
def writeExponent (d : Digits) : String :=
  let fraction := match d.digits.drop 1 with
    | [] => ""
    | rest => "." ++ String.ofList rest
  let exponent := d.point - 1
  String.ofList (d.digits.take 1) ++ fraction ++ "e" ++ (if exponent < 0 then "-" else "+")
    ++ Nat.repr exponent.natAbs

/-- The digits of a positive finite magnitude in this format. -/
def writeMagnitude (l : Layout) (magnitude : Nat) : String :=
  let d := shortest l.tie magnitude
  let inRange := match l.positional with
    | none => true
    | some (least, greatest) => least < d.point && d.point ≤ greatest + 1
  if inRange then l.writePositional d else writeExponent d

/-- The text of a double; an infinity and what is not a number are written by name. -/
def write (l : Layout) (x : Binary64) : String :=
  let sign := if x.negative then "-" else ""
  if infinite < x.magnitude then "NaN"
  else if x.magnitude = infinite then sign ++ "inf"
  else if x.magnitude = 0 then sign ++ "0" ++ l.wholeMark
  else sign ++ l.writeMagnitude x.magnitude

end Layout

end Pagewise.Binary64
