/-!
# Percent-encoding

A text as one segment of a URL path: the unreserved characters stand for themselves and every other
byte of the UTF-8 form is a percent sign and two digits. What is written so holds no delimiter of a
URL.
-/

namespace Pagewise.Text.Percent

/-- Letters, digits and `-`, `.`, `_`, `~`. -/
def isUnreserved (byte : UInt8) : Bool :=
  let n := byte.toNat
  (48 ≤ n && n ≤ 57) || (65 ≤ n && n ≤ 90) || (97 ≤ n && n ≤ 122)
    || n == 45 || n == 46 || n == 95 || n == 126

/-- A hexadecimal digit in upper case. -/
def hexDigit (n : Nat) : Char :=
  if n < 10 then Char.ofNat (48 + n) else Char.ofNat (55 + n)

/-- One byte within a segment. -/
def encodeByte (byte : UInt8) : List Char :=
  if isUnreserved byte then [Char.ofNat byte.toNat]
  else ['%', hexDigit (byte.toNat / 16), hexDigit (byte.toNat % 16)]

/-- The bytes of a text in UTF-8. -/
def utf8 (text : List Char) : List UInt8 :=
  text.flatMap String.utf8EncodeChar

/-- A text as a segment of a path. -/
def encode (s : String) : String :=
  String.ofList ((utf8 s.toList).flatMap encodeByte)

end Pagewise.Text.Percent
