import Pagewise.Json.Numeral
import Pagewise.Text.Hex

/-!
# The tokens of JSON text

`Token.ofText?` cuts a text into punctuation, literals, numerals and strings. A token can be
well-formed without standing for a value: a number can be too great for a double, and a string
can hold half of a surrogate pair. Such tokens carry no value; a reader that needs the value
refuses them, one that skips them does not.
-/

namespace Pagewise.Json

/-- A token of JSON text. -/
inductive Token where
  | openArray
  | closeArray
  | openObject
  | closeObject
  | comma
  | colon
  | null
  | bool (value : Bool)
  | number (value : Option Number)
  | string (value : Option String)
deriving DecidableEq, Repr

/-! ## Strings -/

/-- A part of a string as it is written: a character, or a 16-bit unit written in hexadecimal. -/
inductive Piece where
  | char (c : Char)
  | unit (n : Nat)
deriving DecidableEq, Repr

namespace Piece

/-- The first half of a surrogate pair. -/
def isHigh (n : Nat) : Bool := 0xD800 ≤ n && n < 0xDC00

/-- The second half of a surrogate pair. -/
def isLow (n : Nat) : Bool := 0xDC00 ≤ n && n < 0xE000

/-- The character that a surrogate pair stands for. -/
def pair (high low : Nat) : Char :=
  Char.ofNat (0x10000 + (high - 0xD800) * 0x400 + (low - 0xDC00))

/-- The characters of a string; a half of a pair has to be followed by the other half. -/
def decode? : List Piece → Option (List Char)
  | [] => some []
  | .char c :: rest => (decode? rest).map (c :: ·)
  | .unit n :: rest =>
    if isLow n then none
    else if isHigh n then
      match rest with
      | .unit m :: tail => if isLow m then (decode? tail).map (pair n m :: ·) else none
      | _ => none
    else (decode? rest).map (Char.ofNat n :: ·)

end Piece

/-- The control character or punctuation that an escape letter stands for. -/
def escaped? (c : Char) : Option Char :=
  if c = '"' ∨ c = '\\' ∨ c = '/' then some c
  else if c = 'b' then some (Char.ofNat 8)
  else if c = 'f' then some (Char.ofNat 12)
  else if c = 'n' then some '\n'
  else if c = 'r' then some '\r'
  else if c = 't' then some '\t'
  else none

/-- Reads a string from behind its opening quote: its pieces, and what follows the closing quote.
Control characters have to be escaped. -/
def scanString? : List Char → Option (List Piece × List Char)
  | [] => none
  | '"' :: rest => some ([], rest)
  | '\\' :: 'u' :: a :: b :: c :: d :: rest => do
    let n ← Text.hexNumber? [a, b, c, d]
    let (pieces, rest) ← scanString? rest
    return (.unit n :: pieces, rest)
  | '\\' :: e :: rest => do
    let c ← escaped? e
    let (pieces, rest) ← scanString? rest
    return (.char c :: pieces, rest)
  | c :: rest =>
    if c = '\\' || c.toNat < 32 then none
    else do
      let (pieces, rest) ← scanString? rest
      return (.char c :: pieces, rest)

theorem scanString?_length {text rest : List Char} {pieces : List Piece}
    (h : scanString? text = some (pieces, rest)) : rest.length < text.length := by
  fun_induction scanString? text generalizing pieces <;>
    simp_all [Option.bind_eq_some_iff] <;> grind

/-! ## Cutting -/

/-- The four blank characters between tokens. -/
def isBlank (c : Char) : Bool :=
  c = ' ' || c = '\t' || c = '\n' || c = '\r'

/-- The token that is a single character. -/
def punctuation? (c : Char) : Option Token :=
  if c = '[' then some .openArray
  else if c = ']' then some .closeArray
  else if c = '\x7b' then some .openObject
  else if c = '\x7d' then some .closeObject
  else if c = ',' then some .comma
  else if c = ':' then some .colon
  else none

/-- The literal in front of a text. -/
def scanLiteral? : List Char → Option (Token × List Char)
  | 'n' :: 'u' :: 'l' :: 'l' :: rest => some (.null, rest)
  | 't' :: 'r' :: 'u' :: 'e' :: rest => some (.bool true, rest)
  | 'f' :: 'a' :: 'l' :: 's' :: 'e' :: rest => some (.bool false, rest)
  | _ => none

/-- The string, literal or numeral in front of a text. -/
def scanValue? (text : List Char) : Option (Token × List Char) :=
  match text with
  | '"' :: rest =>
    (scanString? rest).map fun (pieces, rest) =>
      (.string ((Piece.decode? pieces).map String.ofList), rest)
  | _ =>
    match scanLiteral? text with
    | some found => some found
    | none => (Numeral.scan? text).map fun (n, rest) => (.number n.number?, rest)

theorem scanValue?_length {text rest : List Char} {t : Token}
    (h : scanValue? text = some (t, rest)) : rest.length < text.length := by
  unfold scanValue? at h
  split at h
  · obtain ⟨⟨pieces, r⟩, hs, h⟩ := Option.map_eq_some_iff.1 h
    have := scanString?_length hs
    grind
  · split at h
    · rename_i found
      unfold scanLiteral? at found
      grind
    · obtain ⟨⟨n, r⟩, hs, h⟩ := Option.map_eq_some_iff.1 h
      have := Numeral.scan?_length hs
      grind

/-- The tokens of a text; nothing when some part of it is no token. -/
def Token.ofText? : List Char → Option (List Token)
  | [] => some []
  | c :: rest =>
    if isBlank c then ofText? rest
    else match punctuation? c with
      | some t => (ofText? rest).map (t :: ·)
      | none =>
        match _found : scanValue? (c :: rest) with
        | some (t, after) => (ofText? after).map (t :: ·)
        | none => none
termination_by text => text.length
decreasing_by
  · simp
  · simp
  · exact scanValue?_length _found

end Pagewise.Json
