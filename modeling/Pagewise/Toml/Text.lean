import Pagewise.Text.Hex

/-!
# The smallest parts of TOML text

Blanks, comments, the four kinds of strings, and keys. Each function takes a part from the front of
a text and gives what it stands for and the rest, or nothing when the front is malformed.
-/

namespace Pagewise.Toml

/-- Blanks within a line. -/
def isBlank (c : Char) : Bool := c = ' ' || c = '\t'

/-- A text from its first character that is no blank. -/
def skipBlanks (text : List Char) : List Char := text.dropWhile isBlank

/-- Controls that may not be written as they are; the tab is none of them. -/
def isControl (c : Char) : Bool := (c.toNat < 32 && c != '\t') || c.toNat = 127

mutual

/-- Skips blanks, line ends and comments. -/
def skipFiller? : List Char → Option (List Char)
  | ' ' :: rest => skipFiller? rest
  | '\t' :: rest => skipFiller? rest
  | '\n' :: rest => skipFiller? rest
  | '\r' :: '\n' :: rest => skipFiller? rest
  | '#' :: rest => skipComment? rest
  | rest => some rest

/-- Skips the rest of a comment and the filler behind it. -/
def skipComment? : List Char → Option (List Char)
  | [] => some []
  | '\n' :: rest => skipFiller? rest
  | '\r' :: '\n' :: rest => skipFiller? rest
  | c :: rest => if isControl c then none else skipComment? rest

end

/-- Ends a line: nothing but blanks and a comment may follow, and then the line or the text ends.
Gives what follows the filler behind it. -/
def endLine? (text : List Char) : Option (List Char) :=
  match skipBlanks text with
  | [] => some []
  | '\n' :: rest => skipFiller? rest
  | '\r' :: '\n' :: rest => skipFiller? rest
  | '#' :: rest => skipComment? rest
  | _ => none

/-! ## Strings -/

/-- The character with a given code point, if there is one. -/
def scalar? (digits : List Char) : Option Char :=
  (Text.hexNumber? digits).bind fun n =>
    if n < 0xD800 ∨ (0xDFFF < n ∧ n < 0x110000) then some (Char.ofNat n) else none

/-- The character that an escape of one letter stands for. -/
def escaped? (c : Char) : Option Char :=
  if c = '"' ∨ c = '\\' then some c
  else if c = 'b' then some (Char.ofNat 8)
  else if c = 't' then some '\t'
  else if c = 'n' then some '\n'
  else if c = 'f' then some (Char.ofNat 12)
  else if c = 'r' then some '\r'
  else if c = 'e' then some (Char.ofNat 27)
  else none

/-- Puts a character in front of a string that was taken from a text. -/
def consFound? (c : Option Char) (found : Option (List Char × List Char)) :
    Option (List Char × List Char) := do
  let c ← c
  let (chars, rest) ← found
  return (c :: chars, rest)

/-- A string on one line, from behind its opening double quote. -/
def scanBasic? : List Char → Option (List Char × List Char)
  | '"' :: rest => some ([], rest)
  | '\\' :: 'x' :: a :: b :: rest => consFound? (scalar? [a, b]) (scanBasic? rest)
  | '\\' :: 'u' :: a :: b :: c :: d :: rest =>
    consFound? (scalar? [a, b, c, d]) (scanBasic? rest)
  | '\\' :: 'U' :: a :: b :: c :: d :: e :: f :: g :: h :: rest =>
    consFound? (scalar? [a, b, c, d, e, f, g, h]) (scanBasic? rest)
  | '\\' :: e :: rest => consFound? (escaped? e) (scanBasic? rest)
  | c :: rest => if isControl c || c = '\\' then none else consFound? (some c) (scanBasic? rest)
  | [] => none

/-- A string without escapes on one line, from behind its opening single quote. -/
def scanLiteral? : List Char → Option (List Char × List Char)
  | '\'' :: rest => some ([], rest)
  | c :: rest => if isControl c then none else consFound? (some c) (scanLiteral? rest)
  | [] => none

/-- Where the reading of a string of several lines stands. -/
inductive Folding where
  /-- In the text. -/
  | off
  /-- Behind a backslash with blanks, where the line has to end. -/
  | lineEnd
  /-- Behind such a line end, where blanks and further line ends are dropped. -/
  | on
deriving DecidableEq

/-- A string of several lines, from behind its opening quotes. Up to two quotes stand for
themselves, also in front of the closing three. -/
def scanMultiline? : Folding → List Char → Option (List Char × List Char)
  | .lineEnd, ' ' :: rest => scanMultiline? .lineEnd rest
  | .lineEnd, '\t' :: rest => scanMultiline? .lineEnd rest
  | .lineEnd, '\n' :: rest => scanMultiline? .on rest
  | .lineEnd, '\r' :: '\n' :: rest => scanMultiline? .on rest
  | .lineEnd, _ => none
  | .on, ' ' :: rest => scanMultiline? .on rest
  | .on, '\t' :: rest => scanMultiline? .on rest
  | .on, '\n' :: rest => scanMultiline? .on rest
  | .on, '\r' :: '\n' :: rest => scanMultiline? .on rest
  | _, '"' :: '"' :: '"' :: '"' :: '"' :: rest => some (['"', '"'], rest)
  | _, '"' :: '"' :: '"' :: '"' :: rest => some (['"'], rest)
  | _, '"' :: '"' :: '"' :: rest => some ([], rest)
  | _, '\\' :: 'x' :: a :: b :: rest =>
    consFound? (scalar? [a, b]) (scanMultiline? .off rest)
  | _, '\\' :: 'u' :: a :: b :: c :: d :: rest =>
    consFound? (scalar? [a, b, c, d]) (scanMultiline? .off rest)
  | _, '\\' :: 'U' :: a :: b :: c :: d :: e :: f :: g :: h :: rest =>
    consFound? (scalar? [a, b, c, d, e, f, g, h]) (scanMultiline? .off rest)
  | _, '\\' :: e :: rest =>
    if isBlank e || e = '\n' || e = '\r' then scanMultiline? .lineEnd (e :: rest)
    else consFound? (escaped? e) (scanMultiline? .off rest)
  | _, '\r' :: '\n' :: rest =>
    consFound? (some '\r') (consFound? (some '\n') (scanMultiline? .off rest))
  | _, c :: rest =>
    if c = '\\' || (isControl c && c != '\n') then none
    else consFound? (some c) (scanMultiline? .off rest)
  | _, [] => none

/-- A string of several lines without escapes, from behind its opening quotes. -/
def scanMultilineLiteral? : List Char → Option (List Char × List Char)
  | '\'' :: '\'' :: '\'' :: '\'' :: '\'' :: rest => some (['\'', '\''], rest)
  | '\'' :: '\'' :: '\'' :: '\'' :: rest => some (['\''], rest)
  | '\'' :: '\'' :: '\'' :: rest => some ([], rest)
  | '\r' :: '\n' :: rest =>
    consFound? (some '\r') (consFound? (some '\n') (scanMultilineLiteral? rest))
  | c :: rest =>
    if isControl c && c != '\n' then none
    else consFound? (some c) (scanMultilineLiteral? rest)
  | [] => none

/-- A line end right behind the opening quotes of a string of several lines is no part of it. -/
def dropLineEnd : List Char → List Char
  | '\n' :: rest => rest
  | '\r' :: '\n' :: rest => rest
  | rest => rest

/-- Whether a text begins with a string. -/
def startsString : List Char → Bool
  | c :: _ => c = '"' || c = '\''
  | [] => false

/-- The string of any kind in front of a text. -/
def scanString? : List Char → Option (List Char × List Char)
  | '"' :: '"' :: '"' :: rest => scanMultiline? .off (dropLineEnd rest)
  | '\'' :: '\'' :: '\'' :: rest => scanMultilineLiteral? (dropLineEnd rest)
  | '"' :: rest => scanBasic? rest
  | '\'' :: rest => scanLiteral? rest
  | _ => none

/-! ## Keys -/

/-- The characters of a key without quotes. -/
def isBare (c : Char) : Bool :=
  ('a' ≤ c && c ≤ 'z') || ('A' ≤ c && c ≤ 'Z') || ('0' ≤ c && c ≤ '9') || c = '_' || c = '-'

/-- One key. -/
def scanKey? : List Char → Option (String × List Char)
  | '"' :: rest => (scanBasic? rest).map fun (key, rest) => (String.ofList key, rest)
  | '\'' :: rest => (scanLiteral? rest).map fun (key, rest) => (String.ofList key, rest)
  | text =>
    let key := text.takeWhile isBare
    if key.isEmpty then none else some (String.ofList key, text.dropWhile isBare)

/-- At most a number of keys with points between them, and what follows the blanks behind them. -/
def scanKeys? : Nat → List Char → Option (List String × List Char)
  | 0, _ => none
  | most + 1, text => do
    let (key, rest) ← scanKey? (skipBlanks text)
    match skipBlanks rest with
    | '.' :: rest =>
      let (keys, rest) ← scanKeys? most rest
      return (key :: keys, rest)
    | rest => return ([key], rest)

/-- How many keys a path may have. -/
def maxKeys : Nat := 80

/-- A path of keys, and what follows the blanks behind it. -/
def scanPath? (text : List Char) : Option (List String × List Char) :=
  scanKeys? maxKeys text

end Pagewise.Toml
