import Pagewise.Toml.Basic
import Pagewise.Toml.Text

/-!
# Numbers, dates and truth values in TOML text

A scalar is a run of words, mostly of one. Its form decides what it is; no two forms overlap.
-/

namespace Pagewise.Toml

/-! ## Numbers -/

/-- Whether a character is a digit in a base up to sixteen. -/
def isDigitIn (base : Nat) (c : Char) : Bool := (Text.number? base [c]).isSome

/-- Whether every underscore of a text stands between two digits. -/
def isGrouped (isDigit : Char → Bool) : List Char → Bool
  | [] => true
  | a :: '_' :: b :: rest => isDigit a && isDigit b && isGrouped isDigit (b :: rest)
  | c :: rest => c != '_' && isGrouped isDigit rest

/-- Digits, at least one, without the underscores between them. -/
def ungroup? (isDigit : Char → Bool) (text : List Char) : Option (List Char) :=
  if !text.isEmpty && text.all (fun c => isDigit c || c = '_') && isGrouped isDigit text then
    some (text.filter (· != '_'))
  else none

/-- Decimal digits without a leading zero, the digit zero apart. -/
def wholeDigits? (text : List Char) : Option (List Char) :=
  (ungroup? Decimal.isDigit text).bind fun digits =>
    if digits.head? = some '0' && 1 < digits.length then none else some digits

/-- A sign, if there is one, and what follows it. -/
def splitSign : List Char → Bool × List Char
  | '-' :: rest => (true, rest)
  | '+' :: rest => (false, rest)
  | rest => (false, rest)

/-- An integer in another base than ten, from behind the prefix that tells the base. It has no sign,
and the form of an integer also without any digit. -/
def based? (base : Nat) (text : List Char) : Option (Option Int) :=
  if text.isEmpty then some none
  else (ungroup? (isDigitIn base) text).map fun digits =>
    (Text.number? base digits).map Int.ofNat

/-- Whether a text has the form of an integer in base ten, its digits apart: it begins with digits
and an underscore, has no space, no point and no letter of an exponent, and every underscore stands
between two hexadecimal digits. -/
def looksDecimal (text : List Char) : Bool :=
  let (digits, more) := Decimal.span text
  !digits.isEmpty && digits.head? != some '0' && more.head? = some '_'
    && !more.any (fun c => c = ' ' || c = '.' || c = 'e' || c = 'E')
    && isGrouped (isDigitIn 16) text

/-- An integer in base ten. -/
def decimal? (text : List Char) : Option (Option Int) :=
  let (negative, rest) := splitSign text
  match wholeDigits? rest with
  | some digits =>
    let n : Int := Decimal.value digits
    some (some (if negative then -n else n))
  | none => if looksDecimal rest then some none else none

/-- An integer in any base. -/
def integer? : List Char → Option (Option Int)
  | '0' :: 'x' :: rest => based? 16 rest
  | '0' :: 'o' :: rest => based? 8 rest
  | '0' :: 'b' :: rest => based? 2 rest
  | text => decimal? text

/-- The part of a run of digits and underscores in front of a text, and the rest. -/
def spanGrouped (text : List Char) : List Char × List Char :=
  let isPart (c : Char) : Bool := Decimal.isDigit c || c = '_'
  (text.takeWhile isPart, text.dropWhile isPart)

/-- The exponent of a float, if there is one; nothing else may follow. -/
def exponent? : List Char → Option (Option Int)
  | [] => some none
  | c :: rest =>
    if c = 'e' || c = 'E' then
      let (negative, rest) := splitSign rest
      (ungroup? Decimal.isDigit rest).map fun digits =>
        let n : Int := Decimal.value digits
        some (if negative then -n else n)
    else none

/-- A float with a fraction, an exponent or both, or the name of one. -/
def float? (text : List Char) : Option (Option Binary64) := do
  let (negative, rest) := splitSign text
  if rest = ['i', 'n', 'f'] then return some (.infinity negative)
  else if rest = ['n', 'a', 'n'] then return some { Binary64.nan with negative }
  else
    let (whole, rest) := spanGrouped rest
    let whole ← wholeDigits? whole
    let (fraction, rest) ← match rest with
      | '.' :: rest =>
        let (fraction, rest) := spanGrouped rest
        (ungroup? Decimal.isDigit fraction).map (·, rest)
      | rest => some ([], rest)
    let exponent ← exponent? rest
    if fraction.isEmpty && exponent.isNone then none
    else
      let x := Binary64.ofDecimal negative (Decimal.value (whole ++ fraction))
        (exponent.getD 0 - fraction.length)
      return if x.isInfinite then none else some x

/-! ## Dates and times -/

/-- A number of two digits within bounds. -/
def twoDigits? (low high : Nat) : List Char → Option (Nat × List Char)
  | a :: b :: rest =>
    if Decimal.isDigit a && Decimal.isDigit b then
      let n := Decimal.value [a, b]
      if low ≤ n ∧ n ≤ high then some (n, rest) else none
    else none
  | _ => none

/-- Whether a year has a 29th of February. -/
def isLeap (year : Nat) : Bool :=
  year % 4 = 0 && (year % 100 ≠ 0 || year % 400 = 0)

/-- The number of days of a month, counted from one. -/
def daysIn (year month : Nat) : Nat :=
  if month = 2 then (if isLeap year then 29 else 28)
  else if month = 4 ∨ month = 6 ∨ month = 9 ∨ month = 11 then 30
  else 31

/-- The day in front of a text; gives what follows. -/
def skipDate? : List Char → Option (List Char)
  | a :: b :: c :: d :: '-' :: rest =>
    if [a, b, c, d].all Decimal.isDigit then do
      let year := Decimal.value [a, b, c, d]
      let (month, rest) ← twoDigits? 1 12 rest
      match rest with
      | '-' :: rest =>
        let (_, rest) ← twoDigits? 1 (daysIn year month) rest
        return rest
      | _ => none
    else none
  | _ => none

/-- The fraction of a second in front of a text, if there is a point; gives what follows. -/
def skipFraction? : List Char → Option (List Char)
  | '.' :: rest =>
    let (digits, rest) := Decimal.span rest
    if digits.isEmpty then none else some rest
  | rest => some rest

/-- The time of day in front of a text, with or without seconds; gives what follows. -/
def skipTime? (text : List Char) : Option (List Char) := do
  let (_, rest) ← twoDigits? 0 23 text
  match rest with
  | ':' :: rest =>
    let (_, rest) ← twoDigits? 0 59 rest
    match rest with
    | ':' :: rest =>
      let (_, rest) ← twoDigits? 0 60 rest
      skipFraction? rest
    | rest => return rest
  | _ => none

/-- Whether a text is an offset from universal time, less than a day, or empty. -/
def isOffset : List Char → Bool
  | [] => true
  | ['z'] | ['Z'] => true
  | '+' :: rest | '-' :: rest =>
    match twoDigits? 0 23 rest with
    | some (_, ':' :: rest) =>
      match twoDigits? 0 59 rest with
      | some (_, []) => true
      | _ => false
    | _ => false
  | _ => false

/-- Whether a text is a date, a time, or a date and a time with or without an offset. -/
def isMoment (text : List Char) : Bool :=
  match skipDate? text with
  | some [] => true
  | some (c :: rest) =>
    (c = 'T' || c = 't' || c = ' ') && ((skipTime? rest).map isOffset).getD false
  | none => skipTime? text = some []

/-! ## Scalars -/

/-- The characters of the words of scalars: all that neither part values nor begin a comment. -/
def isScalarChar (c : Char) : Bool :=
  !(isBlank c || c = '\n' || c = '\r' || c = '#' || c = ',' || c = '=' || c = '[' || c = ']'
    || c = '\x7b' || c = '\x7d')

/-- Whether a word comes next behind blanks: a point or a quote begins none. -/
def wordFollows (text : List Char) : Bool :=
  match skipBlanks text with
  | c :: _ => isScalarChar c && c != '.' && c != '"' && c != '\''
  | [] => false

/-- The run of a scalar in front of a text, and the rest. Blanks between words belong to it, as they
do between a date and a time. -/
def spanScalar : List Char → List Char × List Char
  | [] => ([], [])
  | c :: rest =>
    if isScalarChar c || (isBlank c && wordFollows rest) then
      let (run, rest) := spanScalar rest
      (c :: run, rest)
    else ([], c :: rest)

/-- What a scalar stands for. -/
def scalarValue? (run : List Char) : Option Toml :=
  if run = ['t', 'r', 'u', 'e'] then some (.boolean true)
  else if run = ['f', 'a', 'l', 's', 'e'] then some (.boolean false)
  else match integer? run with
    | some n => some (.integer n)
    | none =>
      match float? run with
      | some x => some (.float x)
      | none => if isMoment run then some .moment else none

end Pagewise.Toml
