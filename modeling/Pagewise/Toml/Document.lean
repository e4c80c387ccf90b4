import Pagewise.Toml.Scalar
import Pagewise.Toml.Assembly

/-!
# TOML documents

The grammar of values and lines, and the document that a text stands for. Arrays and inline tables
may span lines, hold comments and end with a comma; they are nested at most `maxDepth` deep.
-/

namespace Pagewise.Toml

/-- How many arrays and inline tables may be open at once. -/
def maxDepth : Nat := 80

/-! ## Values

Every reading takes a character or goes on to the part that does, so a fuel of a few units for each
character of the text is never used up. -/

mutual

/-- The value in front of a text, with at most `depth` arrays and inline tables open. -/
def scanValue? (fuel depth : Nat) (text : List Char) : Option (Toml × List Char) :=
  match fuel with
  | 0 => none
  | fuel + 1 =>
    if startsString text then
      (scanString? text).map fun (s, rest) => (.string (String.ofList s), rest)
    else
      match text, depth with
      | '[' :: rest, depth + 1 =>
        (scanItems? fuel depth rest).map fun (items, rest) => (.array items, rest)
      | '\x7b' :: rest, depth + 1 =>
        (scanEntries? fuel depth [] rest).map fun (entries, rest) =>
          (.table (Item.valuesOf entries), rest)
      | text, _ =>
        let (run, rest) := spanScalar text
        (scalarValue? run).map (·, rest)

/-- The items of an array, from behind its bracket or a comma. -/
def scanItems? (fuel depth : Nat) (text : List Char) : Option (List Toml × List Char) :=
  match fuel with
  | 0 => none
  | fuel + 1 => do
    match ← skipFiller? text with
    | ']' :: rest => return ([], rest)
    | text =>
      let (item, rest) ← scanValue? fuel depth text
      match ← skipFiller? rest with
      | ']' :: rest => return ([item], rest)
      | ',' :: rest =>
        let (items, rest) ← scanItems? fuel depth rest
        return (item :: items, rest)
      | _ => none

/-- The entries of an inline table, from behind its brace or a comma, added to those before. -/
def scanEntries? (fuel depth : Nat) (entries : Entries) (text : List Char) :
    Option (Entries × List Char) :=
  match fuel with
  | 0 => none
  | fuel + 1 => do
    match ← skipFiller? text with
    | '\x7d' :: rest => return (entries, rest)
    | text =>
      let (path, rest) ← scanPath? text
      match ← skipFiller? rest with
      | '=' :: rest =>
        let (value, rest) ← scanValue? fuel depth (← skipFiller? rest)
        let entries ← entries.assign? path value
        match ← skipFiller? rest with
        | '\x7d' :: rest => return (entries, rest)
        | ',' :: rest => scanEntries? fuel depth entries rest
        | _ => none
      | _ => none

end

/-! ## Lines -/

/-- The header between brackets in front of a text, and what follows the closing ones. -/
def scanHeader? (closing text : List Char) : Option (List String × List Char) := do
  let (path, rest) ← scanPath? text
  if closing.isPrefixOf rest then return (path, rest.drop closing.length) else none

/-- Reads lines one after the other, within the table of a header. The fuel bounds their number. -/
def readLines? (fuel : Nat) (header : List String) (entries : Entries) (text : List Char) :
    Option Entries :=
  match fuel with
  | 0 => none
  | fuel + 1 =>
    match text with
    | [] => some entries
    | '[' :: '[' :: rest => do
      let (path, rest) ← scanHeader? [']', ']'] rest
      let entries ← entries.append? path
      readLines? fuel path entries (← endLine? rest)
    | '[' :: rest => do
      let (path, rest) ← scanHeader? [']'] rest
      let entries ← entries.define? path
      readLines? fuel path entries (← endLine? rest)
    | text => do
      let (path, rest) ← scanPath? text
      match rest with
      | '=' :: rest =>
        let text := skipBlanks rest
        let (value, rest) ← scanValue? (4 * text.length + 4) maxDepth text
        let entries ← entries.assignUnder? header path value
        readLines? fuel header entries (← endLine? rest)
      | _ => none

/-- The mark that a text may begin with, and that is no part of it. -/
def byteOrderMark : Char := Char.ofNat 0xFEFF

/-- A text without the mark at its beginning. -/
def dropMark : List Char → List Char
  | c :: rest => if c = byteOrderMark then rest else c :: rest
  | [] => []

/-- The entries of the document that a text stands for. -/
def ofText? (text : String) : Option (List (String × Toml)) := do
  let lines ← skipFiller? (dropMark text.toList)
  let entries ← readLines? (lines.length + 1) [] [] lines
  return Item.valuesOf entries

end Pagewise.Toml
