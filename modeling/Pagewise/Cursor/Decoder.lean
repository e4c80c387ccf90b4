import Pagewise.Cursor.Reader
import Pagewise.Json.Record

/-!
# Decoders

Decoders for rows of one kind. They refuse a row of any other kind, and none of them converts.
-/

namespace Pagewise.Decoder

/-- Rows as they are. -/
def value : Decoder Json := .ok

/-- What a reading of values gives; a row that it does not read is refused. -/
def ofReading {α : Type} (read : Json → Option α) : Decoder α := fun row =>
  match read row with
  | some a => .ok a
  | none => .error .json

/-- Rows that are strings. -/
def string : Decoder String := ofReading Json.string?

/-- Rows that are integers within bounds, both included. -/
def intWithin (low high : Int) : Decoder Int := ofReading (Json.intWithin? low high)

/-- The kind of a row; a row without a value has none. -/
def kind : Decoder Json.Kind := fun row =>
  match row with
  | .null => .error (.invalidResponse (.row "null row"))
  | row => .ok row.kind

/-- The same rows, put into another form. -/
def map {α β : Type} (f : α → β) (decode : Decoder α) : Decoder β := fun row =>
  (decode row).map f

end Pagewise.Decoder
