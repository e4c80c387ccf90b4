import Pagewise.Options
import Pagewise.Error
import Pagewise.Exchange.Page
import Pagewise.Exchange.Wire
import Pagewise.Text.Percent

/-!
# Cursors

A cursor reads the result of a query page by page. It sends nothing until it is asked for
something; then it has the server create a cursor and advances that one page at a time, so at most
one page is in memory. `Statement` is what a cursor asks for, which never changes; the rest of a
`Cursor` is how far it has come.

Everything here is a function of the cursor and the wire. A request of the cursor's own result is
made by `fetch`; when it fails, so has the cursor. Requests about the result, such as for its number
of rows, are made beside it (`Statement.rowAt`, `Statement.count`): they have a cursor of their own
on the server, which is deleted at once if the server kept it.
-/

namespace Pagewise

/-- Where a cursor is in its life. -/
inductive Phase where
  /-- Nothing was fetched. -/
  | unstarted
  /-- A page was fetched, and more rows may follow. -/
  | active
  /-- All rows were handed out, or the cursor was closed. -/
  | exhausted
  /-- A page could not be fetched. -/
  | failed
deriving DecidableEq, Repr

/-- What a cursor asks for. -/
structure Statement where
  /-- Where the database is. -/
  endpoint : String
  /-- The text of the query. -/
  query : String
  /-- Whether the rows are to be counted when the cursor is created. -/
  count : Bool
  batchSize : Option Nat
  binds : List (String × Json)

/-- A cursor. -/
structure Cursor extends Statement where
  phase : Phase
  /-- The name of the cursor on the server, as it was last told. -/
  id : Option String
  /-- Whether the server holds more rows, or was not asked yet. -/
  hasMore : Bool
  /-- The rows that were fetched and not yet handed out. -/
  buffer : List Json
  /-- The first row of the result, once a page was fetched; the result may have no first row. -/
  head : Option (Option Json)
  /-- The number of rows of the whole result, once it is known. -/
  total : Option Nat

/-- A cursor that has fetched nothing. -/
def Statement.cursor (s : Statement) : Cursor :=
  { s with
    phase := .unstarted
    id := none
    hasMore := true
    buffer := []
    head := none
    total := none }

/-! ## Answers -/

namespace Response

/-- Refuses a response that does not tell of success. What the body does not say is the text of the
body, and zero. -/
def check (r : Response) : Except Error Unit :=
  if r.isSuccess then .ok ()
  else
    let said := Refusal.ofText r.text
    .error (.refused (said.message.getD r.text) (said.number.getD 0) r.status)

/-- The page that a response brings. -/
def page (r : Response) : Except Error Page :=
  match r.check with
  | .error e => .error e
  | .ok () =>
    match Page.ofText? r.text with
    | some p => .ok p
    | none => .error .json

end Response

namespace Wire

/-- Sends a request for a page. -/
def ask (request : Request) (w : Wire) : Except Error Page × Wire :=
  match w.send request with
  | (.error e, w) => (.error (.transport e), w)
  | (.ok response, w) => (response.page, w)

/-- Sends a request whose success alone matters. -/
def order (request : Request) (w : Wire) : Except Error Unit × Wire :=
  match w.send request with
  | (.error e, w) => (.error (.transport e), w)
  | (.ok response, w) => (response.check, w)

end Wire

/-! ## Requests -/

/-- The path of the cursors of a database. -/
def cursorPath : String := "/_api/cursor"

/-- The path of one cursor. -/
def cursorPathOf (id : String) : String :=
  cursorPath ++ "/" ++ Text.Percent.encode id

namespace Statement

/-- The request that creates a cursor over a text, with the bind variables of the statement. -/
def creation (s : Statement) (query : String) (count : Bool) (batchSize : Option Nat) : Request :=
  .carrying .post (s.endpoint ++ cursorPath)
    (some (Creation.print ⟨query, count, batchSize, s.binds⟩))

/-- The request for the next page of a cursor. -/
def advance (s : Statement) (id : String) : Request :=
  .carrying .put (s.endpoint ++ cursorPathOf id) none

/-- The request that deletes a cursor. -/
def deletion (s : Statement) (id : String) : Request :=
  .carrying .delete (s.endpoint ++ cursorPathOf id) none

/-! ## Requests beside the result -/

/-- Deletes the cursor that a page belongs to, if the server kept it. -/
def discard (s : Statement) (p : Page) (w : Wire) : Except Error Unit × Wire :=
  match p.id, p.hasMore with
  | some id, true => w.order (s.deletion id)
  | _, _ => (.ok (), w)

/-- The query for the one row at a position of the result, counted from zero. -/
def queryAt (s : Statement) (position : Nat) : String :=
  "FOR row IN (" ++ s.query ++ ") LIMIT " ++ Nat.repr position ++ ", 1 RETURN row"

/-- The row at a position of the result, by a query of its own. -/
def rowAt (s : Statement) (position : Nat) (w : Wire) : Except Error (Option Json) × Wire :=
  match w.ask (s.creation (s.queryAt position) false (some 1)) with
  | (.error e, w) => (.error e, w)
  | (.ok p, w) =>
    match s.discard p w with
    | (.error e, w) => (.error e, w)
    | (.ok (), w) => (.ok p.rows.head?, w)

end Statement

/-! ## Fetching -/

/-- What an operation gives: its result, and the cursor and the wire afterwards. -/
structure Outcome (α : Type) where
  result : Except Error α
  cursor : Cursor
  wire : Wire

/-- The same outcome with another result. -/
def Outcome.map {α β : Type} (f : Except Error α → Except Error β) (o : Outcome α) : Outcome β :=
  ⟨f o.result, o.cursor, o.wire⟩

namespace Cursor

/-- Nothing more is handed out. -/
def finish (c : Cursor) : Cursor :=
  { c with phase := .exhausted, id := none, hasMore := false, buffer := [] }

/-- Nothing more can be handed out. -/
def fail (c : Cursor) : Cursor :=
  { c with phase := .failed, id := none, hasMore := false, buffer := [] }

/-- Takes in a page. The first page tells the first row; a count that is known stays. -/
def receive (c : Cursor) (p : Page) : Cursor :=
  { c with
    phase := .active
    id := p.id.or c.id
    hasMore := p.hasMore
    buffer := p.rows
    head := if c.phase = .unstarted then some p.rows.head? else c.head
    total := c.total.or p.count }

/-- The request for the next page; there is none when the cursor on the server was never named. -/
def pageRequest (c : Cursor) (count : Bool) : Except Error Request :=
  match c.phase, c.id with
  | .unstarted, _ => .ok (c.creation c.query count c.batchSize)
  | _, some id => .ok (c.advance id)
  | _, none => .error (.invalidResponse .noId)

/-- Fetches the next page in place of the buffered one. -/
def fetch (c : Cursor) (count : Bool) (w : Wire) : Outcome Unit :=
  match c.pageRequest count with
  | .error e => ⟨.error e, c.fail, w⟩
  | .ok request =>
    match w.ask request with
    | (.error e, w) => ⟨.error e, c.fail, w⟩
    | (.ok p, w) => ⟨.ok (), c.receive p, w⟩

end Cursor

theorem Wire.answers_length_lt_of_ask {request : Request} {w : Wire} {p : Page}
    (h : (w.ask request).1 = .ok p) :
    (w.ask request).2.answers.length < w.answers.length := by
  have sent := @Wire.answers_length_lt_of_send request w
  unfold Wire.ask at *
  rcases hs : w.send request with ⟨_ | r, w'⟩ <;> simp_all

/-- A page that was fetched took an answer away. -/
theorem Cursor.answers_length_lt_of_fetch {c c' : Cursor} {count : Bool} {w w' : Wire}
    (h : c.fetch count w = ⟨.ok (), c', w'⟩) : w'.answers.length < w.answers.length := by
  unfold Cursor.fetch at h
  split at h
  · simp at h
  · rename_i request _
    have asked := @Wire.answers_length_lt_of_ask request w
    rcases ha : w.ask request with ⟨_ | p, w''⟩ <;> simp_all

end Pagewise
