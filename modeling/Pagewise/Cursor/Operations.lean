import Pagewise.Cursor.Basic

/-!
# What a cursor can be asked

Rows one after the other (`next`), the first and the last row of the whole result (`first`,
`last`), the number of its rows (`length`, `isEmpty`), and to give up the rest (`close`). The rows
are handed out as the server sent them; decoding is `Reader`'s.

`next` goes on fetching as long as it receives empty pages that announce more; each of them takes
an answer from the wire, so it ends.
-/

namespace Pagewise.Cursor

/-- The next row; nothing at the end of the result. -/
def next (c : Cursor) (w : Wire) : Outcome (Option Json) :=
  if c.phase = .failed then ⟨.error .cursorFailed, c, w⟩
  else if c.phase = .exhausted then ⟨.ok none, c, w⟩
  else match c.buffer with
    | row :: rest => ⟨.ok (some row), { c with buffer := rest }, w⟩
    | [] =>
      if c.phase = .unstarted ∨ c.hasMore then
        match _fetched : c.fetch c.count w with
        | ⟨.error e, c, w⟩ => ⟨.error e, c, w⟩
        | ⟨.ok (), c, w⟩ => next c w
      else ⟨.ok none, c.finish, w⟩
termination_by w.answers.length
decreasing_by exact answers_length_lt_of_fetch _fetched

/-- The first row of the recorded head, or of a query of its own when nothing was recorded. -/
def headRow (c : Cursor) (w : Wire) : Outcome (Option Json) :=
  match c.head with
  | some head => ⟨.ok head, c, w⟩
  | none =>
    let (row, w) := c.rowAt 0 w
    ⟨row, c, w⟩

/-- The first row of the whole result, wherever the cursor is; nothing when there are no rows. -/
def first (c : Cursor) (w : Wire) : Outcome (Option Json) :=
  match c.phase with
  | .failed => ⟨.error .cursorFailed, c, w⟩
  | .unstarted =>
    match c.fetch c.count w with
    | ⟨.error e, c, w⟩ => ⟨.error e, c, w⟩
    | ⟨.ok (), c, w⟩ => c.headRow w
  | .active | .exhausted => c.headRow w

/-- The number of rows once it should be known. -/
def knownTotal (c : Cursor) : Except Error Nat :=
  match c.total with
  | some n => .ok n
  | none => .error (.invalidResponse .noCount)

/-- Counts the rows by a query of its own, and remembers the number. -/
def recount (c : Cursor) (w : Wire) : Outcome Nat :=
  match w.ask (c.creation c.query true (some 1)) with
  | (.error e, w) => ⟨.error e, c, w⟩
  | (.ok p, w) =>
    let counted := { c with total := p.count }
    match c.discard p w with
    | (.error e, w) => ⟨.error e, counted, w⟩
    | (.ok (), w) => ⟨counted.knownTotal, counted, w⟩

/-- The number of rows of the whole result. A cursor that has not started fetches its first page
and has the rows counted with it; one that has started asks beside its own result. -/
def length (c : Cursor) (w : Wire) : Outcome Nat :=
  match c.total with
  | some n => ⟨.ok n, c, w⟩
  | none =>
    match c.phase with
    | .failed => ⟨.error .cursorFailed, c, w⟩
    | .unstarted =>
      match c.fetch true w with
      | ⟨.error e, c, w⟩ => ⟨.error e, c, w⟩
      | ⟨.ok (), c, w⟩ => ⟨c.knownTotal, c, w⟩
    | .active | .exhausted => c.recount w

/-- Whether the whole result has no rows. -/
def isEmpty (c : Cursor) (w : Wire) : Outcome Bool :=
  (c.length w).map fun result => result.map (· == 0)

/-- The last row of the whole result, by a query of its own; nothing when there are no rows. -/
def last (c : Cursor) (w : Wire) : Outcome (Option Json) :=
  if c.phase = .failed then ⟨.error .cursorFailed, c, w⟩
  else match c.length w with
    | ⟨.error e, c, w⟩ => ⟨.error e, c, w⟩
    | ⟨.ok 0, c, w⟩ => ⟨.ok none, c, w⟩
    | ⟨.ok (n + 1), c, w⟩ =>
      let (row, w) := c.rowAt n w
      ⟨row, c, w⟩

/-- What is left of a cursor that was closed. -/
def closed (c : Cursor) : Cursor :=
  if c.phase = .failed then c else c.finish

/-- Gives up the rest of the rows, and deletes the cursor on the server if it holds any. -/
def close (c : Cursor) (w : Wire) : Outcome Unit :=
  match c.id, c.hasMore with
  | some id, true =>
    match w.order (c.deletion id) with
    | (.error e, w) => ⟨.error e, c, w⟩
    | (.ok (), w) => ⟨.ok (), c.closed, w⟩
  | _, _ => ⟨.ok (), c.closed, w⟩

end Pagewise.Cursor
