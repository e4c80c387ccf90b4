import Pagewise.Cursor.Operations

/-!
# Reading decoded rows

A `Reader` is a cursor with a decoder, which turns a row into a value or refuses it. A row that is
refused was handed out all the same, and the decoder can be changed at any time. Operations are
values (`Op`), so that a whole session with a reader is a list of them: `Reader.run`. The rows that
`drain` gives are those of repeated `next`, up to the end or the first error.
-/

namespace Pagewise

/-- Turns a row into a value, or refuses it. -/
abbrev Decoder (α : Type) := Json → Except Error α

/-- A cursor whose rows are decoded. -/
structure Reader (α : Type) where
  cursor : Cursor
  decode : Decoder α

variable {α : Type}

/-- Decodes the row of a result, if there is one. -/
def Decoder.apply (decode : Decoder α) :
    Except Error (Option Json) → Except Error (Option α)
  | .error e => .error e
  | .ok none => .ok none
  | .ok (some row) => (decode row).map some

/-- What a reader can be asked. -/
inductive Op (α : Type) where
  | next
  | first
  | last
  | length
  | isEmpty
  | close
  /-- Decode with another decoder from now on. -/
  | decodeWith (decode : Decoder α)

/-- The result of an operation. -/
inductive Reply (α : Type) where
  /-- A row, or none at the end of the result. -/
  | row (row : Option α)
  | length (count : Nat)
  | isEmpty (empty : Bool)
  | done
deriving DecidableEq, Repr

namespace Reader

/-- A reader whose rows are the rows of the cursor. -/
def raw (c : Cursor) : Reader Json :=
  ⟨c, .ok⟩

/-- A reply with the reader and the wire afterwards. -/
def after {β : Type} (r : Reader α) (o : Outcome β)
    (reply : Except Error β → Except Error (Reply α)) :
    Except Error (Reply α) × Reader α × Wire :=
  (reply o.result, { r with cursor := o.cursor }, o.wire)

/-- A decoded row as a reply. -/
def rowReply (r : Reader α) (row : Except Error (Option Json)) : Except Error (Reply α) :=
  (r.decode.apply row).map .row

/-- Makes an operation. -/
def step (r : Reader α) (w : Wire) : Op α → Except Error (Reply α) × Reader α × Wire
  | .next => r.after (r.cursor.next w) r.rowReply
  | .first => r.after (r.cursor.first w) r.rowReply
  | .last => r.after (r.cursor.last w) r.rowReply
  | .length => r.after (r.cursor.length w) fun n => n.map .length
  | .isEmpty => r.after (r.cursor.isEmpty w) fun b => b.map .isEmpty
  | .close => r.after (r.cursor.close w) fun u => u.map fun () => .done
  | .decodeWith decode => (.ok .done, { r with decode }, w)

/-- Makes operations one after the other, whether they succeed or not. -/
def run (r : Reader α) (w : Wire) :
    List (Op α) → List (Except Error (Reply α)) × Reader α × Wire
  | [] => ([], r, w)
  | op :: ops =>
    let (reply, r, w) := r.step w op
    let (replies, r, w) := run r w ops
    (reply :: replies, r, w)

end Reader

/-! ## Streams -/

/-- A row that is handed out is taken from the buffer, or a page was fetched for it. -/
theorem Cursor.next_shrinks {c c' : Cursor} {w w' : Wire} {row : Json}
    (h : c.next w = ⟨.ok (some row), c', w'⟩) :
    w'.answers.length < w.answers.length ∨
      w'.answers.length = w.answers.length ∧ c'.buffer.length < c.buffer.length := by
  fun_induction Cursor.next c w with
  | case1 => simp at h
  | case2 => simp at h
  | case3 =>
    simp only [Outcome.mk.injEq] at h
    obtain ⟨-, rfl, rfl⟩ := h
    simp_all
  | case4 => simp at h
  | case5 c w _ _ _ _ c₁ w₁ fetched ih =>
    have fewer := Cursor.answers_length_lt_of_fetch fetched
    have := ih h
    omega
  | case6 => simp at h

/-- The rows of a reader up to the end of the result or the first error, which is the last item,
and the wire afterwards. -/
def Reader.drain (r : Reader α) (w : Wire) : List (Except Error α) × Wire :=
  match _taken : r.cursor.next w with
  | ⟨.error e, _, w⟩ => ([.error e], w)
  | ⟨.ok none, _, w⟩ => ([], w)
  | ⟨.ok (some row), c, w⟩ =>
    match r.decode row with
    | .error e => ([.error e], w)
    | .ok value =>
      let (values, w) := Reader.drain { r with cursor := c } w
      (.ok value :: values, w)
termination_by (w.answers.length, r.cursor.buffer.length)
decreasing_by
  rcases Cursor.next_shrinks _taken with h | ⟨h, h'⟩
  · exact Prod.Lex.left _ _ h
  · rw [h]
    exact Prod.Lex.right _ h'

end Pagewise
