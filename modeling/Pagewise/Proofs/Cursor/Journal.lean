import Pagewise.Proofs.Cursor.Invariant

/-!
# Journals

The journal of an operation is what happens to the cursor while the operation runs. Each follows
the operation it belongs to, and `Cursor.Records` says that it is right: its events were allowed,
they lead from the cursor before the operation to the cursor after it, and its exchanges are what
went over the wire. `Reader.journal` is the journal of a whole session.

Results:
* `Reader.rowReply_eq`: to a row the decoder's verdict is replied.
* `Cursor.fetch_eq`: fetching a page is one event, which decides whether it fails.
* `Reader.mem_of_inspects`: what tells of the whole result asks beside it only.
* `Cursor.closes`: what closing does, by whether the server holds the cursor.
* **`Reader.records_step`**, **`Reader.records_run`**: the journals of operations and of sessions
  are right.
-/

namespace Pagewise

/-! ## What went over the wire -/

namespace Wire

/-- The wire after an event of a cursor over a statement. -/
def after (s : Statement) (w : Wire) : Event → Wire
  | .exchange _ d _ => (w.send (d.request s)).2
  | _ => w

/-- The answer of an event, if it has one, is what the wire brought. -/
def Brings (s : Statement) (w : Wire) : Event → Prop
  | .exchange _ d a => a = (w.send (d.request s)).1
  | _ => True

/-- The exchanges of a journal, in their order, are what was sent and answered between two wires. -/
inductive Carries (s : Statement) (w : Wire) : Journal → Wire → Prop
  | start : Carries s w [] w
  | step {j : Journal} {m : Wire} {e : Event} (before : Carries s w j m) (brought : m.Brings s e) :
      Carries s w (j ++ [e]) (m.after s e)

variable {s : Statement} {w m w' : Wire} {j k : Journal}

theorem Carries.append (h : w.Carries s j m) (h' : m.Carries s k w') : w.Carries s (j ++ k) w' := by
  induction h' with
  | start => rwa [List.append_nil]
  | step _ brought ih =>
    rw [← List.append_assoc]
    exact .step ih brought

/-- The requests that were sent are those of the journal. -/
theorem Carries.sent_eq (h : w.Carries s j w') :
    w'.sent = w.sent ++ j.exchanges.map fun x => x.1.request s := by
  induction h with
  | start => exact (List.append_nil _).symm
  | @step _ _ e _ _ ih =>
    rw [Journal.exchanges_append, List.map_append, ← List.append_assoc, ← ih]
    cases e with
    | exchange p d a => exact sent_send _ _
    | _ => exact (List.append_nil _).symm

end Wire

/-- A journal leads from a cursor and a wire to a cursor and a wire. -/
structure Cursor.Records (c : Cursor) (w : Wire) (j : Journal) (c' : Cursor) (w' : Wire) :
    Prop where
  course : c.Course j c'
  carried : w.Carries c.toStatement j w'

namespace Cursor.Records

variable {c m c' : Cursor} {w v w' : Wire} {j k : Journal} {e : Event}

theorem refl (c : Cursor) (w : Wire) : c.Records w [] c w :=
  ⟨.start, .start⟩

theorem single (allowed : c.Allows e) (brought : w.Brings c.toStatement e) :
    c.Records w [e] (c.after e) (w.after c.toStatement e) :=
  ⟨.single allowed, .step .start brought⟩

theorem append (h : c.Records w j m v) (h' : m.Records v k c' w') :
    c.Records w (j ++ k) c' w' := by
  refine ⟨h.course.append h'.course, h.carried.append ?_⟩
  rw [← h.course.toStatement_eq]
  exact h'.carried

end Cursor.Records

/-! ## Journals of requests -/

namespace Statement

/-- The deletion of the cursor that a page belongs to, if the server kept it. -/
def discardJournal (s : Statement) (p : Page) (w : Wire) : Journal :=
  match p.id, p.hasMore with
  | some id, true => [.exchange .discard (.delete id) (w.send (s.deletion id)).1]
  | _, _ => []

/-- A demand beside the result, and the deletion of the cursor that it left on the server. -/
def besideJournal (s : Statement) (purpose : Purpose) (d : Demand) (w : Wire) : Journal :=
  .exchange purpose d (w.send (d.request s)).1 ::
    match (w.send (d.request s)).1.page with
    | .ok p => s.discardJournal p (w.send (d.request s)).2
    | .error _ => []

/-- The row at a position, beside the result. -/
def rowJournal (s : Statement) (position : Nat) (w : Wire) : Journal :=
  s.besideJournal (.row position) (.create (s.queryAt position) false (some 1)) w

end Statement

namespace Cursor

/-- What the next page is asked for with, if there is a way to ask. -/
def pageDemand? (c : Cursor) (count : Bool) : Option Demand :=
  match c.phase, c.id with
  | .unstarted, _ => some (.create c.query count c.batchSize)
  | _, some id => some (.advance id)
  | _, none => none

/-- Fetching a page is one event. -/
def fetchEvent (c : Cursor) (count : Bool) (w : Wire) : Event :=
  match c.pageDemand? count with
  | some d => .exchange .page d (w.send (d.request c.toStatement)).1
  | none => .stranded

/-! ## Journals of operations -/

def nextJournal (c : Cursor) (w : Wire) : Journal :=
  if c.phase = .failed then []
  else if c.phase = .exhausted then []
  else match c.buffer with
    | row :: _ => [.hand row]
    | [] =>
      if c.phase = .unstarted ∨ c.hasMore then
        match _fetched : c.fetch c.count w with
        | ⟨.error _, _, _⟩ => [c.fetchEvent c.count w]
        | ⟨.ok (), c', w'⟩ => c.fetchEvent c.count w :: nextJournal c' w'
      else [.exhaust]
termination_by w.answers.length
decreasing_by exact answers_length_lt_of_fetch _fetched

def headRowJournal (c : Cursor) (w : Wire) : Journal :=
  match c.head with
  | some _ => []
  | none => c.rowJournal 0 w

def firstJournal (c : Cursor) (w : Wire) : Journal :=
  match c.phase with
  | .failed => []
  | .unstarted =>
    match c.fetch c.count w with
    | ⟨.error _, _, _⟩ => [c.fetchEvent c.count w]
    | ⟨.ok (), c', w'⟩ => c.fetchEvent c.count w :: c'.headRowJournal w'
  | .active | .exhausted => c.headRowJournal w

def recountJournal (c : Cursor) (w : Wire) : Journal :=
  c.besideJournal .count (.create c.query true (some 1)) w

def lengthJournal (c : Cursor) (w : Wire) : Journal :=
  match c.total with
  | some _ => []
  | none =>
    match c.phase with
    | .failed => []
    | .unstarted => [c.fetchEvent true w]
    | .active | .exhausted => c.recountJournal w

def lastJournal (c : Cursor) (w : Wire) : Journal :=
  if c.phase = .failed then []
  else match c.length w with
    | ⟨.error _, _, _⟩ => c.lengthJournal w
    | ⟨.ok 0, _, _⟩ => c.lengthJournal w
    | ⟨.ok (n + 1), c', w'⟩ => c.lengthJournal w ++ c'.rowJournal n w'

/-- What is left to do once nothing holds a cursor open. -/
def closedJournal (c : Cursor) : Journal :=
  if c.phase = .failed then [] else [.abandon c.buffer]

def closeJournal (c : Cursor) (w : Wire) : Journal :=
  match c.id, c.hasMore with
  | some id, true =>
    .exchange .close (.delete id) (w.send (c.deletion id)).1 ::
      match (w.send (c.deletion id)).1.check with
      | .error _ => []
      | .ok () => c.closedJournal
  | _, _ => c.closedJournal

end Cursor

/-- Whether an operation tells of the whole result and takes nothing from it. -/
def Op.inspects {α : Type} : Op α → Bool
  | .first | .last | .length | .isEmpty => true
  | .next | .close | .decodeWith _ => false

namespace Reader

variable {α : Type}

/-- What happens to the cursor in an operation. -/
def stepJournal (r : Reader α) (w : Wire) : Op α → Journal
  | .next => r.cursor.nextJournal w
  | .first => r.cursor.firstJournal w
  | .last => r.cursor.lastJournal w
  | .length | .isEmpty => r.cursor.lengthJournal w
  | .close => r.cursor.closeJournal w
  | .decodeWith _ => []

/-- What the operations of a session give, one after the other. -/
def along {β : Type} (f : Reader α → Wire → Op α → List β) (r : Reader α) (w : Wire) :
    List (Op α) → List β
  | [] => []
  | op :: ops => f r w op ++ along f (r.step w op).2.1 (r.step w op).2.2 ops

/-- What happens to the cursor in a session. -/
def journal (r : Reader α) (w : Wire) (ops : List (Op α)) : Journal :=
  r.along stepJournal w ops

theorem along_append {β : Type} (f : Reader α → Wire → Op α → List β) (r : Reader α) (w : Wire)
    (ops later : List (Op α)) :
    r.along f w (ops ++ later) =
      r.along f w ops ++ (r.run w ops).2.1.along f (r.run w ops).2.2 later := by
  induction ops generalizing r w with
  | nil => rfl
  | cons op ops ih =>
    rw [List.cons_append, along, ih, along, List.append_assoc]
    rfl

end Reader

/-! ## What decoders decide -/

/-- **What is replied to a row**, or at the end of the result: the decoder decides about the row, and
is not asked when there is none. -/
def Decoder.verdict {α : Type} (decode : Decoder α) : Option Json → Except Error (Reply α)
  | none => .ok (.row none)
  | some row =>
    match decode row with
    | .ok value => .ok (.row (some value))
    | .error e => .error e

/-- A row is refused when the decoder refuses it. -/
theorem Decoder.verdict_eq_error_iff {α : Type} {decode : Decoder α} {row : Json} {e : Error} :
    decode.verdict (some row) = .error e ↔ decode row = .error e := by
  simp only [verdict]
  cases decode row with
  | ok value => exact iff_of_false nofun nofun
  | error e' =>
    rw [Except.error.injEq, Except.error.injEq]

theorem Reader.rowReply_eq {α : Type} (r : Reader α) (result : Except Error (Option Json)) :
    r.rowReply result = result.bind r.decode.verdict := by
  rcases result with e | _ | row
  · rfl
  · rfl
  · simp only [rowReply, Decoder.apply, Except.bind, Decoder.verdict]
    cases r.decode row <;> rfl

/-! ## What inspections ask -/

namespace Statement

variable (s : Statement) (w : Wire)

theorem beside_discard (p : Page) : (s.discardJournal p w).Beside := by
  unfold discardJournal
  split
  · exact .cons rfl Journal.beside_nil
  · exact Journal.beside_nil

theorem beside_besideJournal {p : Purpose} {d : Demand}
    (he : ∀ a, (Event.exchange p d a).isBeside = true) : (s.besideJournal p d w).Beside := by
  unfold besideJournal
  refine .cons (he _) ?_
  split
  · exact s.beside_discard _ _
  · exact Journal.beside_nil

theorem beside_rowJournal (position : Nat) : (s.rowJournal position w).Beside :=
  s.beside_besideJournal w fun _ => rfl

end Statement

namespace Cursor

variable {c : Cursor} {w : Wire} {e : Event}

theorem beside_headRow (c : Cursor) (w : Wire) : (c.headRowJournal w).Beside := by
  unfold headRowJournal
  cases c.head with
  | some _ => exact Journal.beside_nil
  | none => exact c.beside_rowJournal w 0

theorem beside_recount (c : Cursor) (w : Wire) : (c.recountJournal w).Beside :=
  c.beside_besideJournal w fun _ => rfl

theorem mem_firstJournal (he : e ∈ c.firstJournal w) :
    c.phase = .unstarted ∧ e = c.fetchEvent c.count w ∨ e.isBeside = true := by
  unfold firstJournal at he
  cases hphase : c.phase <;> rw [hphase] at he
  case failed => exact absurd he List.not_mem_nil
  case unstarted =>
    simp only at he
    split at he
    · exact .inl ⟨rfl, List.mem_singleton.mp he⟩
    · rcases List.mem_cons.mp he with rfl | he
      · exact .inl ⟨rfl, rfl⟩
      · exact .inr (beside_headRow _ _ e he)
  case active | exhausted => exact .inr (c.beside_headRow w e he)

theorem mem_lengthJournal (he : e ∈ c.lengthJournal w) :
    c.phase = .unstarted ∧ e = c.fetchEvent true w ∨ e.isBeside = true := by
  unfold lengthJournal at he
  split at he
  · exact absurd he List.not_mem_nil
  · cases hphase : c.phase <;> rw [hphase] at he
    case failed => exact absurd he List.not_mem_nil
    case unstarted => exact .inl ⟨rfl, List.mem_singleton.mp he⟩
    case active | exhausted => exact .inr (c.beside_recount w e he)

theorem mem_lastJournal (he : e ∈ c.lastJournal w) :
    c.phase = .unstarted ∧ e = c.fetchEvent true w ∨ e.isBeside = true := by
  unfold lastJournal at he
  split at he
  · exact absurd he List.not_mem_nil
  · split at he
    · exact mem_lengthJournal he
    · exact mem_lengthJournal he
    · rcases List.mem_append.mp he with he | he
      · exact mem_lengthJournal he
      · exact .inr (Statement.beside_rowJournal _ _ _ e he)

end Cursor

/-- **An inspection asks beside the result only**, but for the first page of a cursor that has not
started. -/
theorem Reader.mem_of_inspects {α : Type} {r : Reader α} {w : Wire} {op : Op α} {e : Event}
    (hop : op.inspects = true) (he : e ∈ r.stepJournal w op) :
    (r.cursor.phase = .unstarted ∧ ∃ count, e = r.cursor.fetchEvent count w) ∨
      e.isBeside = true := by
  cases op with
  | first => exact (Cursor.mem_firstJournal he).imp_left fun h => ⟨h.1, _, h.2⟩
  | last => exact (Cursor.mem_lastJournal he).imp_left fun h => ⟨h.1, _, h.2⟩
  | length | isEmpty => exact (Cursor.mem_lengthJournal he).imp_left fun h => ⟨h.1, _, h.2⟩
  | next | close | decodeWith _ => cases hop

/-! ## The journals are right -/

namespace Cursor

variable {c c' : Cursor} {w w' : Wire} {count : Bool}

theorem pageRequest_eq (c : Cursor) (count : Bool) :
    c.pageRequest count =
      match c.pageDemand? count with
      | some d => .ok (d.request c.toStatement)
      | none => .error (.invalidResponse .noId) := by
  unfold pageRequest pageDemand?
  cases c.phase <;> cases c.id <;> rfl

/-- **Fetching a page is one event**, which decides the result. -/
theorem fetch_eq (c : Cursor) (count : Bool) (w : Wire) :
    c.fetch count w =
      ⟨match (c.fetchEvent count w).failure? with
        | some e => .error e
        | none => .ok (),
      c.after (c.fetchEvent count w), w.after c.toStatement (c.fetchEvent count w)⟩ := by
  unfold fetch fetchEvent
  rw [pageRequest_eq]
  cases c.pageDemand? count with
  | none => rfl
  | some d =>
    simp only [Wire.ask_eq, Event.failure?, after, Wire.after]
    cases (w.send (d.request c.toStatement)).1.page <;> rfl

/-- What a page leaves that was fetched. -/
theorem fetch_of_page {d : Demand} {p : Page} (hd : c.pageDemand? count = some d)
    (hpage : (w.send (d.request c.toStatement)).1.page = .ok p) :
    (c.fetch count w).result = .ok () ∧ (c.fetch count w).cursor = c.receive p := by
  rw [fetch_eq, fetchEvent, hd]
  simp only [Event.failure?, after, hpage, and_self]

/-- A page may be fetched at the start, and when no row is left of an active cursor with more. -/
def MayFetch (c : Cursor) (count : Bool) : Prop :=
  c.phase = .unstarted ∧ (count = c.count ∨ count = true) ∨
    c.phase = .active ∧ c.buffer = [] ∧ c.hasMore = true

theorem allows_fetchEvent (h : c.MayFetch count) : c.Allows (c.fetchEvent count w) := by
  unfold fetchEvent pageDemand?
  obtain ⟨hphase, hcount⟩ | ⟨hphase, hbuffer, hmore⟩ := h
  · rw [hphase]
    exact .create hphase hcount
  · rw [hphase]
    cases hid : c.id with
    | none => exact .stranded hphase hbuffer hmore hid
    | some id => exact .advance hphase hbuffer hmore hid

theorem brings_fetchEvent : w.Brings c.toStatement (c.fetchEvent count w) := by
  unfold fetchEvent
  cases c.pageDemand? count with
  | none => trivial
  | some d => rfl

theorem records_fetch (h : c.MayFetch count) :
    c.Records w [c.fetchEvent count w] (c.fetch count w).cursor (c.fetch count w).wire := by
  rw [fetch_eq]
  exact .single (allows_fetchEvent h) brings_fetchEvent

/-! ### Beside the result -/

theorem records_discard {p : Page} (h : c.phase = .active ∨ c.phase = .exhausted) :
    c.Records w (c.discardJournal p w) c (c.discard p w).2 := by
  unfold Statement.discardJournal Statement.discard
  cases p.id with
  | none => exact .refl c w
  | some id =>
    cases p.hasMore with
    | false => exact .refl c w
    | true =>
      simp only [Wire.order_eq]
      exact .single (.discard h) rfl

/-- The wire after a demand beside the result. -/
def besideWire (c : Cursor) (d : Demand) (w : Wire) : Wire :=
  match (w.send (d.request c.toStatement)).1.page with
  | .ok p => (c.discard p (w.send (d.request c.toStatement)).2).2
  | .error _ => (w.send (d.request c.toStatement)).2

theorem records_beside {p : Purpose} {d : Demand} (hp : p ≠ .page)
    (h : c.phase = .active ∨ c.phase = .exhausted)
    (allowed : ∀ answer, c.Allows (.exchange p d answer)) :
    c.Records w (c.besideJournal p d w)
      (c.after (.exchange p d (w.send (d.request c.toStatement)).1)) (c.besideWire d w) := by
  have hasked := Records.single (w := w) (allowed (w.send (d.request c.toStatement)).1) rfl
  unfold Statement.besideJournal besideWire
  cases hpage : (w.send (d.request c.toStatement)).1.page with
  | error _ => exact hasked
  | ok page =>
    refine hasked.append (j := [_]) ?_
    have hdone := @records_discard (c.after (.exchange p d (w.send (d.request c.toStatement)).1))
      (w.send (d.request c.toStatement)).2 page (by rwa [after_phase_of_beside hp])
    rwa [after_toStatement] at hdone

theorem rowAt_wire (c : Cursor) (position : Nat) (w : Wire) :
    (c.rowAt position w).2 = c.besideWire (.create (c.queryAt position) false (some 1)) w := by
  unfold Statement.rowAt besideWire
  rw [Wire.ask_eq]
  simp only [Demand.request]
  split
  · rename_i h
    simp only [Prod.mk.injEq] at h
    rw [h.1, ← h.2]
  · rename_i h
    simp only [Prod.mk.injEq] at h
    rw [h.1, h.2]
    simp only
    split <;> rename_i hd <;> rw [hd]

theorem records_rowAt {position : Nat} (h : c.phase = .active ∨ c.phase = .exhausted) :
    c.Records w (c.rowJournal position w) c (c.rowAt position w).2 := by
  rw [rowAt_wire]
  exact records_beside (by simp) h fun _ => .row h

theorem recount_cursor_wire (c : Cursor) (w : Wire) :
    (c.recount w).cursor =
        c.after (.exchange .count (.create c.query true (some 1))
          (w.send (c.creation c.query true (some 1))).1) ∧
      (c.recount w).wire = c.besideWire (.create c.query true (some 1)) w := by
  unfold recount besideWire after
  rw [Wire.ask_eq]
  simp only [Demand.request]
  cases (w.send (c.creation c.query true (some 1))).1.page with
  | error _ => exact ⟨rfl, rfl⟩
  | ok p =>
    simp only
    split <;> rename_i hd <;> rw [hd] <;> exact ⟨rfl, rfl⟩

theorem records_recount (h : c.phase = .active ∨ c.phase = .exhausted) (htotal : c.total = none) :
    c.Records w (c.recountJournal w) (c.recount w).cursor (c.recount w).wire := by
  obtain ⟨hcursor, hwire⟩ := recount_cursor_wire c w
  rw [hcursor, hwire]
  exact records_beside (by simp) h fun _ => .count h htotal

/-! ### Operations -/

/-! What `next` gives, case by case, and its journal beside it. -/

theorem next_of_failed (hf : c.phase = .failed) : c.next w = ⟨.error .cursorFailed, c, w⟩ := by
  rw [next, if_pos hf]

theorem next_of_exhausted (he : c.phase = .exhausted) : c.next w = ⟨.ok none, c, w⟩ := by
  have hf : c.phase ≠ .failed := by
    rw [he]
    decide
  rw [next, if_neg hf, if_pos he]

theorem next_of_row {row : Json} {rest : List Json} (hf : c.phase ≠ .failed)
    (he : c.phase ≠ .exhausted) (hbuffer : c.buffer = row :: rest) :
    c.next w = ⟨.ok (some row), { c with buffer := rest }, w⟩ := by
  rw [next, if_neg hf, if_neg he]
  simp only [hbuffer]

theorem next_of_error {err : Error} (hf : c.phase ≠ .failed) (he : c.phase ≠ .exhausted)
    (hbuffer : c.buffer = []) (hmore : c.phase = .unstarted ∨ c.hasMore)
    (fetched : c.fetch c.count w = ⟨.error err, c', w'⟩) : c.next w = ⟨.error err, c', w'⟩ := by
  rw [next, if_neg hf, if_neg he]
  simp only [hbuffer, if_pos hmore]
  split <;> rename_i h <;> rw [h] at fetched <;> cases fetched
  rfl

theorem next_of_ok (hf : c.phase ≠ .failed) (he : c.phase ≠ .exhausted) (hbuffer : c.buffer = [])
    (hmore : c.phase = .unstarted ∨ c.hasMore)
    (fetched : c.fetch c.count w = ⟨.ok (), c', w'⟩) : c.next w = c'.next w' := by
  rw [next, if_neg hf, if_neg he]
  simp only [hbuffer, if_pos hmore]
  split <;> rename_i h <;> rw [h] at fetched <;> cases fetched
  rfl

theorem next_of_end (hf : c.phase ≠ .failed) (he : c.phase ≠ .exhausted) (hbuffer : c.buffer = [])
    (hmore : ¬ (c.phase = .unstarted ∨ c.hasMore)) : c.next w = ⟨.ok none, c.finish, w⟩ := by
  rw [next, if_neg hf, if_neg he]
  simp only [hbuffer, if_neg hmore]

theorem nextJournal_of_over (h : c.phase = .failed ∨ c.phase = .exhausted) :
    c.nextJournal w = [] := by
  rw [nextJournal]
  rcases h with hf | he
  · rw [if_pos hf]
  · rw [if_pos he, ite_self]

theorem nextJournal_of_row {row : Json} {rest : List Json} (hf : c.phase ≠ .failed)
    (he : c.phase ≠ .exhausted) (hbuffer : c.buffer = row :: rest) :
    c.nextJournal w = [.hand row] := by
  rw [nextJournal, if_neg hf, if_neg he]
  simp only [hbuffer]

theorem nextJournal_of_error {e : Error} (hf : c.phase ≠ .failed) (he : c.phase ≠ .exhausted)
    (hbuffer : c.buffer = []) (hmore : c.phase = .unstarted ∨ c.hasMore)
    (fetched : c.fetch c.count w = ⟨.error e, c', w'⟩) :
    c.nextJournal w = [c.fetchEvent c.count w] := by
  rw [nextJournal, if_neg hf, if_neg he]
  simp only [hbuffer, if_pos hmore]
  split
  · rfl
  · rename_i h
    rw [h] at fetched
    cases fetched

theorem nextJournal_of_ok (hf : c.phase ≠ .failed) (he : c.phase ≠ .exhausted)
    (hbuffer : c.buffer = []) (hmore : c.phase = .unstarted ∨ c.hasMore)
    (fetched : c.fetch c.count w = ⟨.ok (), c', w'⟩) :
    c.nextJournal w = c.fetchEvent c.count w :: c'.nextJournal w' := by
  rw [nextJournal, if_neg hf, if_neg he]
  simp only [hbuffer, if_pos hmore]
  split
  · rename_i h
    rw [h] at fetched
    cases fetched
  · rename_i h
    rw [h] at fetched
    cases fetched
    rfl

theorem nextJournal_of_end (hf : c.phase ≠ .failed) (he : c.phase ≠ .exhausted)
    (hbuffer : c.buffer = []) (hmore : ¬ (c.phase = .unstarted ∨ c.hasMore)) :
    c.nextJournal w = [.exhaust] := by
  rw [nextJournal, if_neg hf, if_neg he]
  simp only [hbuffer, if_neg hmore]

/-- What holds of the journals of `next`: pages come first, then a row, the end, or nothing. -/
theorem nextJournal_induction {P : Journal → Prop} (c : Cursor) (w : Wire) (nil : P [])
    (hand : ∀ row, P [.hand row]) (exhaust : P [.exhaust])
    (fetch : ∀ (c : Cursor) (w : Wire) (j : Journal), P j → P (c.fetchEvent c.count w :: j)) :
    P (c.nextJournal w) := by
  fun_induction c.next w with
  | case1 c w hf =>
    rw [nextJournal_of_over (.inl hf)]
    exact nil
  | case2 c w hf he =>
    rw [nextJournal_of_over (.inr he)]
    exact nil
  | case3 c w hf he row rest hbuffer =>
    rw [nextJournal_of_row hf he hbuffer]
    exact hand row
  | case4 c w hf he hbuffer hmore err c₁ w₁ fetched =>
    rw [nextJournal_of_error hf he hbuffer hmore fetched]
    exact fetch c w [] nil
  | case5 c w hf he hbuffer hmore c₁ w₁ fetched ih =>
    rw [nextJournal_of_ok hf he hbuffer hmore fetched]
    exact fetch c w _ ih
  | case6 c w hf he hbuffer hmore =>
    rw [nextJournal_of_end hf he hbuffer hmore]
    exact exhaust

theorem phase_active (hf : c.phase ≠ .failed) (he : c.phase ≠ .exhausted)
    (hu : c.phase ≠ .unstarted) : c.phase = .active := by
  cases h : c.phase
  · exact absurd h hu
  · rfl
  · exact absurd h he
  · exact absurd h hf

theorem mayFetch_of_next (hf : c.phase ≠ .failed) (he : c.phase ≠ .exhausted)
    (hbuffer : c.buffer = []) (hmore : c.phase = .unstarted ∨ c.hasMore) : c.MayFetch c.count := by
  by_cases hu : c.phase = .unstarted
  · exact .inl ⟨hu, .inl rfl⟩
  · exact .inr ⟨phase_active hf he hu, hbuffer, hmore.resolve_left hu⟩

theorem records_next (c : Cursor) (w : Wire) :
    c.Records w (c.nextJournal w) (c.next w).cursor (c.next w).wire := by
  fun_induction c.next w with
  | case1 c w hf =>
    rw [nextJournal_of_over (.inl hf)]
    exact .refl c w
  | case2 c w hf he =>
    rw [nextJournal_of_over (.inr he)]
    exact .refl c w
  | case3 c w hf he row rest hbuffer =>
    rw [nextJournal_of_row hf he hbuffer]
    have hrow := Records.single (w := w) (.hand hbuffer) trivial
    simpa only [after, Wire.after, hbuffer, List.tail_cons] using hrow
  | case4 c w hf he hbuffer hmore e c₁ w₁ fetched =>
    rw [nextJournal_of_error hf he hbuffer hmore fetched]
    have hpage := records_fetch (w := w) (mayFetch_of_next hf he hbuffer hmore)
    rwa [fetched] at hpage
  | case5 c w hf he hbuffer hmore c₁ w₁ fetched ih =>
    rw [nextJournal_of_ok hf he hbuffer hmore fetched]
    have hpage := records_fetch (w := w) (mayFetch_of_next hf he hbuffer hmore)
    rw [fetched] at hpage
    exact hpage.append ih
  | case6 c w hf he hbuffer hmore =>
    rw [nextJournal_of_end hf he hbuffer hmore]
    rw [not_or] at hmore
    have hfalse := Bool.eq_false_iff.mpr hmore.2
    exact .single (.exhaust (phase_active hf he hmore.1) hbuffer hfalse) trivial

theorem records_headRow (h : c.phase = .active ∨ c.phase = .exhausted) :
    c.Records w (c.headRowJournal w) (c.headRow w).cursor (c.headRow w).wire := by
  unfold headRowJournal headRow
  cases c.head with
  | some _ => exact .refl c w
  | none => exact records_rowAt h

/-- A page that came leaves an active cursor. -/
theorem phase_of_fetch_ok (h : c.fetch count w = ⟨.ok (), c', w'⟩) : c'.phase = .active := by
  unfold fetch at h
  split at h
  · cases h
  · split at h <;> cases h
    rfl

/-- A page that did not come leaves a failed cursor. -/
theorem phase_of_fetch_error {err : Error} (h : c.fetch count w = ⟨.error err, c', w'⟩) :
    c'.phase = .failed := by
  unfold fetch at h
  split at h
  · cases h
    rfl
  · split at h <;> cases h
    rfl

theorem records_first (c : Cursor) (w : Wire) :
    c.Records w (c.firstJournal w) (c.first w).cursor (c.first w).wire := by
  unfold firstJournal first
  cases hphase : c.phase with
  | failed => exact .refl c w
  | unstarted =>
    have hpage := records_fetch (c := c) (w := w) (.inl ⟨hphase, .inl rfl⟩)
    simp only
    rcases hfetch : c.fetch c.count w with ⟨_ | _, c', w'⟩ <;> rw [hfetch] at hpage
    · exact hpage
    · exact hpage.append (records_headRow (.inl (phase_of_fetch_ok hfetch)))
  | active => exact records_headRow (.inl hphase)
  | exhausted => exact records_headRow (.inr hphase)

theorem records_length (c : Cursor) (w : Wire) :
    c.Records w (c.lengthJournal w) (c.length w).cursor (c.length w).wire := by
  unfold lengthJournal length
  cases htotal : c.total with
  | some _ => exact .refl c w
  | none =>
    cases hphase : c.phase with
    | failed => exact .refl c w
    | unstarted =>
      have hpage := records_fetch (c := c) (w := w) (.inl ⟨hphase, .inr rfl⟩)
      simp only
      rcases hfetch : c.fetch true w with ⟨_ | _, c', w'⟩ <;> rw [hfetch] at hpage <;> exact hpage
    | active => exact records_recount (.inl hphase) htotal
    | exhausted => exact records_recount (.inr hphase) htotal

theorem recount_phase (c : Cursor) (w : Wire) : (c.recount w).cursor.phase = c.phase := by
  rw [(recount_cursor_wire c w).1]
  exact after_phase_of_beside (by simp)

/-- A cursor that knows the number of its rows has started. -/
theorem phase_of_length_ok {n : Nat} (h : c.length w = ⟨.ok n, c', w'⟩) (hwf : c.WellFormed)
    (hf : c.phase ≠ .failed) : c'.phase = .active ∨ c'.phase = .exhausted := by
  unfold length at h
  cases htotal : c.total with
  | some total =>
    rw [htotal] at h
    cases h
    cases hphase : c.phase with
    | unstarted => exact absurd (htotal.symm.trans (hwf.unstarted hphase).2.2.2.2) (by simp)
    | active => exact .inl rfl
    | exhausted => exact .inr rfl
    | failed => exact absurd hphase hf
  | none =>
    rw [htotal] at h
    have hphase' := recount_phase c w
    cases hphase : c.phase <;> rw [hphase] at h hphase' <;> simp only at h
    · rcases hfetch : c.fetch true w with ⟨_ | _, c₁, w₁⟩ <;> rw [hfetch] at h
      · cases h
      · obtain ⟨-, rfl, -⟩ := Outcome.mk.inj h
        exact .inl (phase_of_fetch_ok hfetch)
    · rw [h] at hphase'
      exact .inl hphase'
    · rw [h] at hphase'
      exact .inr hphase'
    · exact absurd hphase hf

theorem records_last (hwf : c.WellFormed) :
    c.Records w (c.lastJournal w) (c.last w).cursor (c.last w).wire := by
  unfold lastJournal last
  by_cases hf : c.phase = .failed
  · rw [if_pos hf, if_pos hf]
    exact .refl c w
  · rw [if_neg hf, if_neg hf]
    have hcount := records_length c w
    rcases hlength : c.length w with ⟨_ | _ | n, c', w'⟩ <;> rw [hlength] at hcount
    · exact hcount
    · exact hcount
    · exact hcount.append (records_rowAt (phase_of_length_ok hlength hwf hf))

/-! ### Closing -/

/-- The name of the cursor of the result on the server, while that holds more rows. -/
def held? (c : Cursor) : Option String :=
  if c.hasMore then c.id else none

theorem held?_eq_some {id : String} (h : c.held? = some id) :
    c.id = some id ∧ c.hasMore = true := by
  unfold held? at h
  split at h
  · rename_i hmore
    exact ⟨h, hmore⟩
  · cases h

/-- **What closing does**, with its journal and its outcome. -/
inductive Closes (c : Cursor) (w : Wire) : Journal → Outcome Unit → Prop
  /-- The server holds nothing, and nothing is asked of it. -/
  | free (hheld : c.held? = none) : Closes c w c.closedJournal ⟨.ok (), c.closed, w⟩
  /-- The server confirms that it deleted what it held. -/
  | released {id : String} {response : Response} (hheld : c.held? = some id)
      (hanswer : (w.send (c.deletion id)).1 = .ok response)
      (hsuccess : response.isSuccess = true) :
      Closes c w (.exchange .close (.delete id) (.ok response) :: c.closedJournal)
        ⟨.ok (), c.closed, (w.send (c.deletion id)).2⟩
  /-- The server does not, and the cursor is as it was. -/
  | kept {id : String} {err : Error} (hheld : c.held? = some id)
      (hcheck : (w.send (c.deletion id)).1.check = .error err) :
      Closes c w [.exchange .close (.delete id) (w.send (c.deletion id)).1]
        ⟨.error err, c, (w.send (c.deletion id)).2⟩

theorem closes (c : Cursor) (w : Wire) : c.Closes w (c.closeJournal w) (c.close w) := by
  unfold closeJournal close
  cases hid : c.id with
  | none => exact .free (by rw [held?, hid, ite_self])
  | some id =>
    cases hmore : c.hasMore with
    | false => exact .free (by simp [held?, hmore])
    | true =>
      have hheld : c.held? = some id := by rw [held?, if_pos hmore, hid]
      simp only [Wire.order_eq]
      cases hcheck : (w.send (c.deletion id)).1.check with
      | error _ => exact .kept hheld hcheck
      | ok _ =>
        obtain ⟨response, hanswer, hsuccess⟩ := Answer.check_eq_ok_iff.mp hcheck
        rw [hanswer]
        exact .released hheld hanswer hsuccess

theorem records_closed (c : Cursor) (w : Wire) : c.Records w c.closedJournal c.closed w := by
  unfold closedJournal closed
  by_cases hf : c.phase = .failed
  · rw [if_pos hf, if_pos hf]
    exact .refl c w
  · rw [if_neg hf, if_neg hf]
    exact .single (.abandon hf) trivial

theorem closed_phase (c : Cursor) : c.closed.phase = .exhausted ∨ c.closed.phase = .failed := by
  unfold closed
  by_cases hf : c.phase = .failed
  · rw [if_pos hf]
    exact .inr hf
  · rw [if_neg hf]
    exact .inl rfl

namespace Closes

variable {o : Outcome Unit}

theorem records (h : c.Closes w j o) : c.Records w j o.cursor o.wire := by
  cases h with
  | free => exact records_closed c w
  | released hheld hanswer =>
    obtain ⟨hid, hmore⟩ := held?_eq_some hheld
    exact (Records.single (.close hid hmore) hanswer.symm).append (records_closed c _)
  | kept hheld =>
    obtain ⟨hid, hmore⟩ := held?_eq_some hheld
    exact .single (.close hid hmore) rfl

/-- A cursor is closed, or it is as it was. -/
theorem cursor_eq (h : c.Closes w j o) :
    (o.result = .ok () → o.cursor = c.closed) ∧ ∀ e, o.result = .error e → o.cursor = c := by
  cases h with
  | free | released => exact ⟨fun _ => rfl, nofun⟩
  | kept => exact ⟨nofun, fun _ _ => rfl⟩

/-- Closing a cursor gets no page. -/
theorem pages (h : c.Closes w j o) : j.pages = [] := by
  have hclosed : c.closedJournal.pages = [] := by
    unfold closedJournal
    split <;> rfl
  cases h with
  | free => exact hclosed
  | released =>
    rw [← List.singleton_append, Journal.pages_append, hclosed]
    rfl
  | kept => rfl

end Closes

variable (c w)

theorem records_close :
    c.Records w (c.closeJournal w) (c.close w).cursor (c.close w).wire :=
  (c.closes w).records

theorem close_of_ok (h : (c.close w).result = .ok ()) : (c.close w).cursor = c.closed :=
  (c.closes w).cursor_eq.1 h

theorem close_of_error {e : Error} (h : (c.close w).result = .error e) :
    (c.close w).cursor = c :=
  (c.closes w).cursor_eq.2 e h

end Cursor

namespace Reader

variable {α : Type}

/-- **The journal of an operation is right.** -/
theorem records_step (r : Reader α) (w : Wire) (op : Op α) (hwf : r.cursor.WellFormed) :
    r.cursor.Records w (r.stepJournal w op) (r.step w op).2.1.cursor (r.step w op).2.2 := by
  cases op with
  | next => exact Cursor.records_next _ _
  | first => exact Cursor.records_first _ _
  | last => exact Cursor.records_last hwf
  | length | isEmpty => exact Cursor.records_length _ _
  | close => exact Cursor.records_close _ _
  | decodeWith _ => exact .refl _ _

/-- **The journal of a session is right.** -/
theorem records_run (r : Reader α) (w : Wire) (ops : List (Op α)) (hwf : r.cursor.WellFormed) :
    r.cursor.Records w (r.journal w ops) (r.run w ops).2.1.cursor (r.run w ops).2.2 := by
  induction ops generalizing r w with
  | nil => exact .refl _ _
  | cons op ops ih =>
    have hstep := r.records_step w op hwf
    exact hstep.append (ih _ _ (hwf.course hstep.course))

end Reader

end Pagewise
