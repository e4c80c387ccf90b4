import Pagewise.Cursor.Decoder
import Pagewise.Proofs.Cursor.Journal

/-!
# No row is lost and none comes twice

The rows that `next` takes out of a cursor, those that closing it drops and those that are still
buffered are the rows that the server sent for the result, in their order. Fetching replaces the
buffer, so this rests on the buffer being empty whenever a page is fetched, and on nothing being
handed out any more once rows were dropped.

A row that is taken out is given to the decoder, which shows in the reply: it is the verdict of the
decoder on this row.

* `Course.rows_conserved`: the law of one course of events.
* `Decoder.Delivers`: what `next` replies, by the row that it took out.
* `Reader.delivers_next`: so it replies, with the decoder of the time (`Reader.run_decode`).
* **`Reader.session_rows`**: the law of every session.
-/

namespace Pagewise

/-! ## Courses -/

namespace Cursor

variable {c c' : Cursor} {j : Journal} {e : Event}

/-- **What one event does to the rows**: those it hands out, drops and leaves in the buffer are
those that were in the buffer and those that it brought. -/
theorem WellFormed.rows_after (h : c.WellFormed) (allowed : c.Allows e) :
    e.handed?.toList ++ e.dropped ++ (c.after e).buffer = c.buffer ++ Journal.received [e] := by
  rw [Journal.received_single]
  cases allowed with
  | @create count answer hphase _ =>
    rw [(h.unstarted hphase).2.2.1]
    simp only [Cursor.after, Event.page?]
    cases answer.page <;> rfl
  | @advance _ answer _ hbuffer _ _ =>
    rw [hbuffer]
    simp only [Cursor.after, Event.page?]
    cases answer.page <;> rfl
  | stranded _ hbuffer | exhaust _ hbuffer =>
    rw [hbuffer]
    rfl
  | @count answer _ _ =>
    simp only [Cursor.after, Event.page?]
    cases answer.page <;> exact (List.append_nil _).symm
  | row | discard | close => exact (List.append_nil _).symm
  | hand hbuffer =>
    simp only [Cursor.after, hbuffer]
    exact (List.append_nil _).symm
  | abandon => rfl

namespace Course

/-- Rows are dropped only at the end. -/
theorem exhausted_of_dropped (hc : c.Course j c') (h : c.WellFormed) (hd : j.dropped ≠ []) :
    c'.phase = .exhausted := by
  induction hc with
  | start => exact absurd rfl hd
  | @step j m e before allowed ih =>
    by_cases hj : j.dropped = []
    · rw [Journal.dropped_append, Journal.dropped_single, hj, List.nil_append] at hd
      cases allowed with
      | abandon _ => rfl
      | _ => exact absurd rfl hd
    · exact ((h.course before).of_allows_exhausted (ih hj) allowed).1

/-- **Rows are conserved** along every course. -/
theorem rows_conserved (hc : c.Course j c') (h : c.WellFormed) :
    j.handed ++ j.dropped ++ c'.buffer = c.buffer ++ j.received := by
  induction hc with
  | start => exact (List.append_nil _).symm
  | @step j m e before allowed ih =>
    have hwf := h.course before
    -- A row that is handed out may be moved before the dropped ones: there are not both.
    have hswap : e.handed?.toList ++ j.dropped = j.dropped ++ e.handed?.toList := by
      by_cases hj : j.dropped = []
      · rw [hj, List.append_nil, List.nil_append]
      · have he := (hwf.of_allows_exhausted (exhausted_of_dropped before h hj) allowed).2.2.1
        rw [he]
        exact (List.append_nil _).symm
    calc (j ++ [e]).handed ++ (j ++ [e]).dropped ++ (m.after e).buffer
        = j.handed ++ (e.handed?.toList ++ j.dropped) ++ e.dropped ++ (m.after e).buffer := by
          simp only [Journal.handed_append, Journal.handed_single, Journal.dropped_append,
            Journal.dropped_single, List.append_assoc]
      _ = j.handed ++ j.dropped ++ (e.handed?.toList ++ e.dropped ++ (m.after e).buffer) := by
          rw [hswap]
          simp only [List.append_assoc]
      _ = j.handed ++ j.dropped ++ m.buffer ++ Journal.received [e] := by
          rw [hwf.rows_after allowed]
          simp only [List.append_assoc]
      _ = c.buffer ++ Journal.received (j ++ [e]) := by
          rw [ih, Journal.received_append, List.append_assoc]

end Course

end Cursor

/-! ## Events that need the server -/

/-- An event that takes no row out of the buffer: a request, or one that cannot be made. -/
def Event.Remote : Event → Prop
  | .exchange _ _ _ | .stranded => True
  | .hand _ | .exhaust | .abandon _ => False

/-- A journal of requests only. -/
def Journal.Remote (j : Journal) : Prop :=
  ∀ e ∈ j, e.Remote

namespace Journal

variable {j : Journal}

theorem remote_nil : Remote [] := by
  simp [Remote]

theorem Remote.cons {e : Event} (he : e.Remote) (hj : j.Remote) : Remote (e :: j) :=
  List.forall_mem_cons.mpr ⟨he, hj⟩

/-- Requests hand out nothing and drop nothing. -/
theorem Remote.rows (h : j.Remote) : j.handed = [] ∧ j.dropped = [] := by
  induction j with
  | nil => exact ⟨rfl, rfl⟩
  | cons e j ih =>
    obtain ⟨he, hj⟩ := List.forall_mem_cons.mp h
    obtain ⟨hhanded, hdropped⟩ := ih hj
    cases e with
    | exchange | stranded => exact ⟨hhanded, hdropped⟩
    | hand | exhaust | abandon => exact absurd he id

end Journal

/-- A request beside the result takes nothing out of the buffer. -/
theorem Event.remote_of_isBeside {e : Event} (he : e.isBeside = true) : e.Remote := by
  cases e with
  | exchange | stranded => trivial
  | hand | exhaust | abandon => cases he

namespace Cursor

variable (c : Cursor) (w : Wire)

theorem remote_fetch (count : Bool) : (c.fetchEvent count w).Remote := by
  unfold fetchEvent
  cases c.pageDemand? count <;> trivial

/-- The journal of `next` hands out the row that `next` gives, and drops none. -/
theorem rows_nextJournal :
    (c.nextJournal w).handed =
        (match (c.next w).result with
        | .ok (some row) => [row]
        | _ => []) ∧
      (c.nextJournal w).dropped = [] := by
  fun_induction c.next w with
  | case1 c w hf =>
    rw [nextJournal_of_over (.inl hf)]
    exact ⟨rfl, rfl⟩
  | case2 c w hf he =>
    rw [nextJournal_of_over (.inr he)]
    exact ⟨rfl, rfl⟩
  | case3 c w hf he row rest hbuffer =>
    rw [nextJournal_of_row hf he hbuffer]
    exact ⟨rfl, rfl⟩
  | case4 c w hf he hbuffer hmore e c₁ w₁ fetched =>
    rw [nextJournal_of_error hf he hbuffer hmore fetched]
    exact (Journal.Remote.cons (c.remote_fetch w c.count) Journal.remote_nil).rows
  | case5 c w hf he hbuffer hmore c₁ w₁ fetched ih =>
    have hpage := (Journal.Remote.cons (c.remote_fetch w c.count) Journal.remote_nil).rows
    rw [nextJournal_of_ok hf he hbuffer hmore fetched, ← List.singleton_append,
      Journal.handed_append, Journal.dropped_append, hpage.1, hpage.2]
    exact ih
  | case6 c w hf he hbuffer hmore =>
    rw [nextJournal_of_end hf he hbuffer hmore]
    exact ⟨rfl, rfl⟩

/-- The journal of `close` drops what was buffered, if the cursor is closed. -/
theorem Closes.rows {c : Cursor} {w : Wire} {j : Journal} {o : Outcome Unit} (hc : c.Closes w j o)
    (h : c.WellFormed) :
    j.handed = [] ∧
      j.dropped =
        match o.result with
        | .ok () => c.buffer
        | .error _ => [] := by
  have hclosed : c.closedJournal.handed = [] ∧ c.closedJournal.dropped = c.buffer := by
    unfold closedJournal
    by_cases hf : c.phase = .failed
    · rw [if_pos hf, (h.failed hf).2.2]
      exact ⟨rfl, rfl⟩
    · rw [if_neg hf, Journal.dropped_single]
      exact ⟨rfl, rfl⟩
  cases hc with
  | free | released => exact hclosed
  | kept => exact ⟨rfl, rfl⟩

end Cursor

/-! ## What is replied -/

section

variable {α : Type}

/-- The decoder after operations: the one that was set last. -/
def Decoder.after (decode : Decoder α) (ops : List (Op α)) : Decoder α :=
  ops.foldl
    (fun decode op =>
      match op with
      | .decodeWith later => later
      | _ => decode)
    decode

/-- **What `next` replies**, by the rows that it took out and the cursor that it left: to a row the
verdict of the decoder. Without a row the result is at its end or the cursor has failed, and the
decoder has no say. -/
inductive Decoder.Delivers (decode : Decoder α) :
    List Json → Except Error (Reply α) → Cursor → Prop
  | row (row : Json) (c : Cursor) : Delivers decode [row] (decode.verdict (some row)) c
  | ended {c : Cursor} (hphase : c.phase = .exhausted) : Delivers decode [] (.ok (.row none)) c
  | failed {c : Cursor} {e : Error} (hphase : c.phase = .failed) : Delivers decode [] (.error e) c

end

/-- Where `next` leaves a cursor when it gives no row. -/
theorem Cursor.phase_of_next (c : Cursor) (w : Wire) :
    match (c.next w).result with
    | .ok (some _) => True
    | .ok none => (c.next w).cursor.phase = .exhausted
    | .error _ => (c.next w).cursor.phase = .failed := by
  fun_induction c.next w with
  | case1 c w hf => exact hf
  | case2 c w hf he => exact he
  | case3 => trivial
  | case4 c w hf he hbuffer hmore err c₁ w₁ fetched => exact phase_of_fetch_error fetched
  | case5 c w hf he hbuffer hmore c₁ w₁ fetched ih => exact ih
  | case6 => rfl

/-! ## Sessions -/

namespace Reader

variable {α : Type}

/-- The row that an operation takes out of the cursor, for the decoder to decode or to refuse. -/
def handsOut (r : Reader α) (w : Wire) : Op α → List Json
  | .next =>
    match (r.cursor.next w).result with
    | .ok (some row) => [row]
    | _ => []
  | _ => []

/-- The buffered rows that an operation drops: all, when it closes the cursor. -/
def drops (r : Reader α) (w : Wire) : Op α → List Json
  | .close =>
    match (r.cursor.close w).result with
    | .ok () => r.cursor.buffer
    | .error _ => []
  | _ => []

/-- The rows that a session takes out of the cursor. -/
def handed (r : Reader α) (w : Wire) (ops : List (Op α)) : List Json :=
  r.along handsOut w ops

/-- The rows that a session drops. -/
def dropped (r : Reader α) (w : Wire) (ops : List (Op α)) : List Json :=
  r.along drops w ops

variable {r : Reader α} {w : Wire}

theorem remote_of_inspects {op : Op α} (hop : op.inspects = true) :
    (r.stepJournal w op).Remote := by
  intro e he
  rcases mem_of_inspects hop he with ⟨-, count, rfl⟩ | hbeside
  · exact r.cursor.remote_fetch w count
  · exact Event.remote_of_isBeside hbeside

theorem rows_stepJournal (op : Op α) (h : r.cursor.WellFormed) :
    (r.stepJournal w op).handed = r.handsOut w op ∧
      (r.stepJournal w op).dropped = r.drops w op := by
  cases op with
  | next => exact r.cursor.rows_nextJournal w
  | first | last | length | isEmpty => exact (remote_of_inspects rfl).rows
  | close => exact (r.cursor.closes w).rows h
  | decodeWith _ => exact ⟨rfl, rfl⟩

/-- **What `next` replies** is the verdict of the decoder on the row that it takes out. -/
theorem delivers_next (r : Reader α) (w : Wire) :
    r.decode.Delivers (r.handsOut w .next) (r.step w .next).1 (r.step w .next).2.1.cursor := by
  have hphase := r.cursor.phase_of_next w
  simp only [step, after, handsOut, rowReply_eq]
  rcases hnext : r.cursor.next w with ⟨e | _ | row, c, w'⟩ <;> rw [hnext] at hphase
  · exact .failed hphase
  · exact .ended hphase
  · exact .row row c

theorem run_decode (ops : List (Op α)) : (r.run w ops).2.1.decode = r.decode.after ops := by
  induction ops generalizing r w with
  | nil => rfl
  | cons op ops ih =>
    have hrest := @ih (r.step w op).2.1 (r.step w op).2.2
    cases op with
    | _ => exact hrest

/-- A session that goes on for one operation more. -/
theorem run_concat (ops : List (Op α)) (op : Op α) :
    r.run w (ops ++ [op]) =
      ((r.run w ops).1 ++ [((r.run w ops).2.1.step (r.run w ops).2.2 op).1],
        ((r.run w ops).2.1.step (r.run w ops).2.2 op).2) := by
  induction ops generalizing r w with
  | nil => rfl
  | cons head ops ih =>
    exact congrArg (fun later => ((r.step w head).1 :: later.1, later.2))
      (@ih (r.step w head).2.1 (r.step w head).2.2)

theorem rows_journal (ops : List (Op α)) (h : r.cursor.WellFormed) :
    (r.journal w ops).handed = r.handed w ops ∧ (r.journal w ops).dropped = r.dropped w ops := by
  induction ops generalizing r w with
  | nil => exact ⟨rfl, rfl⟩
  | cons op ops ih =>
    obtain ⟨hstep, hstep'⟩ := rows_stepJournal (w := w) op h
    obtain ⟨hrest, hrest'⟩ := @ih (r.step w op).2.1 (r.step w op).2.2
      (h.course (r.records_step w op h).course)
    constructor
    · rw [journal, along, Journal.handed_append, hstep]
      exact congrArg (r.handsOut w op ++ ·) hrest
    · rw [journal, along, Journal.dropped_append, hstep']
      exact congrArg (r.drops w op ++ ·) hrest'

/-- Nothing is dropped by a session that does not close its cursor. -/
theorem dropped_eq_nil {ops : List (Op α)} (h : .close ∉ ops) : r.dropped w ops = [] := by
  induction ops generalizing r w with
  | nil => rfl
  | cons op ops ih =>
    rw [List.mem_cons, not_or] at h
    obtain ⟨hop, hops⟩ := h
    rw [dropped, along]
    cases op with
    | close => exact absurd rfl hop
    | _ => exact ih hops

/-- What is left of a cursor that is over gives no page and no row. -/
theorem journal_of_over (ops : List (Op α)) (h : r.cursor.WellFormed)
    (hover : r.cursor.phase = .exhausted ∨ r.cursor.phase = .failed) :
    (r.journal w ops).received = [] ∧ r.handed w ops = [] ∧ r.dropped w ops = [] := by
  obtain ⟨hhanded, hdropped⟩ := rows_journal (w := w) ops h
  have hcourse := (r.records_run w ops h).course
  rw [← hhanded, ← hdropped, Journal.received]
  rcases hover with he | hf
  · obtain ⟨-, -, hpages, hh, hd⟩ := hcourse.of_exhausted h he
    rw [hpages]
    exact ⟨rfl, hh, hd⟩
  · rw [(hcourse.of_failed h hf).1]
    exact ⟨rfl, rfl, rfl⟩

/-- Closing a cursor drops the buffered rows, and no row comes after that. -/
theorem rows_of_closed (later : List (Op α)) (h : r.cursor.WellFormed)
    (hok : (r.cursor.close w).result = .ok ()) :
    r.handed w (.close :: later) = [] ∧ r.dropped w (.close :: later) = r.cursor.buffer ∧
      (r.journal w (.close :: later)).received = [] := by
  have hover : (r.step w .close).2.1.cursor.phase = .exhausted ∨
      (r.step w .close).2.1.cursor.phase = .failed := by
    have hclosed : (r.step w .close).2.1.cursor = r.cursor.closed := Cursor.close_of_ok _ _ hok
    rw [hclosed]
    exact r.cursor.closed_phase
  have hwf := h.course (r.records_step w .close h).course
  obtain ⟨hreceived, hhanded, hdropped⟩ :=
    journal_of_over (w := (r.step w .close).2.2) later hwf hover
  have hdrops : r.drops w .close = r.cursor.buffer := by
    simp only [drops]
    rw [hok]
  have hclosing : (r.stepJournal w .close).received = [] := by
    rw [stepJournal, Journal.received, (r.cursor.closes w).pages]
    rfl
  refine ⟨hhanded, ?_, ?_⟩
  · rw [dropped, along, hdrops, ← dropped, hdropped, List.append_nil]
  · rw [journal, along, Journal.received_append, hclosing, ← journal, hreceived]
    rfl

/-- **No row is lost and none comes twice.** At every point of a session, with the journal of what
went over the wire, the rows that `next` took out, those that `close` dropped and those still
buffered are the rows that the server sent for the result, in their order; without `close`, nothing
was dropped. The rows were taken from the front of the buffer, and each was given to the decoder
that was set last: its verdict is what `next` replied, a value or the refusal of the row. Where
`next` takes out no row, it replies that the result is at its end, or with the error of a failed
cursor.

A cursor that could not be closed is as it was. Once it was closed, dropping the buffered rows, no
row is fetched or taken out any more, whatever it is asked. -/
theorem session_rows (s : Statement) (decode : Decoder α) (w : Wire) (ops later : List (Op α)) :
    let r : Reader α := ⟨s.cursor, decode⟩
    let r' := (r.run w ops).2.1
    let v := (r.run w ops).2.2
    let closing := r'.cursor.close v
    s.cursor.Records w (r.journal w ops) r'.cursor v ∧
      (r.journal w ops).handed = r.handed w ops ∧
      (∃ rows reply, r.handed w (ops ++ [.next]) = r.handed w ops ++ rows ∧
        (r.run w (ops ++ [.next])).1 = (r.run w ops).1 ++ [reply] ∧
        (decode.after ops).Delivers rows reply (r.run w (ops ++ [.next])).2.1.cursor) ∧
      (.close ∉ ops → r.handed w ops ++ r'.cursor.buffer = (r.journal w ops).received) ∧
      r.handed w ops ++ r.dropped w ops ++ r'.cursor.buffer = (r.journal w ops).received ∧
      (∀ e, closing.result = .error e → closing.cursor = r'.cursor) ∧
      (closing.result = .ok () →
        r.handed w (ops ++ .close :: later) = r.handed w ops ∧
          r.dropped w (ops ++ .close :: later) = r.dropped w ops ++ r'.cursor.buffer ∧
          (r.journal w (ops ++ .close :: later)).received = (r.journal w ops).received) := by
  intro r r' v closing
  have hwf : r.cursor.WellFormed := Cursor.wellFormed_cursor s
  have hrecords := r.records_run w ops hwf
  have hwf' : r'.cursor.WellFormed := hwf.course hrecords.course
  obtain ⟨hhanded, hdropped⟩ := rows_journal (w := w) ops hwf
  have hrows :
      r.handed w ops ++ r.dropped w ops ++ r'.cursor.buffer = (r.journal w ops).received := by
    rw [← hhanded, ← hdropped]
    exact hrecords.course.rows_conserved hwf
  refine ⟨hrecords, hhanded, ⟨r'.handsOut v .next, (r'.step v .next).1, ?_, ?_, ?_⟩,
    fun h => ?_, hrows, fun e he => Cursor.close_of_error _ _ he, fun hok => ?_⟩
  · rw [handed, along_append, along, along, List.append_nil]
    rfl
  · rw [run_concat]
  · have hdecode : r'.decode = decode.after ops := run_decode ops
    rw [run_concat, ← hdecode]
    exact r'.delivers_next v
  · rw [dropped_eq_nil h, List.append_nil] at hrows
    exact hrows
  · obtain ⟨hhanded', hdropped', hreceived⟩ := rows_of_closed later hwf' hok
    refine ⟨?_, ?_, ?_⟩
    · rw [handed, along_append, ← handed, ← handed, hhanded', List.append_nil]
    · rw [dropped, along_append, ← dropped, ← dropped, hdropped']
    · rw [journal, along_append, ← journal, ← journal, Journal.received_append, hreceived,
        List.append_nil]

/-- A page of three rows: the first one is decoded, the rows are counted beside the result, the
second one is refused, and the cursor is closed with the third one in the buffer. -/
theorem session_rows_closed_early :
    let s : Statement := ⟨"http://db", "FOR d IN c RETURN d", false, none, []⟩
    let w : Wire := .ofAnswers
      [.ok ⟨201, "\x7b\"id\":\"7\",\"hasMore\":true,\"result\":[\"a\",1,\"b\"]\x7d"⟩,
        .ok ⟨201, "\x7b\"count\":3,\"result\":[\"x\"]\x7d"⟩, .ok ⟨202, ""⟩]
    let r : Reader String := ⟨s.cursor, Decoder.string⟩
    let ops : List (Op String) := [.next, .length]
    let more : List (Op String) := [.next, .length, .next]
    let r' := (r.run w more).2.1
    .close ∉ more ∧ (r'.cursor.close (r.run w more).2.2).result = .ok () ∧
      (r.run w more).1 = [.ok (.row (some "a")), .ok (.length 3), .error .json] ∧
      (∃ row, r.handed w more = r.handed w ops ++ [row] ∧ Decoder.string row = .error .json) ∧
      (r.handed w more).length = 2 ∧ r'.cursor.buffer.length = 1 ∧
      r.handed w more ++ r'.cursor.buffer = (r.journal w more).received ∧
      r.handed w (more ++ [.close, .next, .first]) = r.handed w more ∧
      r.dropped w (more ++ [.close, .next, .first]) = r.dropped w more ++ r'.cursor.buffer := by
  intro s w r ops more r'
  have hopen : .close ∉ more := by simp [more]
  obtain ⟨hclose, hreplies, hphase, hcount, hbuffer⟩ :
      (r'.cursor.close (r.run w more).2.2).result = .ok () ∧
      (r.run w more).1 = [.ok (.row (some "a")), .ok (.length 3), .error .json] ∧
      r'.cursor.phase = .active ∧ (r.handed w more).length = 2 ∧ r'.cursor.buffer.length = 1 := by
    decide +kernel
  obtain ⟨-, -, ⟨rows, reply, hhanded, hreply, hdelivers⟩, -⟩ :=
    session_rows s Decoder.string w ops []
  obtain ⟨-, -, -, hrows, -, -, hclosed⟩ := session_rows s Decoder.string w more [.next, .first]
  obtain ⟨hhanded', hdropped', -⟩ := hclosed hclose
  have hrefused : reply = .error .json := by
    have hlast := congrArg List.getLast? hreply
    rw [List.getLast?_concat] at hlast
    exact (Option.some.inj ((congrArg List.getLast? hreplies).symm.trans hlast)).symm
  have hrow : ∃ row, rows = [row] ∧ Decoder.string row = .error .json := by
    change r'.cursor.phase = .active at hphase
    change (Decoder.string.after ops).Delivers rows reply r'.cursor at hdelivers
    generalize r'.cursor = c at hphase hdelivers
    cases hdelivers with
    | row row => exact ⟨row, rfl, Decoder.verdict_eq_error_iff.mp hrefused⟩
    | ended hended => cases hphase.symm.trans hended
    | failed hfailed => cases hphase.symm.trans hfailed
  obtain ⟨row, rfl, hstring⟩ := hrow
  exact ⟨hopen, hclose, hreplies, ⟨row, hhanded, hstring⟩, hcount, hbuffer, hrows hopen, hhanded',
    hdropped'⟩

end Reader

end Pagewise
