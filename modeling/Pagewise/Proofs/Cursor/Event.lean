import Pagewise.Cursor.Reader

/-!
# What happens to a cursor

A cursor lives by events: a request is sent and answered, a row is handed out, the end is reached,
the rest is given up. `Cursor.after` is the cursor that an event leaves, and `Cursor.Allows` lists
everything that can happen to a cursor, with the condition of each event. A `Course` is a sequence
of allowed events; the operations of a cursor are courses (`Pagewise.Proofs.Cursor.Journal`), so a
fact about all its sessions is an induction over a course, one case for each event.

A request is made for a `Purpose` and asks for a `Demand`. Two demands for different purposes can
be the same request, such as the creation of a cursor for its rows and for their number.
-/

namespace Pagewise

/-! ## Demands and answers -/

/-- What a request asks of the server. -/
inductive Demand where
  /-- A new cursor over the text of a query. -/
  | create (query : String) (count : Bool) (batchSize : Option Nat)
  /-- The next page of a cursor. -/
  | advance (id : String)
  /-- The end of a cursor. -/
  | delete (id : String)
deriving DecidableEq, Repr

/-- The request that makes a demand. -/
def Demand.request (s : Statement) : Demand → Request
  | .create query count batchSize => s.creation query count batchSize
  | .advance id => s.advance id
  | .delete id => s.deletion id

/-- What a cursor makes a demand for. -/
inductive Purpose where
  /-- The next page of its result. -/
  | page
  /-- The number of rows, asked beside the result. -/
  | count
  /-- The row at a position, asked beside the result. -/
  | row (position : Nat)
  /-- To delete a cursor that the server opened beside the result. -/
  | discard
  /-- To delete the cursor of the result. -/
  | close
deriving DecidableEq, Repr

instance decidableEqExcept {ε β : Type} [DecidableEq ε] [DecidableEq β] : DecidableEq (Except ε β)
  | .error e, .error e' => decidable_of_iff (e = e') ⟨congrArg _, Except.error.inj⟩
  | .ok b, .ok b' => decidable_of_iff (b = b') ⟨congrArg _, Except.ok.inj⟩
  | .error _, .ok _ => isFalse nofun
  | .ok _, .error _ => isFalse nofun

/-- The page that an answer brings. -/
def Answer.page : Answer → Except Error Page
  | .error e => .error (.transport e)
  | .ok response => response.page

/-- Whether an answer tells of success. -/
def Answer.check : Answer → Except Error Unit
  | .error e => .error (.transport e)
  | .ok response => response.check

theorem Answer.check_eq_ok_iff {a : Answer} :
    a.check = .ok () ↔ ∃ response, a = .ok response ∧ response.isSuccess = true := by
  cases a with
  | error e => simp [check]
  | ok response => cases h : response.isSuccess <;> simp [check, Response.check, h]

/-- Rows that are strings are told by their texts. -/
theorem rows_of_strings {rows : List Json} {texts : List String}
    (h : rows.map Json.string? = texts.map some) : rows = texts.map .string := by
  induction rows generalizing texts with
  | nil =>
    cases texts with
    | nil => rfl
    | cons _ _ => cases h
  | cons row rows ih =>
    cases texts with
    | nil => cases h
    | cons text texts =>
      obtain ⟨hrow, hrest⟩ := List.cons.inj h
      cases row with
      | string t =>
        cases hrow
        rw [List.map_cons, ← ih hrest]
      | _ => cases hrow

/-- A page of strings is told by its parts. -/
theorem page_of_strings {answer : Answer} {id : Option String} {hasMore : Bool}
    {count : Option Nat} {texts : List String}
    (h : (answer.page.toOption.map fun p =>
        (p.id, p.hasMore, p.count, p.rows.map Json.string?)) =
      some (id, hasMore, count, texts.map some)) :
    answer.page = .ok ⟨id, hasMore, count, texts.map .string⟩ := by
  cases hpage : answer.page with
  | error _ =>
    rw [hpage] at h
    cases h
  | ok p =>
    rw [hpage] at h
    obtain ⟨i, m, n, rows⟩ := p
    simp only [Except.toOption, Option.map_some, Option.some.injEq, Prod.mk.injEq] at h
    obtain ⟨rfl, rfl, rfl, hrows⟩ := h
    rw [rows_of_strings hrows]

theorem Wire.ask_eq (request : Request) (w : Wire) :
    w.ask request = ((w.send request).1.page, (w.send request).2) := by
  unfold ask Answer.page
  rcases w.send request with ⟨_ | _, _⟩ <;> rfl

theorem Wire.order_eq (request : Request) (w : Wire) :
    w.order request = ((w.send request).1.check, (w.send request).2) := by
  unfold order Answer.check
  rcases w.send request with ⟨_ | _, _⟩ <;> rfl

/-! ## Events -/

/-- Something that happens to a cursor. -/
inductive Event where
  /-- A request was sent and answered. -/
  | exchange (purpose : Purpose) (demand : Demand) (answer : Answer)
  /-- A page was due, and the server had never named the cursor to ask for it. -/
  | stranded
  /-- A row was taken from the buffer and handed out. -/
  | hand (row : Json)
  /-- The end of the result was reached. -/
  | exhaust
  /-- The rest was given up, these buffered rows with it. -/
  | abandon (dropped : List Json)

namespace Event

/-- The page of the result that an event brought. -/
def page? : Event → Option Page
  | .exchange .page _ answer => answer.page.toOption
  | _ => none

/-- Why an event ends a cursor: it was to bring a page of the result and did not. -/
def failure? : Event → Option Error
  | .exchange .page _ answer =>
    match answer.page with
    | .ok _ => none
    | .error e => some e
  | .stranded => some (.invalidResponse .noId)
  | _ => none

/-- Whether an event is a request beside the result. -/
def isBeside : Event → Bool
  | .exchange .count _ _ | .exchange (.row _) _ _ | .exchange .discard _ _ => true
  | _ => false

/-- What was asked and answered. -/
def exchange? : Event → Option (Demand × Answer)
  | .exchange _ d a => some (d, a)
  | _ => none

/-- The row that was handed out. -/
def handed? : Event → Option Json
  | .hand row => some row
  | _ => none

/-- The rows that were dropped. -/
def dropped : Event → List Json
  | .abandon rows => rows
  | _ => []

variable {d : Demand} {a : Answer}

theorem page?_of_ok {p : Page} (h : a.page = .ok p) : (exchange .page d a).page? = some p := by
  rw [page?, h]
  rfl

theorem page?_of_error {e : Error} (h : a.page = .error e) :
    (exchange .page d a).page? = none := by
  rw [page?, h]
  rfl

end Event

/-- What happened, the first event first. -/
abbrev Journal := List Event

namespace Journal

/-- The pages of the result, in the order they came. -/
def pages (j : Journal) : List Page :=
  j.filterMap Event.page?

/-- **The rows that the server sent for the result**, in the order they came. -/
def received (j : Journal) : List Json :=
  j.pages.flatMap Page.rows

/-- The rows that were handed out. -/
def handed (j : Journal) : List Json :=
  j.filterMap Event.handed?

/-- The rows that were given up. -/
def dropped (j : Journal) : List Json :=
  j.flatMap Event.dropped

/-- What was asked and answered. -/
def exchanges (j : Journal) : List (Demand × Answer) :=
  j.filterMap Event.exchange?

/-- The name that the server gave the cursor last. -/
def lastId? (j : Journal) : Option String :=
  (j.pages.filterMap Page.id).getLast?

/-- A journal of requests beside the result only. -/
def Beside (j : Journal) : Prop :=
  ∀ e ∈ j, e.isBeside = true

theorem beside_nil : Beside [] :=
  List.forall_mem_nil _

theorem Beside.cons {e : Event} {j : Journal} (he : e.isBeside = true) (hj : j.Beside) :
    Beside (e :: j) :=
  List.forall_mem_cons.mpr ⟨he, hj⟩

variable (j k : Journal) (e : Event)

@[simp]
theorem pages_append : pages (j ++ k) = j.pages ++ k.pages :=
  List.filterMap_append

@[simp]
theorem handed_append : handed (j ++ k) = j.handed ++ k.handed :=
  List.filterMap_append

@[simp]
theorem dropped_append : dropped (j ++ k) = j.dropped ++ k.dropped :=
  List.flatMap_append

@[simp]
theorem exchanges_append : exchanges (j ++ k) = j.exchanges ++ k.exchanges :=
  List.filterMap_append

@[simp]
theorem received_append : received (j ++ k) = j.received ++ k.received := by
  rw [received, pages_append, List.flatMap_append]
  rfl

@[simp]
theorem pages_single : pages [e] = e.page?.toList := by
  rw [pages, List.filterMap_cons]
  cases e.page? <;> rfl

theorem received_single : received [e] = (e.page?.map Page.rows).getD [] := by
  rw [received, pages_single]
  cases e.page? with
  | none => rfl
  | some p => exact List.flatMap_singleton Page.rows p

@[simp]
theorem handed_single : handed [e] = e.handed?.toList := by
  rw [handed, List.filterMap_cons]
  cases e.handed? <;> rfl

@[simp]
theorem dropped_single : dropped [e] = e.dropped :=
  List.flatMap_singleton Event.dropped e

@[simp]
theorem exchanges_single : exchanges [e] = e.exchange?.toList := by
  rw [exchanges, List.filterMap_cons]
  cases e.exchange? <;> rfl

end Journal

namespace Cursor

/-- The cursor that an event leaves. -/
def after (c : Cursor) : Event → Cursor
  | .exchange .page _ answer =>
    match answer.page with
    | .ok p => c.receive p
    | .error _ => c.fail
  | .exchange .count _ answer =>
    match answer.page with
    | .ok p => { c with total := p.count }
    | .error _ => c
  | .exchange _ _ _ => c
  | .stranded => c.fail
  | .hand _ => { c with buffer := c.buffer.tail }
  | .exhaust => c.finish
  | .abandon _ => c.finish

/-- The cursor after one event after the other. -/
def replay (c : Cursor) (j : Journal) : Cursor :=
  j.foldl after c

/-- **What can happen to a cursor**, and when. -/
inductive Allows (c : Cursor) : Event → Prop
  /-- The first request creates the cursor, with the count that was wanted or one that is forced. -/
  | create {count : Bool} {answer : Answer} (hphase : c.phase = .unstarted)
      (hcount : count = c.count ∨ count = true) :
      Allows c (.exchange .page (.create c.query count c.batchSize) answer)
  /-- A page is fetched when the last one is handed out and more rows are announced. -/
  | advance {id : String} {answer : Answer} (hphase : c.phase = .active) (hbuffer : c.buffer = [])
      (hmore : c.hasMore = true) (hid : c.id = some id) :
      Allows c (.exchange .page (.advance id) answer)
  | stranded (hphase : c.phase = .active) (hbuffer : c.buffer = []) (hmore : c.hasMore = true)
      (hid : c.id = none) : Allows c .stranded
  | count {answer : Answer} (hphase : c.phase = .active ∨ c.phase = .exhausted)
      (htotal : c.total = none) :
      Allows c (.exchange .count (.create c.query true (some 1)) answer)
  | row {position : Nat} {answer : Answer} (hphase : c.phase = .active ∨ c.phase = .exhausted) :
      Allows c (.exchange (.row position) (.create (c.queryAt position) false (some 1)) answer)
  | discard {id : String} {answer : Answer} (hphase : c.phase = .active ∨ c.phase = .exhausted) :
      Allows c (.exchange .discard (.delete id) answer)
  | close {id : String} {answer : Answer} (hid : c.id = some id) (hmore : c.hasMore = true) :
      Allows c (.exchange .close (.delete id) answer)
  | hand {row : Json} {rest : List Json} (hbuffer : c.buffer = row :: rest) : Allows c (.hand row)
  | exhaust (hphase : c.phase = .active) (hbuffer : c.buffer = []) (hmore : c.hasMore = false) :
      Allows c .exhaust
  | abandon (hphase : c.phase ≠ .failed) : Allows c (.abandon c.buffer)

/-- A sequence of allowed events, and the cursor that it leads to. -/
inductive Course (c : Cursor) : Journal → Cursor → Prop
  | start : Course c [] c
  | step {j : Journal} {m : Cursor} {e : Event} (before : Course c j m) (allowed : m.Allows e) :
      Course c (j ++ [e]) (m.after e)

/-! ### What an event leaves as it is -/

@[simp]
theorem after_toStatement (c : Cursor) (e : Event) : (c.after e).toStatement = c.toStatement := by
  unfold after
  split
  · split <;> rfl
  · split <;> rfl
  all_goals rfl

/-- Only a page, and the end, change where a cursor is. -/
theorem after_phase_of_beside {c : Cursor} {p : Purpose} {d : Demand} {a : Answer}
    (h : p ≠ .page) : (c.after (.exchange p d a)).phase = c.phase := by
  cases p with
  | page => exact absurd rfl h
  | count =>
    simp only [after]
    split <;> rfl
  | row | discard | close => rfl

/-! ### Courses -/

namespace Course

variable {c m c' : Cursor} {j k : Journal} {e : Event}

theorem toStatement_eq (h : c.Course j c') : c'.toStatement = c.toStatement := by
  induction h with
  | start => rfl
  | step _ _ ih => rw [after_toStatement, ih]

/-- A course leads to the cursor that its events leave. -/
theorem replay_eq (h : c.Course j c') : c.replay j = c' := by
  induction h with
  | start => rfl
  | step _ _ ih =>
    unfold replay at ih ⊢
    rw [List.foldl_append, ih]
    rfl

theorem single (h : c.Allows e) : c.Course [e] (c.after e) :=
  .step .start h

theorem append (h : c.Course j m) (h' : m.Course k c') : c.Course (j ++ k) c' := by
  induction h' with
  | start => rwa [List.append_nil]
  | step _ allowed ih =>
    rw [← List.append_assoc]
    exact .step ih allowed

/-- Every event of a course was allowed where it happened. -/
theorem split (h : c.Course (j ++ e :: k) c') :
    ∃ m, c.Course j m ∧ m.Allows e ∧ (m.after e).Course k c' := by
  generalize hl : j ++ e :: k = l at h
  induction h generalizing k with
  | start => exact absurd hl (by simp)
  | @step l' m e' before allowed ih =>
    rcases List.eq_nil_or_concat k with rfl | ⟨k', last, rfl⟩
    · obtain ⟨rfl, he⟩ := List.append_inj' hl rfl
      obtain rfl : e = e' := List.singleton_inj.mp he
      exact ⟨m, before, allowed, .start⟩
    · rw [List.concat_eq_append] at hl ⊢
      rw [← List.cons_append, ← List.append_assoc] at hl
      obtain ⟨rfl, he⟩ := List.append_inj' hl rfl
      obtain rfl : last = e' := List.singleton_inj.mp he
      obtain ⟨n, hn, hallowed, hrest⟩ := ih rfl
      exact ⟨n, hn, hallowed, .step hrest allowed⟩

end Course

end Cursor

end Pagewise
