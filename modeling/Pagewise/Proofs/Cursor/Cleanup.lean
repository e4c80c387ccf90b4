import Pagewise.Proofs.Cursor.Protocol

/-!
# Cursors beside the result are deleted

A request beside the result has a cursor of its own on the server. When its answer tells that the
server keeps that cursor, by a name and with more rows, then the next request deletes it, in the
same operation. Besides these only the cursor of the result is deleted, by `close` and by the name
that the server told last, so no inspection of a result takes its cursor away.

* `Journal.Tidy`: every deletion that is due comes next, and there is no other.
* `Reader.tidy_stepJournal`: the journal of every operation is tidy.
* **`Reader.session_deletions`**: which cursors every operation of a session deletes, and when.
-/

namespace Pagewise

/-! ## Deletions that are due -/

namespace Event

/-- The name of the cursor that the server keeps for a request beside the result. -/
def leftOpen? : Event → Option String
  | .exchange .count _ answer | .exchange (.row _) _ answer =>
    match answer.page with
    | .ok p => if p.hasMore then p.id else none
    | .error _ => none
  | _ => none

/-- The name of the cursor that an event deletes, and what for. -/
def deletion? : Event → Option (Purpose × String)
  | .exchange purpose (.delete id) _ => some (purpose, id)
  | _ => none

theorem eq_of_deletion? {e : Event} {purpose : Purpose} {id : String}
    (h : e.deletion? = some (purpose, id)) : ∃ a, e = .exchange purpose (.delete id) a := by
  unfold deletion? at h
  split at h
  · cases h
    exact ⟨_, rfl⟩
  · cases h

/-- The deletion that is due after an event. -/
def due? (e : Event) : Option (Purpose × String) :=
  e.leftOpen?.map fun id => (.discard, id)

theorem due?_eq_some {e : Event} {purpose : Purpose} {id : String}
    (h : e.due? = some (purpose, id)) : purpose = .discard ∧ e.leftOpen? = some id := by
  obtain ⟨other, hopen, heq⟩ := Option.map_eq_some_iff.mp h
  cases heq
  exact ⟨rfl, hopen⟩

end Event

namespace Journal

/-- **A tidy journal**: it begins with the deletion that is due, if there is one, what an event
leaves open is deleted next, and nothing else is deleted. -/
def Tidy : Option (Purpose × String) → Journal → Prop
  | due, [] => due = none
  | due, e :: j => e.deletion? = due ∧ Tidy e.due? j

/-- The next request, if there is one, deletes nothing. -/
def DeletesNothingNext (j : Journal) : Prop :=
  ∀ x ∈ j.exchanges.head?, ∀ id, x.1 ≠ .delete id

variable {due : Option (Purpose × String)} {j k before rest : Journal} {e : Event}

theorem tidy_nil : Tidy none [] :=
  rfl

theorem tidy_single (hdeletion : e.deletion? = due) (hdue : e.due? = none) : Tidy due [e] :=
  ⟨hdeletion, hdue⟩

theorem Tidy.cons (hdeletion : e.deletion? = due) (hdue : e.due? = none) (hj : Tidy none j) :
    Tidy due (e :: j) :=
  ⟨hdeletion, hdue ▸ hj⟩

theorem Tidy.append (hj : Tidy due j) (hk : Tidy none k) : Tidy due (j ++ k) := by
  induction j generalizing due with
  | nil =>
    obtain rfl : due = none := hj
    exact hk
  | cons e j ih => exact ⟨hj.1, ih hj.2⟩

/-- What is due after an event comes next. -/
theorem Tidy.rest_of (h : Tidy due (before ++ e :: rest)) : Tidy e.due? rest := by
  induction before generalizing due with
  | nil => exact h.2
  | cons _ before ih => exact ih h.2

/-- What is deleted was due: from the beginning, or after the event before. -/
theorem Tidy.was_due (h : Tidy due (before ++ e :: rest)) :
    before = [] ∧ e.deletion? = due ∨
      ∃ before' e', before = before' ++ [e'] ∧ e.deletion? = e'.due? := by
  rcases List.eq_nil_or_concat before with rfl | ⟨before', e', rfl⟩
  · exact .inl ⟨rfl, h.1⟩
  · rw [List.concat_eq_append, List.append_assoc, List.singleton_append] at h
    exact .inr ⟨before', e', List.concat_eq_append, h.rest_of.1⟩

/-- A deletion that is due is the next request, and there is one only. -/
theorem Tidy.exists_deletion {purpose : Purpose} {id : String}
    (h : Tidy (some (purpose, id)) j) :
    ∃ a k, j = .exchange purpose (.delete id) a :: k ∧
      Tidy (Event.exchange purpose (.delete id) a).due? k := by
  cases j with
  | nil => cases h
  | cons e k =>
    obtain ⟨a, rfl⟩ := Event.eq_of_deletion? h.1
    exact ⟨a, k, rfl, h.2⟩

/-- When nothing is due, the next request deletes nothing. -/
theorem Tidy.deletesNothingNext (h : Tidy none j) : j.DeletesNothingNext := by
  induction j with
  | nil =>
    intro x hx
    cases hx
  | cons e j ih =>
    cases e with
    | exchange p d a =>
      intro x hx id hd
      obtain rfl : (d, a) = x := Option.some.inj hx
      obtain rfl : d = .delete id := hd
      cases h.1
    | stranded | hand | exhaust | abandon => exact ih h.2

end Journal

/-! ## The journals are tidy -/

namespace Statement

variable (s : Statement) (w : Wire)

theorem tidy_discard (p : Page) :
    Journal.Tidy ((if p.hasMore then p.id else none).map fun id => (.discard, id))
      (s.discardJournal p w) := by
  unfold discardJournal
  cases p.id with
  | none =>
    rw [ite_self]
    exact Journal.tidy_nil
  | some id =>
    cases p.hasMore with
    | false => exact Journal.tidy_nil
    | true => exact Journal.tidy_single rfl rfl

/-- A cursor that is created beside the result is deleted next, if the server keeps it. -/
theorem tidy_beside {p : Purpose} {query : String} {count : Bool} {batchSize : Option Nat}
    (hp : p = .count ∨ ∃ position, p = .row position) :
    Journal.Tidy none (s.besideJournal p (.create query count batchSize) w) := by
  refine ⟨rfl, ?_⟩
  have hopen : ∀ a : Answer, (Event.exchange p (.create query count batchSize) a).leftOpen? =
      match a.page with
      | .ok p => if p.hasMore then p.id else none
      | .error _ => none := by
    rcases hp with rfl | ⟨position, rfl⟩ <;> exact fun _ => rfl
  rw [Event.due?, hopen]
  cases (w.send (Demand.request s (.create query count batchSize))).1.page with
  | ok page => exact s.tidy_discard _ page
  | error _ => exact Journal.tidy_nil

theorem tidy_row (position : Nat) : Journal.Tidy none (s.rowJournal position w) :=
  s.tidy_beside w (.inr ⟨position, rfl⟩)

end Statement

namespace Cursor

variable (c : Cursor) (w : Wire)

theorem tidy_fetch (count : Bool) {j : Journal} (hj : Journal.Tidy none j) :
    Journal.Tidy none (c.fetchEvent count w :: j) := by
  unfold fetchEvent pageDemand?
  cases c.phase <;> cases c.id <;> exact .cons rfl rfl hj

theorem tidy_next : Journal.Tidy none (c.nextJournal w) :=
  c.nextJournal_induction w Journal.tidy_nil (fun _ => Journal.tidy_single rfl rfl)
    (Journal.tidy_single rfl rfl) fun c w _ hj => c.tidy_fetch w c.count hj

theorem tidy_headRow : Journal.Tidy none (c.headRowJournal w) := by
  unfold headRowJournal
  cases c.head with
  | some _ => exact Journal.tidy_nil
  | none => exact c.tidy_row w 0

theorem tidy_first : Journal.Tidy none (c.firstJournal w) := by
  unfold firstJournal
  cases c.phase with
  | failed => exact Journal.tidy_nil
  | unstarted =>
    simp only
    split
    · exact c.tidy_fetch w _ Journal.tidy_nil
    · exact c.tidy_fetch w _ (tidy_headRow _ _)
  | active | exhausted => exact c.tidy_headRow w

theorem tidy_length : Journal.Tidy none (c.lengthJournal w) := by
  unfold lengthJournal
  cases c.total with
  | some _ => exact Journal.tidy_nil
  | none =>
    cases c.phase with
    | failed => exact Journal.tidy_nil
    | unstarted => exact c.tidy_fetch w _ Journal.tidy_nil
    | active | exhausted => exact c.tidy_beside w (.inl rfl)

theorem tidy_last : Journal.Tidy none (c.lastJournal w) := by
  unfold lastJournal
  split
  · exact Journal.tidy_nil
  · split
    · exact c.tidy_length w
    · exact c.tidy_length w
    · exact (c.tidy_length w).append (Statement.tidy_row _ _ _)

theorem tidy_closed : Journal.Tidy none c.closedJournal := by
  unfold closedJournal
  split
  · exact Journal.tidy_nil
  · exact Journal.tidy_single rfl rfl

theorem Closes.tidy {c : Cursor} {w : Wire} {j : Journal} {o : Outcome Unit}
    (h : c.Closes w j o) : Journal.Tidy (c.held?.map fun id => (.close, id)) j := by
  cases h with
  | free hheld =>
    rw [hheld]
    exact c.tidy_closed
  | released hheld =>
    rw [hheld]
    exact .cons rfl rfl c.tidy_closed
  | kept hheld =>
    rw [hheld]
    exact Journal.tidy_single rfl rfl

/-- The cursor that the server holds is the one that was named last. -/
theorem Tracks.lastId?_of_held {s : Statement} {j : Journal} {id : String} {c : Cursor}
    (h : c.Tracks s j) (hwf : c.WellFormed) (hid : c.id = some id) : j.lastId? = some id := by
  cases hphase : c.phase with
  | active => exact (h.lastId hphase).trans hid
  | unstarted => cases hid.symm.trans (hwf.unstarted hphase).1
  | exhausted => cases hid.symm.trans (hwf.exhausted hphase).1
  | failed => cases hid.symm.trans (hwf.failed hphase).1

end Cursor

/-! ## Sessions -/

namespace Reader

variable {α : Type}

/-- The deletion that an operation begins with: that of the cursor of the result, on closing. -/
def dueOf (r : Reader α) : Op α → Option (Purpose × String)
  | .close => r.cursor.held?.map fun id => (.close, id)
  | _ => none

theorem dueOf_eq_some {r : Reader α} {op : Op α} {purpose : Purpose} {id : String}
    (h : r.dueOf op = some (purpose, id)) :
    purpose = .close ∧ op = .close ∧ r.cursor.held? = some id := by
  cases op with
  | close =>
    obtain ⟨other, hheld, heq⟩ := Option.map_eq_some_iff.mp h
    cases heq
    exact ⟨rfl, rfl, hheld⟩
  | _ => cases h

/-- **The journal of every operation is tidy.** -/
theorem tidy_stepJournal (r : Reader α) (w : Wire) (op : Op α) :
    Journal.Tidy (r.dueOf op) (r.stepJournal w op) := by
  cases op with
  | next => exact r.cursor.tidy_next w
  | first => exact r.cursor.tidy_first w
  | last => exact r.cursor.tidy_last w
  | length | isEmpty => exact r.cursor.tidy_length w
  | close => exact (r.cursor.closes w).tidy
  | decodeWith _ => exact Journal.tidy_nil

/-- **Which cursors are deleted, and when.** In every operation of a session: a cursor that the
server keeps for a request beside the result is deleted by the very next request, once, and no
deletion follows what left no cursor open. Every deletion is such a one, or the first request of
`close`, of the cursor of the result by its last name, while the server holds more rows of it. -/
theorem session_deletions (s : Statement) (decode : Decoder α) (w : Wire) (ops : List (Op α))
    (op : Op α) :
    let start : Reader α := ⟨s.cursor, decode⟩
    let r := (start.run w ops).2.1
    let v := (start.run w ops).2.2
    let j := r.stepJournal v op
    r.cursor.Records v j (r.step v op).2.1.cursor (r.step v op).2.2 ∧
      (r.step v op).2.2.sent = v.sent ++ j.exchanges.map (fun x => x.1.request s) ∧
      (∀ (before : Journal) (e : Event) (rest : Journal), j = before ++ e :: rest →
        (∀ id, e.leftOpen? = some id →
          ∃ (a : Answer) (later : Journal), rest = .exchange .discard (.delete id) a :: later ∧
            later.DeletesNothingNext) ∧
        (e.leftOpen? = none → rest.DeletesNothingNext)) ∧
      ∀ (before : Journal) (purpose : Purpose) (id : String) (a : Answer) (rest : Journal),
        j = before ++ .exchange purpose (.delete id) a :: rest →
          (purpose = .discard ∧ ∃ (earlier : Journal) (e : Event),
            before = earlier ++ [e] ∧ e.leftOpen? = some id) ∨
          (purpose = .close ∧ op = .close ∧ before = [] ∧ r.cursor.id = some id ∧
            r.cursor.hasMore = true ∧ (start.journal w ops).lastId? = some id) := by
  intro start r v j
  have hwf : start.cursor.WellFormed := Cursor.wellFormed_cursor s
  have hrun := start.records_run w ops hwf
  have hwf' : r.cursor.WellFormed := hwf.course hrun.course
  have hrecords := r.records_step v op hwf'
  have hstatement : r.cursor.toStatement = s := hrun.course.toStatement_eq
  have htidy : Journal.Tidy (r.dueOf op) j := r.tidy_stepJournal v op
  have hnext : ∀ {before e rest}, j = before ++ e :: rest → Journal.Tidy e.due? rest :=
    fun hj => Journal.Tidy.rest_of (hj ▸ htidy)
  refine ⟨hrecords, ?_, fun before e rest hj => ⟨fun id hopen => ?_, fun hopen => ?_⟩,
    fun before purpose id a rest hj => ?_⟩
  · rw [← hstatement]
    exact hrecords.carried.sent_eq
  · have hrest := hnext hj
    rw [Event.due?, hopen] at hrest
    obtain ⟨a, later, hdeletion, hlater⟩ := hrest.exists_deletion
    exact ⟨a, later, hdeletion, hlater.deletesNothingNext⟩
  · have hrest := hnext hj
    rw [Event.due?, hopen] at hrest
    exact hrest.deletesNothingNext
  · rcases Journal.Tidy.was_due (hj ▸ htidy) with ⟨hbefore, hdue⟩ | ⟨earlier, e, hbefore, hdue⟩
    · obtain ⟨hpurpose, hop, hheld⟩ := dueOf_eq_some hdue.symm
      obtain ⟨hid, hmore⟩ := Cursor.held?_eq_some hheld
      have hlast := (Cursor.Tracks.course hrun.course).lastId?_of_held hwf' hid
      exact .inr ⟨hpurpose, hop, hbefore, hid, hmore, hlast⟩
    · obtain ⟨hpurpose, hopen⟩ := Event.due?_eq_some hdue.symm
      exact .inl ⟨hpurpose, earlier, e, hbefore, hopen⟩

/-- `last` of a cursor that was not counted: the cursor of the count is left open and deleted, that
of the row is not left open. -/
theorem session_deletions_last :
    let s : Statement := ⟨"http://db", "FOR d IN c RETURN d", false, none, []⟩
    let created : Answer := .ok ⟨201, "\x7b\"id\":\"7\",\"hasMore\":true,\"result\":[1]\x7d"⟩
    let counted : Answer :=
      .ok ⟨201, "\x7b\"id\":\"9\",\"hasMore\":true,\"count\":3,\"result\":[1]\x7d"⟩
    let deleted : Answer := .ok ⟨202, ""⟩
    let single : Answer := .ok ⟨201, "\x7b\"id\":\"10\",\"hasMore\":false,\"result\":[3]\x7d"⟩
    let w : Wire := .ofAnswers [created, counted, deleted, single]
    let r : Reader Json := ((raw s.cursor).run w [.next]).2.1
    let v : Wire := ((raw s.cursor).run w [.next]).2.2
    (r.stepJournal v .last).exchanges =
        [(.create s.query true (some 1), counted), (.delete "9", deleted),
          (.create (s.queryAt 2) false (some 1), single)] ∧
      ∃ (before : Journal) (e : Event) (rest : Journal),
        r.stepJournal v .last = before ++ e :: rest ∧ e.leftOpen? = some "9" ∧
        ∃ (a : Answer) (later : Journal), rest = .exchange .discard (.delete "9") a :: later ∧
          later.DeletesNothingNext := by
  intro s created counted deleted single w r v
  obtain ⟨hexchanges, hany⟩ : (r.stepJournal v .last).exchanges =
        [(.create s.query true (some 1), counted), (.delete "9", deleted),
          (.create (s.queryAt 2) false (some 1), single)] ∧
      (r.stepJournal v .last).any (fun e => e.leftOpen? == some "9") = true := by
    decide +kernel
  obtain ⟨e, hmem, he⟩ := List.any_eq_true.mp hany
  obtain ⟨before, rest, hj⟩ := List.append_of_mem hmem
  obtain ⟨-, -, hnext, -⟩ := session_deletions s .ok w [.next] .last
  have hopen : e.leftOpen? = some "9" := beq_iff_eq.mp he
  exact ⟨hexchanges, before, e, rest, hj, hopen, (hnext before e rest hj).1 "9" hopen⟩

end Reader

end Pagewise
