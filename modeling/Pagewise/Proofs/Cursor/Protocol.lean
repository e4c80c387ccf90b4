import Pagewise.Proofs.Cursor.Journal

/-!
# The requests of a cursor

What a cursor sends, and when. A cursor creates its result at most once, before everything else it
asks of it, and advances only by the name that the server told last, when all rows are handed out
and more were announced. Whatever it asks beside its result is asked of one row at a time.

* `Protocol`: the requests that may be sent, by what happened before.
* `Tracks`: what a cursor knows of what happened to it.
* **`Reader.session_protocol`**: every session keeps to the protocol.
-/

namespace Pagewise

/-- **When a request may be sent**, by what happened before and the cursor that came of it. -/
inductive Protocol (s : Statement) (before : Journal) (c : Cursor) : Purpose → Request → Prop
  /-- The result is created once, and nothing of it was asked before. -/
  | create {count : Bool} (hfirst : ∀ d a, .exchange .page d a ∉ before)
      (hphase : c.phase = .unstarted) (hbuffer : c.buffer = [])
      (hcount : count = s.count ∨ count = true) :
      Protocol s before c .page
        ⟨.post, s.endpoint ++ cursorPath,
          some (Creation.print ⟨s.query, count, s.batchSize, s.binds⟩), none⟩
  /-- The result is advanced once it was created, by the last name that came with a page of it. -/
  | advance {id : String} {p : Page}
      (hcreated : ∃ count a, .exchange .page (.create s.query count s.batchSize) a ∈ before)
      (hlast : before.pages.getLast? = some p) (hmore : p.hasMore = true)
      (hid : before.lastId? = some id) (hphase : c.phase = .active) (hbuffer : c.buffer = []) :
      Protocol s before c .page ⟨.put, s.endpoint ++ cursorPathOf id, none, none⟩
  | count (hphase : c.phase = .active ∨ c.phase = .exhausted) :
      Protocol s before c .count
        ⟨.post, s.endpoint ++ cursorPath,
          some (Creation.print ⟨s.query, true, some 1, s.binds⟩), none⟩
  | row {position : Nat} (hphase : c.phase = .active ∨ c.phase = .exhausted) :
      Protocol s before c (.row position)
        ⟨.post, s.endpoint ++ cursorPath,
          some (Creation.print ⟨s.queryAt position, false, some 1, s.binds⟩), none⟩
  | delete {purpose : Purpose} {id : String} (hpurpose : purpose = .discard ∨ purpose = .close) :
      Protocol s before c purpose ⟨.delete, s.endpoint ++ cursorPathOf id, none, none⟩

/-! ## The last name -/

namespace Journal

variable {j : Journal} {e : Event} {p : Page}

theorem pages_eq_nil (h : ∀ d a, .exchange .page d a ∉ j) : j.pages = [] := by
  rw [pages, List.filterMap_eq_nil_iff]
  intro e he
  unfold Event.page?
  split
  · exact absurd he (h _ _)
  · rfl

theorem getLast?_pages (h : e.page? = some p) : (pages (j ++ [e])).getLast? = some p := by
  rw [pages_append, pages_single, h]
  exact List.getLast?_concat

/-- A page without a name leaves the earlier name. -/
theorem lastId?_page (h : e.page? = some p) : lastId? (j ++ [e]) = p.id.or j.lastId? := by
  unfold lastId?
  rw [pages_append, pages_single, h, List.filterMap_append, List.getLast?_append]
  cases hid : p.id <;> simp [hid]

theorem pages_beside (h : e.page? = none) : pages (j ++ [e]) = j.pages := by
  rw [pages_append, pages_single, h]
  exact List.append_nil _

end Journal

/-! ## What a cursor knows -/

namespace Cursor

variable {c c' : Cursor} {j : Journal} {e : Event}

/-- **What a cursor knows of what happened to it**: whether its result was created, and of its
last page whether more follows and by which name. -/
structure Tracks (s : Statement) (j : Journal) (c : Cursor) : Prop where
  unstarted : c.phase = .unstarted → ∀ d a, .exchange .page d a ∉ j
  created : c.phase = .active →
    ∃ count a, .exchange .page (.create s.query count s.batchSize) a ∈ j
  more : c.phase = .active → ∃ p, j.pages.getLast? = some p ∧ p.hasMore = c.hasMore
  lastId : c.phase = .active → j.lastId? = c.id

theorem tracks_cursor (s : Statement) : Tracks s [] s.cursor where
  unstarted _ := by simp
  created h := absurd h (by simp [Statement.cursor])
  more h := absurd h (by simp [Statement.cursor])
  lastId h := absurd h (by simp [Statement.cursor])

namespace Tracks

variable {s : Statement}

/-- A cursor that is over knows nothing more. -/
theorem of_over (hu : c.phase ≠ .unstarted) (ha : c.phase ≠ .active) : c.Tracks s j where
  unstarted h := absurd h hu
  created h := absurd h ha
  more h := absurd h ha
  lastId h := absurd h ha

/-- A page tells of the name and of more. -/
theorem receive {answer : Answer} {d : Demand} {p : Page} (hpage : answer.page = .ok p)
    (hcreated : ∃ count a, .exchange .page (.create s.query count s.batchSize) a ∈
      j ++ [.exchange .page d answer])
    (hid : j.lastId? = c.id) :
    (c.receive p).Tracks s (j ++ [.exchange .page d answer]) := by
  have hevent : (Event.exchange .page d answer).page? = some p := Event.page?_of_ok hpage
  refine ⟨fun hu => ?_, fun _ => hcreated, fun _ => ⟨p, Journal.getLast?_pages hevent, rfl⟩,
    fun _ => ?_⟩
  · cases hu
  · rw [Journal.lastId?_page hevent, hid]
    rfl

/-- What leaves the phase, the name and the pages as they are changes nothing. -/
theorem beside (h : c.Tracks s j) (hphase : c'.phase = c.phase) (hid : c'.id = c.id)
    (hmore : c'.hasMore = c.hasMore) (he : ∀ d a, e ≠ .exchange .page d a)
    (hpage : e.page? = none) :
    c'.Tracks s (j ++ [e]) := by
  refine ⟨fun hu d a hmem => ?_, fun ha => ?_, fun ha => ?_, fun ha => ?_⟩ <;>
    rw [hphase] at *
  · rcases List.mem_append.mp hmem with hmem | hmem
    · exact h.unstarted hu d a hmem
    · exact he d a (List.mem_singleton.mp hmem).symm
  · obtain ⟨count, a, hmem⟩ := h.created ha
    exact ⟨count, a, List.mem_append_left [e] hmem⟩
  · rw [Journal.pages_beside hpage, hmore]
    exact h.more ha
  · rw [Journal.lastId?, Journal.pages_beside hpage, hid]
    exact h.lastId ha

/-- **Every event is taken note of.** -/
theorem after (h : c.Tracks s j) (hs : c.toStatement = s) (hwf : c.WellFormed)
    (allowed : c.Allows e) : (c.after e).Tracks s (j ++ [e]) := by
  cases allowed with
  | @create count answer hphase _ =>
    simp only [Cursor.after]
    cases hpage : answer.page with
    | error _ => exact of_over (by simp [fail]) (by simp [fail])
    | ok p =>
      refine receive hpage ⟨count, answer, ?_⟩ ?_
      · rw [← hs]
        exact List.mem_append_right j List.mem_cons_self
      · rw [Journal.lastId?, Journal.pages_eq_nil (h.unstarted hphase), (hwf.unstarted hphase).1]
        rfl
  | @advance _ answer hphase _ _ _ =>
    simp only [Cursor.after]
    cases hpage : answer.page with
    | error _ => exact of_over (by simp [fail]) (by simp [fail])
    | ok p =>
      obtain ⟨count, a, hmem⟩ := h.created hphase
      exact receive hpage ⟨count, a, List.mem_append_left _ hmem⟩ (h.lastId hphase)
  | stranded => exact of_over (by simp [Cursor.after, fail]) (by simp [Cursor.after, fail])
  | @count answer _ _ =>
    simp only [Cursor.after]
    cases answer.page with
    | ok p => exact h.beside rfl rfl rfl (by simp) rfl
    | error _ => exact h.beside rfl rfl rfl (by simp) rfl
  | row | discard | close => exact h.beside rfl rfl rfl (by simp) rfl
  | hand => exact h.beside rfl rfl rfl (by simp) rfl
  | exhaust | abandon =>
    exact of_over (by simp [Cursor.after, finish]) (by simp [Cursor.after, finish])

theorem course (h : s.cursor.Course j c) : c.Tracks s j := by
  induction h with
  | start => exact tracks_cursor s
  | step before allowed ih =>
    exact ih.after before.toStatement_eq ((wellFormed_cursor s).course before) allowed

/-- An allowed request keeps to the protocol. -/
theorem protocol {purpose : Purpose} {d : Demand} {a : Answer} (h : c.Tracks s j)
    (hs : c.toStatement = s) (hwf : c.WellFormed) (allowed : c.Allows (.exchange purpose d a)) :
    Protocol s j c purpose (d.request s) := by
  subst hs
  cases allowed with
  | create hphase hcount =>
    exact .create (h.unstarted hphase) hphase (hwf.unstarted hphase).2.2.1 hcount
  | advance hphase hbuffer hmore hid =>
    obtain ⟨p, hlast, hp⟩ := h.more hphase
    have hname := (h.lastId hphase).trans hid
    exact .advance (h.created hphase) hlast (hp.trans hmore) hname hphase hbuffer
  | count hphase => exact .count hphase
  | row hphase => exact .row hphase
  | discard => exact .delete (.inl rfl)
  | close => exact .delete (.inr rfl)

end Tracks

end Cursor

namespace Reader

variable {α : Type}

/-- **The protocol of a cursor.** What a session sends are the requests of its journal, and each of
them keeps to the protocol where it was sent, whatever was asked of the reader and answered. -/
theorem session_protocol (s : Statement) (decode : Decoder α) (w : Wire) (ops : List (Op α)) :
    let r : Reader α := ⟨s.cursor, decode⟩
    let j := r.journal w ops
    s.cursor.Records w j (r.run w ops).2.1.cursor (r.run w ops).2.2 ∧
      (r.run w ops).2.2.sent = w.sent ++ j.exchanges.map (fun x => x.1.request s) ∧
      ∀ before purpose d a rest, j = before ++ .exchange purpose d a :: rest →
        Protocol s before (s.cursor.replay before) purpose (d.request s) := by
  intro r j
  have hwf : s.cursor.WellFormed := Cursor.wellFormed_cursor s
  have hrecords := r.records_run w ops hwf
  refine ⟨hrecords, hrecords.carried.sent_eq, fun before purpose d a rest hj => ?_⟩
  have hcourse := hrecords.course
  change r.journal w ops = _ at hj
  rw [hj] at hcourse
  obtain ⟨m, hbefore, allowed, -⟩ := hcourse.split
  rw [hbefore.replay_eq]
  exact (Cursor.Tracks.course hbefore).protocol hbefore.toStatement_eq (hwf.course hbefore) allowed

/-- Of two pages the second is asked for by the name that came with the first. -/
theorem session_protocol_advanced :
    let s : Statement := ⟨"http://db", "FOR d IN c RETURN d", false, none, []⟩
    let w : Wire := .ofAnswers
      [.ok ⟨201, "\x7b\"id\":\"7\",\"hasMore\":true,\"result\":[1]\x7d"⟩,
        .ok ⟨200, "\x7b\"hasMore\":false,\"result\":[2]\x7d"⟩]
    ∃ before a rest,
      (Reader.raw s.cursor).journal w [.next, .next] =
          before ++ .exchange .page (.advance "7") a :: rest ∧
        Protocol s before (s.cursor.replay before) .page (s.advance "7") := by
  intro s w
  have hany : ((Reader.raw s.cursor).journal w [.next, .next]).any (fun e =>
      e.page?.isSome && e.exchange?.map Prod.fst == some (.advance "7")) = true := by
    decide +kernel
  obtain ⟨e, hmem, he⟩ := List.any_eq_true.mp hany
  obtain ⟨before, rest, hj⟩ := List.append_of_mem hmem
  obtain ⟨-, -, hprotocol⟩ := session_protocol s .ok w [.next, .next]
  rw [Bool.and_eq_true, beq_iff_eq] at he
  obtain ⟨hpage, hdemand⟩ := he
  cases e with
  | exchange purpose d a =>
    obtain rfl : d = .advance "7" := Option.some.inj hdemand
    cases purpose with
    | page => exact ⟨before, a, rest, hj, hprotocol before .page _ a rest hj⟩
    | count | row | discard | close => cases hpage
  | stranded | hand | exhaust | abandon => cases hdemand

end Reader

end Pagewise
