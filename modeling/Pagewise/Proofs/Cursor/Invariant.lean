import Pagewise.Proofs.Cursor.Event

/-!
# What holds of every cursor

`Cursor.WellFormed` is the invariant of a cursor: what its phase says about its other fields. It
holds of a new cursor (`wellFormed_cursor`), every allowed event keeps it (`WellFormed.after`), and
so does every course (`WellFormed.course`).

A phase can be left in one direction only. **`Course.of_failed`**: nothing happens to a failed
cursor any more. **`Course.of_exhausted`**: an exhausted cursor stays exhausted, fetches no page and
hands out no row.
-/

namespace Pagewise.Cursor

/-- **The invariant of a cursor.** -/
structure WellFormed (c : Cursor) : Prop where
  unstarted : c.phase = .unstarted →
    c.id = none ∧ c.hasMore = true ∧ c.buffer = [] ∧ c.head = none ∧ c.total = none
  active : c.phase = .active → c.head ≠ none
  exhausted : c.phase = .exhausted → c.id = none ∧ c.hasMore = false ∧ c.buffer = []
  failed : c.phase = .failed → c.id = none ∧ c.hasMore = false ∧ c.buffer = []

theorem wellFormed_cursor (s : Statement) : s.cursor.WellFormed where
  unstarted _ := ⟨rfl, rfl, rfl, rfl, rfl⟩
  active h := absurd h (by simp [Statement.cursor])
  exhausted h := absurd h (by simp [Statement.cursor])
  failed h := absurd h (by simp [Statement.cursor])

variable {c c' : Cursor} {j k : Journal} {e : Event}

theorem wellFormed_finish (c : Cursor) : c.finish.WellFormed where
  unstarted h := absurd h (by simp [finish])
  active h := absurd h (by simp [finish])
  exhausted _ := ⟨rfl, rfl, rfl⟩
  failed h := absurd h (by simp [finish])

theorem wellFormed_fail (c : Cursor) : c.fail.WellFormed where
  unstarted h := absurd h (by simp [fail])
  active h := absurd h (by simp [fail])
  exhausted h := absurd h (by simp [fail])
  failed _ := ⟨rfl, rfl, rfl⟩

namespace WellFormed

theorem receive (h : c.WellFormed) (hphase : c.phase = .unstarted ∨ c.phase = .active) (p : Page) :
    (c.receive p).WellFormed where
  unstarted h := absurd h (by simp [Cursor.receive])
  active _ := by
    unfold Cursor.receive
    rcases hphase with hu | ha
    · simp only [hu, if_pos]
      exact Option.some_ne_none _
    · rw [if_neg (by rw [ha]; decide)]
      exact h.active ha
  exhausted h := absurd h (by simp [Cursor.receive])
  failed h := absurd h (by simp [Cursor.receive])

/-- A cursor with buffered rows is active. -/
theorem active_of_buffer (h : c.WellFormed) {row : Json} {rest : List Json}
    (hbuffer : c.buffer = row :: rest) : c.phase = .active := by
  cases hphase : c.phase with
  | active => rfl
  | unstarted => exact absurd (hbuffer.symm.trans (h.unstarted hphase).2.2.1) (List.cons_ne_nil _ _)
  | exhausted => exact absurd (hbuffer.symm.trans (h.exhausted hphase).2.2) (List.cons_ne_nil _ _)
  | failed => exact absurd (hbuffer.symm.trans (h.failed hphase).2.2) (List.cons_ne_nil _ _)

/-- Every event keeps the invariant. -/
theorem after (h : c.WellFormed) (allowed : c.Allows e) : (c.after e).WellFormed := by
  cases allowed with
  | @create count answer hphase _ | @advance _ answer hphase _ _ _ =>
    simp only [Cursor.after]
    cases answer.page with
    | ok p => exact h.receive (by simp [hphase]) p
    | error _ => exact wellFormed_fail c
  | stranded => exact wellFormed_fail c
  | @count answer hphase _ =>
    simp only [Cursor.after]
    cases answer.page with
    | ok p =>
      refine ⟨fun hu => ?_, h.active, h.exhausted, h.failed⟩
      rcases hphase with ha | he
      · exact absurd (ha.symm.trans hu) (by decide)
      · exact absurd (he.symm.trans hu) (by decide)
    | error _ => exact h
  | row | discard | close => exact h
  | hand hbuffer =>
    have ha := h.active_of_buffer hbuffer
    exact ⟨fun hu => absurd (ha.symm.trans hu) (by decide), h.active,
      fun he => absurd (ha.symm.trans he) (by decide),
      fun hf => absurd (ha.symm.trans hf) (by decide)⟩
  | exhaust | abandon => exact wellFormed_finish c

theorem course (h : c.WellFormed) (hc : c.Course j c') : c'.WellFormed := by
  induction hc with
  | start => exact h
  | step _ allowed ih => exact ih.after allowed

/-- Nothing is allowed of a failed cursor. -/
theorem not_allows_of_failed (h : c.WellFormed) (hf : c.phase = .failed) : ¬ c.Allows e := by
  obtain ⟨hid, hmore, hbuffer⟩ := h.failed hf
  intro allowed
  cases allowed <;> simp_all

/-- What is allowed of an exhausted cursor leaves it exhausted and is no page and no row. -/
theorem of_allows_exhausted (h : c.WellFormed) (he : c.phase = .exhausted) (allowed : c.Allows e) :
    (c.after e).phase = .exhausted ∧ e.page? = none ∧ e.handed? = none ∧ e.dropped = [] := by
  obtain ⟨hid, hmore, hbuffer⟩ := h.exhausted he
  cases allowed with
  | create hphase | advance hphase | stranded hphase | exhaust hphase =>
    exact absurd (he.symm.trans hphase) (by decide)
  | count | row | discard =>
    exact ⟨(after_phase_of_beside (by simp)).trans he, rfl, rfl, rfl⟩
  | close hid' => exact absurd (hid.symm.trans hid') (by simp)
  | hand hbuffer' => exact absurd (hbuffer.symm.trans hbuffer') (by simp)
  | abandon => exact ⟨rfl, rfl, rfl, hbuffer⟩

end WellFormed

/-- **Nothing happens to a failed cursor.** -/
theorem Course.of_failed (hc : c.Course j c') (h : c.WellFormed) (hf : c.phase = .failed) :
    j = [] ∧ c' = c := by
  induction hc with
  | start => exact ⟨rfl, rfl⟩
  | step _ allowed ih =>
    obtain ⟨rfl, rfl⟩ := ih
    exact absurd allowed (h.not_allows_of_failed hf)

/-- **An exhausted cursor stays exhausted**, gets no page and hands out no row. -/
theorem Course.of_exhausted (hc : c.Course j c') (h : c.WellFormed) (he : c.phase = .exhausted) :
    c'.phase = .exhausted ∧ c'.buffer = [] ∧ j.pages = [] ∧ j.handed = [] ∧ j.dropped = [] := by
  induction hc with
  | start => exact ⟨he, (h.exhausted he).2.2, rfl, rfl, rfl⟩
  | @step j m e before allowed ih =>
    obtain ⟨hm, -, hpages, hhanded, hdropped⟩ := ih
    have hwf := h.course before
    obtain ⟨hphase, hpage, hhand, hdrop⟩ := hwf.of_allows_exhausted hm allowed
    refine ⟨hphase, ((hwf.after allowed).exhausted hphase).2.2, ?_, ?_, ?_⟩
    · rw [Journal.pages_append, Journal.pages_single, hpages, hpage]
      rfl
    · rw [Journal.handed_append, Journal.handed_single, hhanded, hhand]
      rfl
    · rw [Journal.dropped_append, Journal.dropped_single, hdropped, hdrop]
      rfl

end Pagewise.Cursor
