import Pagewise.Proofs.Cursor.Cleanup
import Pagewise.Proofs.Cursor.Delivery
import Pagewise.Proofs.Cursor.Terminal

/-!
# Releasing the cursor on the server

When `close` succeeds, nothing more will be asked of the cursor on the server. If that still holds
rows it was deleted, and the server has confirmed it: by this `close`, or by an earlier one. There
is one exception. A cursor that failed has forgotten its name, so the cursor on the server stays
behind although `close` reports success; and that happens exactly when a page was asked for by the
name that was told last, and did not come.

* `Cursor.Accounted`: what a session knows of the cursor on the server.
* **`Reader.session_release`**: what is released when `close` succeeds, and what is not.
* `Reader.close_releases_nothing`: a cursor that stays on the server after its advance failed.
-/

namespace Pagewise

/-- The server confirmed that it deleted the cursor of the result, by this name. -/
def Journal.Released (j : Journal) (id : String) : Prop :=
  ∃ response : Response,
    .exchange .close (.delete id) (.ok response) ∈ j ∧ response.isSuccess = true

theorem Journal.Released.append_right {j : Journal} {id : String} (h : j.Released id)
    (k : Journal) : (j ++ k).Released id := by
  obtain ⟨response, hmem, hsuccess⟩ := h
  exact ⟨response, List.mem_append_left k hmem, hsuccess⟩

namespace Cursor

variable {s : Statement} {c c' : Cursor} {j k : Journal} {e : Event} {w : Wire} {id : String}

/-! ## The end of the result -/

/-- A cursor becomes exhausted at the end of its result, or by giving up the rest. -/
theorem Allows.of_exhausted_after (allowed : c.Allows e) (hopen : c.phase ≠ .exhausted)
    (hend : (c.after e).phase = .exhausted) :
    (c.phase = .active ∧ c.hasMore = false ∧ e.page? = none) ∨ e = .abandon c.buffer := by
  cases allowed with
  | @create _ answer | @advance _ answer =>
    simp only [after] at hend
    cases hpage : answer.page <;> rw [hpage] at hend <;> cases hend
  | stranded => cases hend
  | count | row | discard | close =>
    exact absurd ((after_phase_of_beside (by simp)).symm.trans hend) hopen
  | hand => exact absurd hend hopen
  | exhaust hphase _ hmore => exact .inl ⟨hphase, hmore, rfl⟩
  | abandon => exact .inr rfl

/-- A cursor that became exhausted, and not by giving up the rest, has had its last page. -/
theorem Course.hasMore_eq_false (hc : c.Course k c') (hstart : s.cursor.Course j c)
    (hopen : c.phase ≠ .exhausted) (hend : c'.phase = .exhausted)
    (hkeep : ∀ rows, .abandon rows ∉ k) {p : Page} (hp : (j ++ k).pages.getLast? = some p) :
    p.hasMore = false := by
  induction hc with
  | start => exact absurd hend hopen
  | @step k m e before allowed ih =>
    have hm := hstart.append before
    rw [← List.append_assoc] at hp
    by_cases hphase : m.phase = .exhausted
    · have hwf := (wellFormed_cursor s).course hm
      rw [Journal.pages_beside (hwf.of_allows_exhausted hphase allowed).2.1] at hp
      exact ih hphase (fun rows hmem => hkeep rows (List.mem_append_left _ hmem)) hp
    · rcases allowed.of_exhausted_after hphase hend with ⟨hactive, hmore, hpage⟩ | rfl
      · obtain ⟨q, hq, hqmore⟩ := (Tracks.course hm).more hactive
        rw [Journal.pages_beside hpage, hq] at hp
        cases hp
        exact hqmore.trans hmore
      · exact absurd (List.mem_append_right k List.mem_cons_self) (hkeep m.buffer)

/-- A failure brings no page. -/
theorem page?_of_failure? {err : Error} (h : e.failure? = some err) : e.page? = none := by
  unfold Event.failure? at h
  unfold Event.page?
  split at h
  · split at h
    · cases h
    · rename_i hpage
      simp only [hpage]
      rfl
  · rfl
  · cases h

/-- **How a cursor fails that the server still holds**: the page that was asked for by the name that
was told last did not come. -/
theorem Course.lost (hc : s.cursor.Course j c) (hf : c.phase = .failed) {p : Page}
    (hp : j.pages.getLast? = some p) (hid : j.lastId? = some id) :
    ∃ before a err, j = before ++ [.exchange .page (.advance id) a] ∧ a.page = .error err := by
  obtain ⟨k, e, err, rfl, -, hfails⟩ :=
    hc.ends_with_failure (wellFormed_cursor s) (by simp [Statement.cursor]) hf
  obtain ⟨m, before, allowed, -⟩ := hc.split
  have hfailure := hfails.failure?_eq
  have htracks := Tracks.course before
  have hpage := page?_of_failure? hfailure
  rw [Journal.lastId?, Journal.pages_beside hpage] at hid
  rw [Journal.pages_beside hpage] at hp
  cases allowed with
  | create hphase =>
    rw [Journal.pages_eq_nil (htracks.unstarted hphase)] at hp
    cases hp
  | @advance name answer hphase _ _ hname =>
    obtain rfl := Option.some.inj (hid.symm.trans ((htracks.lastId hphase).trans hname))
    cases hanswer : answer.page with
    | ok q =>
      simp only [Event.failure?, hanswer] at hfailure
      cases hfailure
    | error err' => exact ⟨k, answer, err', rfl, hanswer⟩
  | stranded hphase _ _ hname => cases hid.symm.trans ((htracks.lastId hphase).trans hname)
  | count | row | discard | close | hand | exhaust | abandon => cases hfailure

/-! ## Closing -/

/-- What the server holds, when its last page announced more and it told a name. -/
theorem Tracks.held?_of_more (h : c.Tracks s j) (hphase : c.phase = .active) {p : Page}
    (hp : j.pages.getLast? = some p) (hmore : p.hasMore = true) (hid : j.lastId? = some id) :
    c.held? = some id := by
  obtain ⟨q, hq, hqmore⟩ := h.more hphase
  obtain rfl := Option.some.inj (hp.symm.trans hq)
  rw [held?, ← hqmore, if_pos hmore, ← h.lastId hphase, hid]

/-- **What a session knows of the cursor on the server**: a cursor that is exhausted has released
it, if it held rows by some name; any other cursor has not. -/
structure Accounted (j : Journal) (c : Cursor) : Prop where
  released : c.phase = .exhausted → ∀ p id, j.pages.getLast? = some p → p.hasMore = true →
    j.lastId? = some id → j.Released id
  kept : c.phase ≠ .exhausted → ∀ id, ¬ j.Released id

theorem accounted_cursor (s : Statement) : s.cursor.Accounted [] where
  released h := by cases h
  kept _ id h := by
    obtain ⟨_, hmem, _⟩ := h
    exact absurd hmem List.not_mem_nil

/-- An exhausted cursor has nothing more to release. -/
theorem Accounted.of_exhausted (h : c.Accounted j) (hwf : c.WellFormed) (he : c.phase = .exhausted)
    (hc : c.Course k c') : c'.Accounted (j ++ k) := by
  obtain ⟨he', -, hpages, -, -⟩ := hc.of_exhausted hwf he
  refine ⟨fun _ p id hp hmore hid => ?_, fun hopen => absurd he' hopen⟩
  rw [Journal.lastId?, Journal.pages_append, hpages, List.append_nil] at hid
  rw [Journal.pages_append, hpages, List.append_nil] at hp
  exact (h.released he p id hp hmore hid).append_right k

/-- A closed cursor has released what the server held. -/
theorem Accounted.closed (hstart : s.cursor.Course j c) (hover : c.phase ≠ .exhausted)
    (hopen : c.phase ≠ .failed) (hpages : k.pages = [])
    (hreleased : ∀ id, c.held? = some id → (j ++ k).Released id) :
    c.closed.Accounted (j ++ k) := by
  have htracks := Tracks.course hstart
  have hphase : c.closed.phase = .exhausted := by
    rw [Cursor.closed, if_neg hopen]
    rfl
  refine ⟨fun _ p id hp hmore hid => ?_, fun he => absurd hphase he⟩
  rw [Journal.pages_append, hpages, List.append_nil] at hp
  rw [Journal.lastId?, Journal.pages_append, hpages, List.append_nil] at hid
  cases hc : c.phase with
  | active => exact hreleased id (htracks.held?_of_more hc hp hmore hid)
  | unstarted =>
    rw [Journal.pages_eq_nil (htracks.unstarted hc)] at hp
    cases hp
  | exhausted => exact absurd hc hover
  | failed => exact absurd hc hopen

/-- Closing accounts for the cursor on the server. -/
theorem Accounted.close {o : Outcome Unit} (h : c.Accounted j) (hstart : s.cursor.Course j c)
    (hopen : c.phase ≠ .exhausted) (hc : c.Closes w k o) : o.cursor.Accounted (j ++ k) := by
  have hwf := (wellFormed_cursor s).course hstart
  have hsound : ∀ id, c.held? = some id → c.phase ≠ .failed := fun id hheld hf => by
    cases (hwf.failed hf).1.symm.trans (held?_eq_some hheld).1
  have hpages := hc.pages
  cases hc with
  | free hheld =>
    by_cases hf : c.phase = .failed
    · rw [closedJournal, Cursor.closed, if_pos hf, if_pos hf, List.append_nil]
      exact h
    · exact .closed hstart hopen hf hpages fun id hid => by cases hheld.symm.trans hid
  | @released id response hheld _ hsuccess =>
    refine .closed hstart hopen (hsound id hheld) hpages fun id' hid => ⟨response, ?_, hsuccess⟩
    obtain rfl := Option.some.inj (hheld.symm.trans hid)
    exact List.mem_append_right j List.mem_cons_self
  | kept _ hcheck =>
    refine ⟨fun he => absurd he hopen, ?_⟩
    rintro - id' ⟨response, hmem, hsuccess⟩
    rcases List.mem_append.mp hmem with hmem | hmem
    · exact h.kept hopen id' ⟨response, hmem, hsuccess⟩
    · obtain ⟨-, -, hanswer⟩ := Event.exchange.inj (List.mem_singleton.mp hmem)
      rw [← hanswer] at hcheck
      cases hcheck.symm.trans (Answer.check_eq_ok_iff.mpr ⟨response, rfl, hsuccess⟩)

end Cursor

namespace Reader

variable {α : Type} {s : Statement} {r : Reader α} {w : Wire} {j : Journal}

/-! ## Operations -/

theorem abandon_notMem_nextJournal (c : Cursor) (w : Wire) (rows : List Json) :
    .abandon rows ∉ c.nextJournal w := by
  refine c.nextJournal_induction (P := fun j => .abandon rows ∉ j) w List.not_mem_nil (by simp)
    (by simp) fun c w j hj hmem => ?_
  rcases List.mem_cons.mp hmem with he | hmem
  · have hremote := c.remote_fetch w c.count
    rw [← he] at hremote
    exact hremote
  · exact hj hmem

/-- Only `close` gives up the rest. -/
theorem abandon_notMem_stepJournal {op : Op α} (hop : op ≠ .close) (rows : List Json) :
    .abandon rows ∉ r.stepJournal w op := by
  cases op with
  | next => exact abandon_notMem_nextJournal _ _ rows
  | first | last | length | isEmpty => exact fun hmem => remote_of_inspects rfl _ hmem
  | close => exact absurd rfl hop
  | decodeWith _ => exact List.not_mem_nil

/-- The cursor of the result is deleted by `close` alone, and only while the server holds it. -/
theorem held?_of_close_mem {op : Op α} {id : String} {a : Answer}
    (h : .exchange .close (.delete id) a ∈ r.stepJournal w op) :
    op = .close ∧ r.cursor.held? = some id := by
  obtain ⟨before, rest, hj⟩ := List.append_of_mem h
  have htidy := r.tidy_stepJournal w op
  rw [hj] at htidy
  rcases htidy.was_due with ⟨-, hdue⟩ | ⟨_, e, -, hdue⟩
  · exact (dueOf_eq_some hdue.symm).2
  · cases (Event.due?_eq_some hdue.symm).1

/-- **Every operation accounts for the cursor on the server.** -/
theorem accounted_step (h : r.cursor.Accounted j) (hstart : s.cursor.Course j r.cursor)
    (op : Op α) : (r.step w op).2.1.cursor.Accounted (j ++ r.stepJournal w op) := by
  have hwf := (Cursor.wellFormed_cursor s).course hstart
  have hcourse := (r.records_step w op hwf).course
  by_cases hphase : r.cursor.phase = .exhausted
  · exact h.of_exhausted hwf hphase hcourse
  by_cases hop : op = .close
  · subst hop
    exact h.close hstart hphase (r.cursor.closes w)
  refine ⟨fun hend p id hp hmore _ => ?_, ?_⟩
  · have hno := hcourse.hasMore_eq_false hstart hphase hend
      (fun rows => abandon_notMem_stepJournal hop rows) hp
    cases hno.symm.trans hmore
  · rintro - id ⟨response, hmem, hsuccess⟩
    rcases List.mem_append.mp hmem with hmem | hmem
    · exact h.kept hphase id ⟨response, hmem, hsuccess⟩
    · exact hop (held?_of_close_mem hmem).1

/-- **Every session accounts for the cursor on the server.** -/
theorem accounted_run (ops : List (Op α)) (h : r.cursor.Accounted j)
    (hstart : s.cursor.Course j r.cursor) :
    (r.run w ops).2.1.cursor.Accounted (j ++ r.journal w ops) := by
  induction ops generalizing r w j with
  | nil =>
    rw [journal, along, List.append_nil]
    exact h
  | cons op ops ih =>
    have hwf := (Cursor.wellFormed_cursor s).course hstart
    have hcourse := (r.records_step w op hwf).course
    have hrest := @ih (r.step w op).2.1 (r.step w op).2.2 _ (accounted_step h hstart op)
      (hstart.append hcourse)
    rwa [List.append_assoc] at hrest

/-- **What is released when `close` succeeds.** Suppose that the last page of the result announced
more, and that some name of the cursor was told. Then the server has confirmed that it deleted the
cursor by the last such name, unless the cursor had failed. If it had, nothing was deleted and
`close` sends nothing; the last thing that happened was that a page was asked for by that name and
did not come. -/
theorem session_release (s : Statement) (decode : Decoder α) (w : Wire) (ops : List (Op α)) :
    let start : Reader α := ⟨s.cursor, decode⟩
    let r := (start.run w ops).2.1
    let v := (start.run w ops).2.2
    let j := start.journal w (ops ++ [.close])
    s.cursor.Records w j (start.run w (ops ++ [.close])).2.1.cursor
        (start.run w (ops ++ [.close])).2.2 ∧
      ((r.cursor.close v).result = .ok () → ∀ p id, j.pages.getLast? = some p →
        p.hasMore = true → j.lastId? = some id →
          (j.Released id ↔ r.cursor.phase ≠ .failed) ∧
          (r.cursor.phase = .failed → (r.cursor.close v).wire = v ∧
            ∃ before a err, j = before ++ [.exchange .page (.advance id) a] ∧
              a.page = .error err)) := by
  intro start r v j
  have hwf : start.cursor.WellFormed := Cursor.wellFormed_cursor s
  have hcourse := (start.records_run w ops hwf).course
  have haccounted : r.cursor.Accounted (start.journal w ops) :=
    accounted_run (j := []) ops (Cursor.accounted_cursor s) .start
  have hj : j = start.journal w ops ++ r.cursor.closeJournal v := by
    change start.journal w (ops ++ [.close]) = _
    rw [journal, along_append, ← journal]
    exact congrArg _ (List.append_nil _)
  have hafter : (r.cursor.close v).cursor.Accounted j := by
    rw [hj]
    exact accounted_step haccounted hcourse .close
  refine ⟨start.records_run w _ hwf, fun hok p id hp hmore hid => ⟨⟨?_, fun hopen => ?_⟩, ?_⟩⟩
  · intro hreleased hf
    rw [Cursor.close_of_ok _ _ hok, Cursor.closed, if_pos hf] at hafter
    exact hafter.kept (by rw [hf]; decide) id hreleased
  · rw [Cursor.close_of_ok _ _ hok, Cursor.closed, if_neg hopen] at hafter
    exact hafter.released rfl p id hp hmore hid
  · intro hf
    have hwf' := hwf.course hcourse
    have hclose := (step_of_failed (w := v) .close hwf' hf).2.2
    have hnothing : r.cursor.closeJournal v = [] := by
      rw [Cursor.closeJournal, (hwf'.failed hf).1, Cursor.closedJournal, if_pos hf]
    rw [hj, hnothing, List.append_nil] at hp hid ⊢
    exact ⟨hclose, hcourse.lost hf hp hid⟩

/-- The cursor "7" still holds rows when it is closed. -/
theorem session_release_closed :
    let s : Statement := ⟨"http://db", "FOR d IN c RETURN d", false, none, []⟩
    let w : Wire := .ofAnswers
      [.ok ⟨201, "\x7b\"id\":\"7\",\"hasMore\":true,\"result\":[1]\x7d"⟩, .ok ⟨202, ""⟩]
    let r : Reader Json := ((raw s.cursor).run w [.next]).2.1
    let v : Wire := ((raw s.cursor).run w [.next]).2.2
    let j := (raw s.cursor).journal w [.next, .close]
    (r.cursor.close v).result = .ok () ∧ (∃ p, j.pages.getLast? = some p ∧ p.hasMore = true) ∧
      j.lastId? = some "7" ∧ r.cursor.phase ≠ .failed ∧ j.Released "7" := by
  intro s w r v j
  obtain ⟨hok, hmore, hid, hopen⟩ : (r.cursor.close v).result = .ok () ∧
      j.pages.getLast?.map Page.hasMore = some true ∧ j.lastId? = some "7" ∧
      r.cursor.phase ≠ .failed := by
    decide +kernel
  obtain ⟨p, hp, hpmore⟩ := Option.map_eq_some_iff.mp hmore
  obtain ⟨-, hrelease⟩ := session_release s .ok w [.next]
  exact ⟨hok, ⟨p, hp, hpmore⟩, hid, hopen, (hrelease hok p "7" hp hpmore hid).1.mpr hopen⟩

/-- The cursor "7" stays on the server when its advance was not answered in time: `close` reports
success and sends nothing, although the server would have confirmed the deletion. -/
theorem close_releases_nothing :
    let s : Statement := ⟨"http://db", "FOR d IN c RETURN d", false, none, []⟩
    let created : Answer := .ok ⟨201, "\x7b\"id\":\"7\",\"hasMore\":true,\"result\":[1]\x7d"⟩
    let deleted : Answer := .ok ⟨202, ""⟩
    let w : Wire := .ofAnswers [created, .error .timeout, deleted]
    let r : Reader Json := ((raw s.cursor).run w [.next, .next]).2.1
    let v : Wire := ((raw s.cursor).run w [.next, .next]).2.2
    let j := (raw s.cursor).journal w [.next, .next, .close]
    (r.cursor.close v).result = .ok () ∧ (∃ p, j.pages.getLast? = some p ∧ p.hasMore = true) ∧
      j.lastId? = some "7" ∧ v.answers = [deleted] ∧ (r.cursor.close v).wire.sent = v.sent ∧
      ¬ j.Released "7" := by
  intro s created deleted w r v j
  obtain ⟨hok, hmore, hid, hanswers, hsent, hexchanges⟩ : (r.cursor.close v).result = .ok () ∧
      j.pages.getLast?.map Page.hasMore = some true ∧ j.lastId? = some "7" ∧
      v.answers = [deleted] ∧ (r.cursor.close v).wire.sent = v.sent ∧
      j.exchanges = [(.create s.query false none, created), (.advance "7", .error .timeout)] := by
    decide +kernel
  refine ⟨hok, Option.map_eq_some_iff.mp hmore, hid, hanswers, hsent, ?_⟩
  rintro ⟨response, hmem, -⟩
  have hasked : (.delete "7", .ok response) ∈ j.exchanges := List.mem_filterMap.mpr ⟨_, hmem, rfl⟩
  rw [hexchanges] at hasked
  simp at hasked

end Reader

end Pagewise
