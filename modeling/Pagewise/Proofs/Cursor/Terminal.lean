import Pagewise.Proofs.Cursor.Journal

/-!
# Exhausted and failed cursors

Two phases are never left. An exhausted cursor gives no row without asking the server for one, and
stays exhausted when a request beside its result fails. A failed cursor sends nothing and changes
no more. A cursor fails by the requests of its own result only, and the operation that made the
request returns why.

* `Cursor.FailsBy`: the four ways to fail.
* `Reader.step_failure`: an operation returns the failure that its journal holds.
* **`Reader.terminal_phases`**: what exhausted and failed cursors do, and when a cursor fails.
-/

namespace Pagewise

/-! ## Failures -/

/-- **How a cursor fails**: a page of its own result was due, and this came of it. -/
inductive Cursor.FailsBy (c : Cursor) : Event → Error → Prop
  /-- There was no response. -/
  | transport {d : Demand} {e : TransportError} :
      FailsBy c (.exchange .page d (.error e)) (.transport e)
  /-- The response did not tell of success. -/
  | refused {d : Demand} {r : Response} (hstatus : r.isSuccess = false) :
      FailsBy c (.exchange .page d (.ok r))
        (.refused ((Refusal.ofText r.text).message.getD r.text)
          ((Refusal.ofText r.text).number.getD 0) r.status)
  /-- The body was no page. -/
  | unreadable {d : Demand} {r : Response} (hstatus : r.isSuccess = true)
      (hbody : Page.ofText? r.text = none) : FailsBy c (.exchange .page d (.ok r)) .json
  /-- More rows were announced of a cursor without a name. -/
  | unnamed (hmore : c.hasMore = true) (hid : c.id = none) :
      FailsBy c .stranded (.invalidResponse .noId)

namespace Cursor

variable {c c' : Cursor} {w w' : Wire} {count : Bool} {j : Journal} {e : Event} {err : Error}

theorem FailsBy.failure?_eq (h : c.FailsBy e err) : e.failure? = some err := by
  cases h with
  | transport | unnamed => rfl
  | refused hstatus => simp [Event.failure?, Answer.page, Response.page, Response.check, hstatus]
  | unreadable hstatus hbody =>
    simp [Event.failure?, Answer.page, Response.page, Response.check, hstatus, hbody]

theorem FailsBy.phase (h : c.FailsBy e err) : (c.after e).phase = .failed := by
  cases h with
  | transport | unnamed => rfl
  | refused hstatus => simp [after, Answer.page, Response.page, Response.check, hstatus, fail]
  | unreadable hstatus hbody =>
    simp [after, Answer.page, Response.page, Response.check, hstatus, hbody, fail]

/-- A failure is not the error that reports an earlier one. -/
theorem FailsBy.ne_cursorFailed (h : c.FailsBy e err) : err ≠ .cursorFailed := by
  cases h <;> simp

/-- An answer without a page is one of the failures. -/
theorem failsBy_of_page_error {d : Demand} {answer : Answer} (h : answer.page = .error err) :
    c.FailsBy (.exchange .page d answer) err := by
  cases answer with
  | error e =>
    obtain rfl : Error.transport e = err := Except.error.inj h
    exact .transport
  | ok r =>
    simp only [Answer.page, Response.page, Response.check] at h
    cases hstatus : r.isSuccess with
    | false =>
      rw [hstatus] at h
      obtain rfl := Except.error.inj h
      exact .refused hstatus
    | true =>
      rw [hstatus] at h
      cases hbody : Page.ofText? r.text with
      | none =>
        simp only [if_pos, hbody] at h
        obtain rfl := Except.error.inj h
        exact .unreadable hstatus hbody
      | some p =>
        simp only [if_pos, hbody] at h
        cases h

/-- The event that leaves a cursor failed is a failure. -/
theorem WellFormed.failsBy (h : c.WellFormed) (allowed : c.Allows e)
    (hf : (c.after e).phase = .failed) : ∃ err, c.FailsBy e err := by
  have hopen : c.phase ≠ .failed := fun hc => h.not_allows_of_failed hc allowed
  cases allowed with
  | @create count answer _ _ | @advance _ answer _ _ _ _ =>
    cases hpage : answer.page with
    | error err => exact ⟨err, failsBy_of_page_error hpage⟩
    | ok p =>
      simp only [Cursor.after, hpage] at hf
      cases hf
  | stranded _ _ hmore hid => exact ⟨_, .unnamed hmore hid⟩
  | count | row | discard | close =>
    exact absurd ((after_phase_of_beside (by simp)).symm.trans hf) hopen
  | hand => exact absurd hf hopen
  | exhaust | abandon => cases hf

/-- A course that ends failed ends with the failure. -/
theorem Course.ends_with_failure (hc : c.Course j c') (h : c.WellFormed) (hopen : c.phase ≠ .failed)
    (hf : c'.phase = .failed) :
    ∃ k e err, j = k ++ [e] ∧ (c.replay k).Allows e ∧ (c.replay k).FailsBy e err := by
  cases hc with
  | start => exact absurd hf hopen
  | @step k m e before allowed =>
    obtain ⟨err, herr⟩ := (h.course before).failsBy allowed hf
    rw [← before.replay_eq] at allowed herr
    exact ⟨k, e, err, rfl, allowed, herr⟩

/-- **A failure ends a course.** -/
theorem Course.end_of_failure {k : Journal} (hc : c.Course (j ++ e :: k) c') (h : c.WellFormed)
    (herr : (c.replay j).FailsBy e err) : k = [] ∧ c'.phase = .failed := by
  obtain ⟨m, before, allowed, later⟩ := hc.split
  rw [before.replay_eq] at herr
  have hwf := (h.course before).after allowed
  obtain ⟨rfl, rfl⟩ := later.of_failed hwf herr.phase
  exact ⟨rfl, herr.phase⟩

/-! ## Who returns a failure -/

theorem failure?_of_fetch_error (h : c.fetch count w = ⟨.error err, c', w'⟩) :
    (c.fetchEvent count w).failure? = some err := by
  rw [fetch_eq] at h
  cases hfailure : (c.fetchEvent count w).failure? with
  | none =>
    rw [hfailure] at h
    cases h
  | some e =>
    rw [hfailure] at h
    cases h
    rfl

theorem failure?_of_fetch_ok (h : c.fetch count w = ⟨.ok (), c', w'⟩) :
    (c.fetchEvent count w).failure? = none := by
  rw [fetch_eq] at h
  cases hfailure : (c.fetchEvent count w).failure? with
  | none => rfl
  | some e =>
    rw [hfailure] at h
    cases h

end Cursor

/-- Nothing beside the result is a failure of the cursor. -/
theorem Event.failure?_of_isBeside {e : Event} (he : e.isBeside = true) : e.failure? = none := by
  unfold isBeside at he
  split at he
  · rfl
  · rfl
  · rfl
  · cases he

namespace Cursor

variable {c : Cursor} {w : Wire} {e : Event} {err : Error}

theorem Closes.failure? {j : Journal} {o : Outcome Unit} (hc : c.Closes w j o) (he : e ∈ j) :
    e.failure? = none := by
  have hclosed : ∀ e ∈ c.closedJournal, e.failure? = none := by
    unfold closedJournal
    split <;> simp [Event.failure?]
  cases hc with
  | free => exact hclosed e he
  | released =>
    rcases List.mem_cons.mp he with rfl | he
    · rfl
    · exact hclosed e he
  | kept =>
    obtain rfl := List.mem_singleton.mp he
    rfl

theorem next_failure (he : e ∈ c.nextJournal w) (hfailure : e.failure? = some err) :
    (c.next w).result = .error err := by
  fun_induction c.next w with
  | case1 c w hf =>
    rw [nextJournal_of_over (.inl hf)] at he
    exact absurd he List.not_mem_nil
  | case2 c w hf hx =>
    rw [nextJournal_of_over (.inr hx)] at he
    exact absurd he List.not_mem_nil
  | case3 c w hf hx row rest hbuffer =>
    rw [nextJournal_of_row hf hx hbuffer, List.mem_singleton] at he
    rw [he] at hfailure
    cases hfailure
  | case4 c w hf hx hbuffer hmore err' c₁ w₁ fetched =>
    rw [nextJournal_of_error hf hx hbuffer hmore fetched, List.mem_singleton] at he
    rw [he, failure?_of_fetch_error fetched] at hfailure
    exact congrArg Except.error (Option.some.inj hfailure)
  | case5 c w hf hx hbuffer hmore c₁ w₁ fetched ih =>
    rw [nextJournal_of_ok hf hx hbuffer hmore fetched] at he
    rcases List.mem_cons.mp he with rfl | he
    · rw [failure?_of_fetch_ok fetched] at hfailure
      cases hfailure
    · exact ih he
  | case6 c w hf hx hbuffer hmore =>
    rw [nextJournal_of_end hf hx hbuffer hmore, List.mem_singleton] at he
    rw [he] at hfailure
    cases hfailure

theorem first_failure (he : e ∈ c.firstJournal w) (hfailure : e.failure? = some err) :
    (c.first w).result = .error err := by
  unfold firstJournal at he
  unfold first
  cases hphase : c.phase with
  | failed =>
    rw [hphase] at he
    exact absurd he List.not_mem_nil
  | unstarted =>
    rw [hphase] at he
    simp only at he ⊢
    rcases hfetch : c.fetch c.count w with ⟨err' | _, c', w'⟩ <;> rw [hfetch] at he
    · rw [List.mem_singleton] at he
      rw [he, failure?_of_fetch_error hfetch] at hfailure
      exact congrArg Except.error (Option.some.inj hfailure)
    · rcases List.mem_cons.mp he with rfl | he
      · rw [failure?_of_fetch_ok hfetch] at hfailure
        cases hfailure
      · rw [Event.failure?_of_isBeside (beside_headRow _ _ e he)] at hfailure
        cases hfailure
  | active | exhausted =>
    rw [hphase] at he
    rw [Event.failure?_of_isBeside (c.beside_headRow w e he)] at hfailure
    cases hfailure

theorem length_failure (he : e ∈ c.lengthJournal w) (hfailure : e.failure? = some err) :
    (c.length w).result = .error err := by
  unfold lengthJournal at he
  unfold length
  cases htotal : c.total with
  | some n =>
    rw [htotal] at he
    exact absurd he List.not_mem_nil
  | none =>
    rw [htotal] at he
    cases hphase : c.phase with
    | failed =>
      rw [hphase] at he
      exact absurd he List.not_mem_nil
    | unstarted =>
      rw [hphase] at he
      rw [List.mem_singleton] at he
      simp only
      rcases hfetch : c.fetch true w with ⟨err' | _, c', w'⟩
      · rw [he, failure?_of_fetch_error hfetch] at hfailure
        exact congrArg Except.error (Option.some.inj hfailure)
      · rw [he, failure?_of_fetch_ok hfetch] at hfailure
        cases hfailure
    | active | exhausted =>
      rw [hphase] at he
      rw [Event.failure?_of_isBeside (c.beside_recount w e he)] at hfailure
      cases hfailure

theorem last_failure (he : e ∈ c.lastJournal w) (hfailure : e.failure? = some err) :
    (c.last w).result = .error err := by
  unfold lastJournal at he
  unfold last
  split at he
  · exact absurd he List.not_mem_nil
  · rename_i hf
    rw [if_neg hf]
    have hlength := @length_failure c w e err
    rcases hresult : c.length w with ⟨err' | _ | n, c', w'⟩ <;> rw [hresult] at he hlength
    · cases hlength he hfailure
      rfl
    · cases hlength he hfailure
    · rcases List.mem_append.mp he with he | he
      · cases hlength he hfailure
      · rw [Event.failure?_of_isBeside (Statement.beside_rowJournal _ _ _ e he)] at hfailure
        cases hfailure

theorem length_of_failed (hf : c.phase = .failed) :
    c.length w = ⟨c.total.elim (.error .cursorFailed) .ok, c, w⟩ := by
  unfold length
  cases c.total with
  | some n => rfl
  | none => simp only [hf, Option.elim_none]

end Cursor

namespace Reader

variable {α : Type} {r : Reader α} {w : Wire} {e : Event} {err : Error}

/-- **An operation returns the failure that its journal holds.** -/
theorem step_failure (op : Op α) (he : e ∈ r.stepJournal w op) (hfailure : e.failure? = some err) :
    (r.step w op).1 = .error err := by
  cases op with
  | next =>
    simp only [step, after, rowReply]
    rw [Cursor.next_failure he hfailure]
    rfl
  | first =>
    simp only [step, after, rowReply]
    rw [Cursor.first_failure he hfailure]
    rfl
  | last =>
    simp only [step, after, rowReply]
    rw [Cursor.last_failure he hfailure]
    rfl
  | length =>
    simp only [step, after]
    rw [Cursor.length_failure he hfailure]
    rfl
  | isEmpty =>
    simp only [step, after, Cursor.isEmpty, Outcome.map]
    rw [Cursor.length_failure he hfailure]
    rfl
  | close =>
    rw [(r.cursor.closes w).failure? he] at hfailure
    cases hfailure
  | decodeWith _ => exact absurd he List.not_mem_nil

/-! ## Sessions -/

/-- A reader that some session from a new cursor leads to. -/
def Reachable (r : Reader α) : Prop :=
  ∃ (s : Statement) (decode : Decoder α) (w : Wire) (ops : List (Op α)),
    ((⟨s.cursor, decode⟩ : Reader α).run w ops).2.1 = r

theorem Reachable.wellFormed (h : r.Reachable) : r.cursor.WellFormed := by
  obtain ⟨s, decode, w, ops, rfl⟩ := h
  have hwf := Cursor.wellFormed_cursor s
  exact hwf.course (records_run (⟨s.cursor, decode⟩ : Reader α) w ops hwf).course

/-- What a failed cursor replies: the number of rows if it is known, and else that it failed. -/
def failedReply (total : Option Nat) : Op α → Except Error (Reply α)
  | .next | .first | .last => .error .cursorFailed
  | .length =>
    match total with
    | some n => .ok (.length n)
    | none => .error .cursorFailed
  | .isEmpty =>
    match total with
    | some n => .ok (.isEmpty (n == 0))
    | none => .error .cursorFailed
  | .close | .decodeWith _ => .ok .done

theorem step_of_failed (op : Op α) (h : r.cursor.WellFormed) (hf : r.cursor.phase = .failed) :
    (r.step w op).1 = failedReply r.cursor.total op ∧
      (r.step w op).2.1.cursor = r.cursor ∧ (r.step w op).2.2 = w := by
  obtain ⟨hid, -, -⟩ := h.failed hf
  cases op with
  | next =>
    rw [step, Cursor.next_of_failed hf]
    exact ⟨rfl, rfl, rfl⟩
  | first =>
    have hfirst : r.cursor.first w = ⟨.error .cursorFailed, r.cursor, w⟩ := by
      rw [Cursor.first, hf]
    rw [step, hfirst]
    exact ⟨rfl, rfl, rfl⟩
  | last =>
    have hlast : r.cursor.last w = ⟨.error .cursorFailed, r.cursor, w⟩ := by
      rw [Cursor.last, if_pos hf]
    rw [step, hlast]
    exact ⟨rfl, rfl, rfl⟩
  | length =>
    rw [step, Cursor.length_of_failed hf]
    cases r.cursor.total <;> exact ⟨rfl, rfl, rfl⟩
  | isEmpty =>
    rw [step, Cursor.isEmpty, Cursor.length_of_failed hf]
    cases r.cursor.total <;> exact ⟨rfl, rfl, rfl⟩
  | close =>
    have hclose : r.cursor.close w = ⟨.ok (), r.cursor, w⟩ := by
      rw [Cursor.close, hid, Cursor.closed, if_pos hf]
    rw [step, hclose]
    exact ⟨rfl, rfl, rfl⟩
  | decodeWith _ => exact ⟨rfl, rfl, rfl⟩

theorem run_of_failed (ops : List (Op α)) (h : r.cursor.WellFormed)
    (hf : r.cursor.phase = .failed) :
    (r.run w ops).1 = ops.map (failedReply r.cursor.total) ∧
      (r.run w ops).2.1.cursor = r.cursor ∧ (r.run w ops).2.2 = w := by
  induction ops generalizing r with
  | nil => exact ⟨rfl, rfl, rfl⟩
  | cons op ops ih =>
    obtain ⟨hreply, hcursor, hwire⟩ := step_of_failed (w := w) op h hf
    have hrest := @ih (r.step w op).2.1 (hcursor ▸ h) (hcursor ▸ hf)
    rw [hcursor] at hrest
    simp only [run, hwire, hreply, List.map_cons]
    exact ⟨congrArg (_ :: ·) hrest.1, hrest.2⟩

theorem next_of_exhausted (he : r.cursor.phase = .exhausted) :
    r.step w .next = (.ok (.row none), r, w) := by
  rw [step, Cursor.next_of_exhausted he]
  rfl

/-- **Exhausted and failed cursors.** Whatever a reachable reader is asked and whatever is answered:
an exhausted cursor stays exhausted, and `next` gives no row and sends nothing; a failed cursor
sends nothing and stays as it is, and replies as `failedReply` says. Of the things that happen to
another cursor in an operation, failures of its own result alone make it fail, and a failure is the
last of them and what the operation returns. -/
theorem terminal_phases (h : r.Reachable) (w : Wire) (ops : List (Op α)) (op : Op α) :
    (r.cursor.phase = .exhausted →
      (r.run w ops).2.1.cursor.phase = .exhausted ∧
        (r.run w ops).2.1.step (r.run w ops).2.2 .next =
          (.ok (.row none), (r.run w ops).2.1, (r.run w ops).2.2)) ∧
      (r.cursor.phase = .failed →
        (r.run w ops).1 = ops.map (failedReply r.cursor.total) ∧
          (r.run w ops).2.1.cursor = r.cursor ∧ (r.run w ops).2.2 = w) ∧
      (r.cursor.phase ≠ .failed →
        r.cursor.Records w (r.stepJournal w op) (r.step w op).2.1.cursor (r.step w op).2.2 ∧
        ((r.step w op).2.1.cursor.phase = .failed →
          ∃ j e err, r.stepJournal w op = j ++ [e] ∧
            (r.cursor.replay j).Allows e ∧ (r.cursor.replay j).FailsBy e err) ∧
        ∀ j e k err, r.stepJournal w op = j ++ e :: k → (r.cursor.replay j).FailsBy e err →
          k = [] ∧ (r.step w op).2.1.cursor.phase = .failed ∧
            (r.step w op).1 = .error err ∧ err ≠ .cursorFailed) := by
  have hwf := h.wellFormed
  have hrecords := r.records_step w op hwf
  refine ⟨fun he => ?_, run_of_failed ops hwf, fun hopen => ⟨hrecords, ?_, ?_⟩⟩
  · have hphase := ((r.records_run w ops hwf).course.of_exhausted hwf he).1
    exact ⟨hphase, next_of_exhausted hphase⟩
  · exact hrecords.course.ends_with_failure hwf hopen
  · intro j e k err hj herr
    obtain ⟨hk, hf⟩ := (hj ▸ hrecords.course).end_of_failure hwf herr
    have hmem : e ∈ r.stepJournal w op := by
      rw [hj]
      exact List.mem_append_right j List.mem_cons_self
    exact ⟨hk, hf, step_failure op hmem herr.failure?_eq, herr.ne_cursorFailed⟩

/-- Without answers: a cursor that was closed stays exhausted when it cannot be counted, and one
that was not fails with its first request. -/
theorem terminal_phases_unanswered :
    let s : Statement := ⟨"http://db", "FOR d IN c RETURN d", false, none, []⟩
    let w : Wire := .ofAnswers []
    let r : Reader Json := .raw s.cursor
    let closed := (r.run w [.close]).2.1
    let failed := (r.run w [.next]).2.1
    r.Reachable ∧ closed.Reachable ∧ failed.Reachable ∧
      closed.cursor.phase = .exhausted ∧ (closed.run w [.length]).2.1.cursor.phase = .exhausted ∧
      failed.cursor.phase = .failed ∧
      (failed.run w [.last, .isEmpty, .close]).1 =
        [.error .cursorFailed, .error .cursorFailed, .ok .done] ∧
      r.cursor.phase ≠ .failed ∧ (r.step w .next).1 = .error (.transport Wire.unanswered) := by
  intro s w r closed failed
  have hr : r.Reachable := ⟨s, .ok, w, [], rfl⟩
  have hclosed : closed.Reachable := ⟨s, .ok, w, [.close], rfl⟩
  have hfailed : failed.Reachable := ⟨s, .ok, w, [.next], rfl⟩
  have hexhausted : closed.cursor.phase = .exhausted := by decide +kernel
  have hphase : failed.cursor.phase = .failed := by decide +kernel
  have htotal : failed.cursor.total = none := by decide +kernel
  have hunstarted : r.cursor.phase ≠ .failed := by decide
  obtain ⟨hstays, -, -⟩ := terminal_phases hclosed w [.length] .length
  obtain ⟨-, hreplies, -⟩ := terminal_phases hfailed w [.last, .isEmpty, .close] .next
  rw [htotal] at hreplies
  obtain ⟨-, -, hopen⟩ := terminal_phases hr w [] .next
  obtain ⟨-, -, hreturned⟩ := hopen hunstarted
  have hjournal : r.stepJournal w .next =
      [.exchange .page (.create s.query false none) (.error Wire.unanswered)] :=
    Cursor.nextJournal_of_error (by decide) (by decide) rfl (.inl rfl) rfl
  have hnext := hreturned [] _ [] _ hjournal .transport
  exact ⟨hr, hclosed, hfailed, hexhausted, (hstays hexhausted).1, hphase, (hreplies hphase).1,
    hunstarted, hnext.2.2.1⟩

end Reader

end Pagewise
