import Pagewise.Proofs.Cursor.Inspection
import Pagewise.Proofs.Cursor.Release

/-!
# Closing is all or nothing

When the cursor on the server cannot be deleted, `close` leaves everything as it was but for the
answer that it took, and can be tried again. When it succeeds the cursor is over, and closing it
again does nothing. So however often it is tried and whatever is asked in between, the server
confirms one deletion of the cursor of the result at most, and no page is asked for after that.

* `Reader.run_behind`: the requests that were sent before decide nothing.
* `Reader.run_of_close_error`: a session with a failed `close` is the session without it.
* `Reader.quiet_of_release`: what happens after the cursor on the server was deleted.
* **`Reader.session_closing`**: what `close` does to a cursor of a session, and how often the server
  confirms it.
-/

namespace Pagewise

/-! ## Requests that were sent before -/

/-- The same wire with these requests sent before all others. -/
def Wire.behind (earlier : List Request) (w : Wire) : Wire :=
  { w with sent := earlier ++ w.sent }

/-- The same outcome with these requests sent before all others. -/
def Outcome.behind {β : Type} (earlier : List Request) (o : Outcome β) : Outcome β :=
  { o with wire := o.wire.behind earlier }

variable (earlier : List Request)

namespace Wire

variable (request : Request) (w : Wire)

theorem send_behind :
    (w.behind earlier).send request =
      ((w.send request).1, (w.send request).2.behind earlier) := by
  unfold send behind
  cases w.answers <;> simp only [List.append_assoc]

theorem send_snd :
    (w.send request).2 = ⟨w.answers.tail, w.sent ++ [request]⟩ := by
  unfold send
  cases w.answers <;> rfl

theorem ask_behind :
    (w.behind earlier).ask request = ((w.ask request).1, (w.ask request).2.behind earlier) := by
  rw [ask_eq, ask_eq, send_behind]

theorem order_behind :
    (w.behind earlier).order request =
      ((w.order request).1, (w.order request).2.behind earlier) := by
  rw [order_eq, order_eq, send_behind]

end Wire

namespace Statement

variable (s : Statement) (w : Wire)

theorem discard_behind (p : Page) :
    s.discard p (w.behind earlier) = ((s.discard p w).1, (s.discard p w).2.behind earlier) := by
  unfold discard
  cases p.id with
  | none => rfl
  | some id =>
    cases p.hasMore with
    | false => rfl
    | true => exact Wire.order_behind earlier _ w

theorem rowAt_behind (position : Nat) :
    s.rowAt position (w.behind earlier) =
      ((s.rowAt position w).1, (s.rowAt position w).2.behind earlier) := by
  unfold rowAt
  rw [Wire.ask_behind]
  rcases w.ask (s.creation (s.queryAt position) false (some 1)) with ⟨_ | p, v⟩
  · rfl
  · simp only [discard_behind]
    rcases s.discard p v with ⟨_ | _, u⟩ <;> rfl

end Statement

namespace Cursor

variable (c : Cursor) (w : Wire)

theorem fetch_behind (count : Bool) :
    c.fetch count (w.behind earlier) = (c.fetch count w).behind earlier := by
  unfold fetch
  cases c.pageRequest count with
  | error _ => rfl
  | ok request =>
    simp only [Wire.ask_behind]
    rcases w.ask request with ⟨_ | _, v⟩ <;> rfl

theorem next_behind : c.next (w.behind earlier) = (c.next w).behind earlier := by
  fun_induction c.next w with
  | case1 c w hf => rw [next_of_failed hf, Outcome.behind]
  | case2 c w hf he => rw [next_of_exhausted he, Outcome.behind]
  | case3 c w hf he row rest hbuffer => rw [next_of_row hf he hbuffer, Outcome.behind]
  | case4 c w hf he hbuffer hmore e c₁ w₁ fetched =>
    have behind := c.fetch_behind earlier w c.count
    rw [fetched] at behind
    rw [next_of_error hf he hbuffer hmore behind, Outcome.behind]
  | case5 c w hf he hbuffer hmore c₁ w₁ fetched ih =>
    have behind := c.fetch_behind earlier w c.count
    rw [fetched] at behind
    rw [next_of_ok hf he hbuffer hmore behind, ih]
  | case6 c w hf he hbuffer hmore => rw [next_of_end hf he hbuffer hmore, Outcome.behind]

theorem headRow_behind : c.headRow (w.behind earlier) = (c.headRow w).behind earlier := by
  unfold headRow
  cases c.head with
  | some _ => rfl
  | none =>
    simp only [Statement.rowAt_behind]
    rfl

theorem first_behind : c.first (w.behind earlier) = (c.first w).behind earlier := by
  unfold first
  cases c.phase with
  | failed => rfl
  | unstarted =>
    simp only [fetch_behind]
    rcases c.fetch c.count w with ⟨_ | _, c₁, w₁⟩
    · rfl
    · exact c₁.headRow_behind earlier w₁
  | active | exhausted => exact c.headRow_behind earlier w

theorem recount_behind : c.recount (w.behind earlier) = (c.recount w).behind earlier := by
  unfold recount
  rw [Wire.ask_behind]
  rcases w.ask (c.creation c.query true (some 1)) with ⟨_ | p, v⟩
  · rfl
  · simp only [Statement.discard_behind]
    rcases c.discard p v with ⟨_ | _, u⟩ <;> rfl

theorem length_behind : c.length (w.behind earlier) = (c.length w).behind earlier := by
  unfold length
  cases c.total with
  | some _ => rfl
  | none =>
    cases c.phase with
    | failed => rfl
    | unstarted =>
      simp only [fetch_behind]
      rcases c.fetch true w with ⟨_ | _, c₁, w₁⟩ <;> rfl
    | active | exhausted => exact c.recount_behind earlier w

theorem last_behind : c.last (w.behind earlier) = (c.last w).behind earlier := by
  unfold last
  split
  · rfl
  · rw [length_behind]
    rcases c.length w with ⟨_ | _ | n, c₁, w₁⟩
    · rfl
    · rfl
    · simp only [Outcome.behind, Statement.rowAt_behind]

theorem close_behind : c.close (w.behind earlier) = (c.close w).behind earlier := by
  unfold close
  cases c.id with
  | none => rfl
  | some id =>
    cases c.hasMore with
    | false => rfl
    | true =>
      simp only [Wire.order_behind]
      rcases w.order (c.deletion id) with ⟨_ | _, v⟩ <;> rfl

end Cursor

namespace Reader

variable {α : Type} (r : Reader α) (w : Wire)

theorem step_behind (op : Op α) :
    r.step (w.behind earlier) op =
      ((r.step w op).1, (r.step w op).2.1, (r.step w op).2.2.behind earlier) := by
  cases op with
  | next => rw [step, Cursor.next_behind]; rfl
  | first => rw [step, Cursor.first_behind]; rfl
  | last => rw [step, Cursor.last_behind]; rfl
  | length => rw [step, Cursor.length_behind]; rfl
  | isEmpty => rw [step, Cursor.isEmpty, Cursor.length_behind]; rfl
  | close => rw [step, Cursor.close_behind]; rfl
  | decodeWith _ => rfl

/-- **The requests that were sent before decide nothing.** -/
theorem run_behind (ops : List (Op α)) :
    r.run (w.behind earlier) ops =
      ((r.run w ops).1, (r.run w ops).2.1, (r.run w ops).2.2.behind earlier) := by
  induction ops generalizing r w with
  | nil => rfl
  | cons op ops ih =>
    simp only [run, step_behind, ih]

end Reader

/-! ## Cursors that are over -/

namespace Cursor

variable {c c' : Cursor} {w : Wire} {j : Journal} {e : Event}

theorem finish_of_exhausted (h : c.WellFormed) (he : c.phase = .exhausted) : c.finish = c := by
  obtain ⟨hid, hmore, hbuffer⟩ := h.exhausted he
  rcases c with ⟨s, phase, id, hasMore, buffer, head, total⟩
  simp only at he hid hmore hbuffer
  subst he hid hmore hbuffer
  rfl

/-- Closing a cursor that is over does nothing. -/
theorem close_of_over (h : c.WellFormed) (hover : c.phase = .exhausted ∨ c.phase = .failed) :
    c.close w = ⟨.ok (), c, w⟩ := by
  have hid : c.id = none := hover.elim (fun he => (h.exhausted he).1) fun hf => (h.failed hf).1
  rw [close, hid, closed]
  rcases hover with he | hf
  · rw [if_neg (by rw [he]; decide), finish_of_exhausted h he]
  · rw [if_pos hf]

/-- A cursor that is over stays so. -/
theorem Course.over (hc : c.Course j c') (h : c.WellFormed)
    (hover : c.phase = .exhausted ∨ c.phase = .failed) :
    c'.phase = .exhausted ∨ c'.phase = .failed := by
  rcases hover with he | hf
  · exact .inl (hc.of_exhausted h he).1
  · rw [(hc.of_failed h hf).2]
    exact .inr hf

/-- Every event of a course was allowed of some cursor. -/
theorem Course.exists_allows (hc : c.Course j c') (he : e ∈ j) : ∃ m : Cursor, m.Allows e := by
  obtain ⟨before, rest, rfl⟩ := List.append_of_mem he
  obtain ⟨m, -, allowed, -⟩ := hc.split
  exact ⟨m, allowed⟩

end Cursor

/-! ## After the cursor on the server was deleted -/

/-- Whether the server confirmed that it deleted the cursor of the result. -/
def Event.releases : Event → Bool
  | .exchange .close (.delete _) (.ok response) => response.isSuccess
  | _ => false

theorem Event.eq_of_releases {e : Event} (h : e.releases = true) :
    ∃ id response, e = .exchange .close (.delete id) (.ok response) := by
  unfold releases at h
  split at h
  · exact ⟨_, _, rfl⟩
  · cases h

/-- An event that asks nothing of the cursor of the result. -/
def Event.Quiet (e : Event) : Prop :=
  e.isBeside = true ∨ ∃ rows, e = .abandon rows

theorem Event.Quiet.releases_eq_false {e : Event} (h : e.Quiet) : e.releases = false := by
  rcases h with hbeside | ⟨rows, rfl⟩
  · cases hreleases : e.releases with
    | false => rfl
    | true =>
      obtain ⟨id, response, rfl⟩ := e.eq_of_releases hreleases
      cases hbeside
  · rfl

namespace Cursor

variable {c c' : Cursor} {w : Wire} {j before rest : Journal} {e : Event} {o : Outcome Unit}

/-- Nothing is asked of the cursor of a result that is over. -/
theorem Course.quiet (hc : c.Course j c') (h : c.WellFormed)
    (hover : c.phase = .exhausted ∨ c.phase = .failed) : ∀ e ∈ j, e.Quiet := by
  rcases hover with hx | hf
  · intro e he
    obtain ⟨before, rest, rfl⟩ := List.append_of_mem he
    obtain ⟨m, hbefore, allowed, -⟩ := hc.split
    have hm := (hbefore.of_exhausted h hx).1
    obtain ⟨hid, hmore, hbuffer⟩ := (h.course hbefore).exhausted hm
    cases allowed with
    | count | row | discard => exact .inl rfl
    | abandon => exact .inr ⟨_, rfl⟩
    | create hphase | advance hphase | stranded hphase | exhaust hphase =>
      cases hm.symm.trans hphase
    | close hid' => cases hid.symm.trans hid'
    | hand hbuffer' => cases hbuffer.symm.trans hbuffer'
  · rw [(hc.of_failed h hf).1]
    exact List.forall_mem_nil _

theorem quiet_closedJournal (c : Cursor) : ∀ e ∈ c.closedJournal, e.Quiet := by
  unfold closedJournal
  split
  · exact List.forall_mem_nil _
  · exact List.forall_mem_singleton.mpr (.inr ⟨_, rfl⟩)

/-- Behind the deletion nothing more is asked in the `close` that made it, and the cursor is
closed. -/
theorem Closes.quiet_of_release (hc : c.Closes w j o) (hj : j = before ++ e :: rest)
    (he : e.releases = true) : (∀ x ∈ rest, x.Quiet) ∧ o.cursor = c.closed := by
  have hloud : e ∉ c.closedJournal := fun hmem => by
    cases (quiet_closedJournal c e hmem).releases_eq_false.symm.trans he
  cases hc with
  | free =>
    refine absurd ?_ hloud
    rw [hj]
    exact List.mem_append_right before List.mem_cons_self
  | @released id response =>
    refine ⟨?_, rfl⟩
    cases before with
    | nil =>
      obtain ⟨-, rfl⟩ := List.cons.inj hj
      exact quiet_closedJournal c
    | cons x before =>
      refine absurd ?_ hloud
      rw [(List.cons.inj hj).2]
      exact List.mem_append_right before List.mem_cons_self
  | @kept id err hheld hcheck =>
    have hmem : e ∈ [Event.exchange .close (.delete id) (w.send (c.deletion id)).1] := by
      rw [hj]
      exact List.mem_append_right before List.mem_cons_self
    obtain ⟨name, response, heq⟩ := e.eq_of_releases he
    rw [heq, List.mem_singleton] at hmem
    obtain ⟨-, -, hanswer⟩ := Event.exchange.inj hmem
    rw [heq] at he
    have hok : (w.send (c.deletion id)).1.check = .ok () :=
      Answer.check_eq_ok_iff.mpr ⟨response, hanswer.symm, he⟩
    cases hcheck.symm.trans hok

end Cursor

namespace Reader

variable {α : Type} {r : Reader α} {w : Wire} {before rest : Journal} {e : Event}

theorem step_close_eq_error_iff {err : Error} :
    (r.step w .close).1 = .error err ↔ (r.cursor.close w).result = .error err := by
  simp only [step, after]
  cases (r.cursor.close w).result <;> simp [Except.map]

theorem step_close_eq_ok_iff {reply : Reply α} :
    (r.step w .close).1 = .ok reply ↔ (r.cursor.close w).result = .ok () ∧ .done = reply := by
  simp only [step, after]
  cases (r.cursor.close w).result <;> simp [Except.map]

/-- A cursor that was closed is over. -/
theorem over_of_closed (h : (r.step w .close).2.1.cursor = r.cursor.closed) :
    (r.step w .close).2.1.cursor.phase = .exhausted ∨
      (r.step w .close).2.1.cursor.phase = .failed := by
  rw [h]
  exact r.cursor.closed_phase

/-- **What happens after the cursor on the server was deleted** asks nothing more of it. -/
theorem quiet_of_release (ops : List (Op α)) (h : r.cursor.WellFormed)
    (hj : r.journal w ops = before ++ e :: rest) (he : e.releases = true) :
    ∀ x ∈ rest, x.Quiet := by
  induction ops generalizing r w before with
  | nil => cases before <;> cases hj
  | cons op ops ih =>
    have hcourse := (r.records_step w op h).course
    have hwf := h.course hcourse
    rw [journal, along] at hj
    rcases List.append_eq_append_iff.mp hj with ⟨between, -, hlater⟩ | ⟨between, hstep, hlater⟩
    · exact ih hwf hlater
    · cases between with
      | nil => exact @ih _ _ [] hwf hlater.symm
      | cons x between =>
        obtain ⟨rfl, rfl⟩ := List.cons.inj hlater
        obtain ⟨id, response, heq⟩ := e.eq_of_releases he
        have hmem : .exchange .close (.delete id) (.ok response) ∈ r.stepJournal w op := by
          rw [hstep, ← heq]
          exact List.mem_append_right before List.mem_cons_self
        obtain ⟨rfl, -⟩ := held?_of_close_mem hmem
        obtain ⟨hquiet, hclosed⟩ := (r.cursor.closes w).quiet_of_release hstep he
        have hlater := (records_run _ (r.step w .close).2.2 ops hwf).course
        exact List.forall_mem_append.mpr ⟨hquiet, hlater.quiet hwf (over_of_closed hclosed)⟩

/-- The server confirms one deletion of the cursor of the result at most. -/
theorem countP_releases_le_one {j : Journal}
    (h : ∀ before e rest, j = before ++ e :: rest → e.releases = true → ∀ x ∈ rest, x.Quiet) :
    j.countP Event.releases ≤ 1 := by
  induction j with
  | nil => exact Nat.zero_le 1
  | cons e j ih =>
    cases he : e.releases with
    | false =>
      rw [List.countP_cons_of_neg (by rw [he]; decide)]
      exact ih fun before x rest hj => h (e :: before) x rest (congrArg (e :: ·) hj)
    | true =>
      have hrest : j.countP Event.releases = 0 := List.countP_eq_zero.mpr fun x hx => by
        rw [(h [] e j rfl he x hx).releases_eq_false]
        decide
      exact Nat.le_of_eq ((List.countP_cons_of_pos he).trans (by rw [hrest]))

/-! ## Sessions -/

theorem step_close_of_over (h : r.cursor.WellFormed)
    (hover : r.cursor.phase = .exhausted ∨ r.cursor.phase = .failed) :
    r.step w .close = (.ok .done, r, w) := by
  rw [step, Cursor.close_of_over h hover]
  rfl

/-- **A session with a failed `close` is the session without it**, on the answers behind the one
that it took; its request is the only difference. -/
theorem run_of_close_error {err : Error} (h : (r.step w .close).1 = .error err)
    (later : List (Op α)) :
    (r.step w .close).2.1 = r ∧
      ∃ id replies r' answers sent, r.cursor.id = some id ∧
        r.run ⟨w.answers.tail, w.sent⟩ later = (replies, r', ⟨answers, w.sent ++ sent⟩) ∧
        r.run w (.close :: later) =
          (.error err :: replies, r', ⟨answers, w.sent ++ r.cursor.deletion id :: sent⟩) := by
  have hresult := step_close_eq_error_iff.mp h
  have hreader : (r.step w .close).2.1 = r := by
    simp only [step, after, r.cursor.close_of_error w hresult]
  obtain ⟨id, hid, hwire⟩ : ∃ id, r.cursor.id = some id ∧
      (r.cursor.close w).wire = (w.send (r.cursor.deletion id)).2 := by
    have hcloses := r.cursor.closes w
    generalize r.cursor.closeJournal w = j, r.cursor.close w = o at hresult hcloses
    cases hcloses with
    | free | released => cases hresult
    | kept hheld => exact ⟨_, (Cursor.held?_eq_some hheld).1, rfl⟩
  have hrest : (r.step w .close).2.2 =
      ⟨w.answers.tail, w.sent ++ [r.cursor.deletion id]⟩ := by
    rw [Wire.send_snd] at hwire
    exact hwire
  have hplain := r.run_behind w.sent (.ofAnswers w.answers.tail) later
  have hclosed := r.run_behind (w.sent ++ [r.cursor.deletion id]) (.ofAnswers w.answers.tail) later
  simp only [Wire.behind, Wire.ofAnswers, List.append_nil, List.append_assoc,
    List.singleton_append] at hplain hclosed
  refine ⟨hreader, id, _, _, _, _, hid, hplain, ?_⟩
  simp only [run, h, hreader, hrest, hclosed]

/-- **What `close` does**, to a cursor of a session and whatever is answered. When it fails it
leaves the reader as it was, so a session goes on as if it had not been called: with the same
replies and the same requests but for its own. When it succeeds a failed cursor is as it was and any
other is exhausted and holds nothing, and every `close` after that succeeds and sends nothing. In
the whole session the server confirms one deletion of the cursor of the result at most, and after
that no page of it is asked for, nor its deletion. -/
theorem session_closing (s : Statement) (decode : Decoder α) (w₀ : Wire) (ops : List (Op α))
    (w : Wire) (later : List (Op α)) :
    let start : Reader α := ⟨s.cursor, decode⟩
    let r := (start.run w₀ ops).2.1
    let c := r.cursor
    let j := start.journal w₀ ops
    (∀ err, (r.step w .close).1 = .error err →
      (r.step w .close).2.1 = r ∧
        ∃ id replies r' answers sent, c.id = some id ∧
          r.run ⟨w.answers.tail, w.sent⟩ later = (replies, r', ⟨answers, w.sent ++ sent⟩) ∧
          r.run w (.close :: later) =
            (.error err :: replies, r', ⟨answers, w.sent ++ s.deletion id :: sent⟩)) ∧
      (∀ reply, (r.step w .close).1 = .ok reply →
        (c.phase ≠ .failed → (r.step w .close).2.1.cursor =
          { c with phase := .exhausted, id := none, hasMore := false, buffer := [] }) ∧
        (c.phase = .failed → r.step w .close = (.ok .done, r, w)) ∧
        let r' := (r.run w (.close :: later)).2.1
        let w' := (r.run w (.close :: later)).2.2
        r'.step w' .close = (.ok .done, r', w')) ∧
      s.cursor.Records w₀ j c (start.run w₀ ops).2.2 ∧
      j.countP Event.releases ≤ 1 ∧
      ∀ before e rest, j = before ++ e :: rest → e.releases = true →
        ∀ p d a, .exchange p d a ∈ rest →
          p ≠ .page ∧ p ≠ .close ∧ (d.request s).method ≠ .put := by
  intro start r c j
  have hwf₀ : start.cursor.WellFormed := Cursor.wellFormed_cursor s
  have hrecords := start.records_run w₀ ops hwf₀
  have hwf : c.WellFormed := hwf₀.course hrecords.course
  have hstatement : c.toStatement = s := hrecords.course.toStatement_eq
  have hquiet : ∀ before e rest, j = before ++ e :: rest → e.releases = true →
      ∀ x ∈ rest, x.Quiet :=
    fun _ _ _ hj he => quiet_of_release ops hwf₀ hj he
  refine ⟨fun err herr => ?_, fun reply hok => ?_, hrecords, countP_releases_le_one hquiet,
    fun before e rest hj he p d a hmem => ?_⟩
  · rw [← hstatement]
    exact run_of_close_error herr later
  · have hclosed : (r.step w .close).2.1.cursor = c.closed :=
      c.close_of_ok w (step_close_eq_ok_iff.mp hok).1
    refine ⟨fun hopen => ?_, fun hf => ?_, ?_⟩
    · rw [hclosed, Cursor.closed, if_neg hopen, Cursor.finish]
    · exact step_close_of_over hwf (.inr hf)
    · intro r' w'
      have hwf' := hwf.course (r.records_step w .close hwf).course
      have hlater := (records_run _ (r.step w .close).2.2 later hwf').course
      have hover := hlater.over hwf' (over_of_closed hclosed)
      exact step_close_of_over (hwf'.course hlater) hover
  · have hx := hquiet before e rest hj he _ hmem
    have hbeside : (Event.exchange p d a).isBeside = true := by
      rcases hx with hbeside | ⟨rows, heq⟩
      · exact hbeside
      · cases heq
    have hmem' : .exchange p d a ∈ j := by
      rw [hj]
      exact List.mem_append_right before (List.mem_cons_of_mem e hmem)
    obtain ⟨m, allowed⟩ := hrecords.course.exists_allows hmem'
    refine ⟨?_, ?_, allowed.method_ne_put hbeside s⟩
    · rintro rfl
      cases hbeside
    · rintro rfl
      cases hbeside

/-- The cursor "7" still holds rows. The server refuses to delete it once, and then does so. -/
theorem session_closing_retried :
    let s : Statement := ⟨"http://db", "FOR d IN c RETURN d", false, none, []⟩
    let created : Answer := .ok ⟨201, "\x7b\"id\":\"7\",\"hasMore\":true,\"result\":[1]\x7d"⟩
    let refused : Answer := .ok ⟨503, "down"⟩
    let deleted : Answer := .ok ⟨202, ""⟩
    let r : Reader Json := ((raw s.cursor).run (.ofAnswers [created]) [.next]).2.1
    let w : Wire := .ofAnswers [refused, deleted]
    let j := (raw s.cursor).journal (.ofAnswers [created, refused, deleted]) [.next, .close, .close]
    (r.step w .close).1 = .error (.refused "down" 0 503) ∧ (r.step w .close).2.1 = r ∧
      (r.step (.ofAnswers [deleted]) .close).1 = .ok .done ∧
      (r.step (.ofAnswers [deleted]) .close).2.1.cursor.phase = .exhausted ∧
      ∃ before e rest, j = before ++ e :: rest ∧ e.releases = true ∧
        ∀ p d a, .exchange p d a ∈ rest → (d.request s).method ≠ .put := by
  intro s created refused deleted r w j
  obtain ⟨hrefused, hdeleted, hopen, hany⟩ :
      (r.cursor.close w).result = .error (.refused "down" 0 503) ∧
      (r.cursor.close (.ofAnswers [deleted])).result = .ok () ∧ r.cursor.phase ≠ .failed ∧
      j.any Event.releases = true := by
    decide +kernel
  have herr : (r.step w .close).1 = .error (.refused "down" 0 503) :=
    step_close_eq_error_iff.mpr hrefused
  have hok : (r.step (.ofAnswers [deleted]) .close).1 = .ok .done :=
    step_close_eq_ok_iff.mpr ⟨hdeleted, rfl⟩
  obtain ⟨hfails, -⟩ := session_closing s .ok (.ofAnswers [created]) [.next] w [.close]
  obtain ⟨-, hcloses, -⟩ :=
    session_closing s .ok (.ofAnswers [created]) [.next] (.ofAnswers [deleted]) []
  obtain ⟨-, -, -, -, hafter⟩ :=
    session_closing s .ok (.ofAnswers [created, refused, deleted]) [.next, .close, .close] w []
  obtain ⟨e, hmem, he⟩ := List.any_eq_true.mp hany
  obtain ⟨before, rest, hj⟩ := List.append_of_mem hmem
  refine ⟨herr, (hfails _ herr).1, hok, ?_, before, e, rest, hj, he, fun p d a ha => ?_⟩
  · exact congrArg Cursor.phase ((hcloses _ hok).1 hopen)
  · exact (hafter before e rest hj he p d a ha).2.2

end Reader

end Pagewise
