import Pagewise.Proofs.Cursor.Terminal

/-!
# Inspecting a cursor does not disturb it

`first`, `last`, `length` and `isEmpty` tell of the whole result. A cursor that has started answers
them from what it remembers or by requests beside its result, and of all that it holds they change
the number of rows alone. That number decides nothing about the result, so a session in which they
are asked hands out the same rows, by the same requests, as the session without them, whatever is
answered to them.

* `Journal.own`: what happens to the result itself.
* `Cursor.Alike`: cursors that differ in the number of their rows at most.
* `Course.alike`: requests beside the result leave a cursor like the one before.
* `Alike.next`, `Alike.close`: what `next` and `close` do is the same for cursors that are alike.
* **`Reader.inspection_unnoticed`**: two sessions that differ in inspections.
-/

namespace Pagewise

/-! ## Inspections -/

/-- The same operations, with inspections put in anywhere. -/
inductive Inspected {α : Type} : List (Op α) → List (Op α) → Prop
  | nil : Inspected [] []
  | same (op : Op α) {ops ops' : List (Op α)} (h : Inspected ops ops') :
      Inspected (op :: ops) (op :: ops')
  | inspect {op : Op α} {ops ops' : List (Op α)} (hop : op.inspects = true)
      (h : Inspected ops ops') : Inspected ops (op :: ops')

namespace Journal

/-- What happened to the result itself. -/
def own (j : Journal) : Journal :=
  j.filter fun e => !e.isBeside

/-- The answers to the requests for the result itself. -/
def ownAnswers (j : Journal) : List Answer :=
  j.own.exchanges.map Prod.snd

variable {j k : Journal} {script : List Answer}

theorem own_append (j k : Journal) : own (j ++ k) = j.own ++ k.own :=
  List.filter_append _ _

theorem own_single_of_own {e : Event} (he : e.isBeside = false) : own [e] = [e] :=
  List.filter_cons_of_pos (by rw [he]; rfl)

theorem ownAnswers_append (j k : Journal) :
    ownAnswers (j ++ k) = j.ownAnswers ++ k.ownAnswers := by
  unfold ownAnswers
  rw [own_append, exchanges_append, List.map_append]

theorem Beside.own (h : j.Beside) : j.own = [] := by
  refine List.filter_eq_nil_iff.mpr fun e he => ?_
  rw [h e he]
  decide

theorem Beside.ownAnswers (h : j.Beside) : j.ownAnswers = [] := by
  unfold Journal.ownAnswers
  rw [h.own]
  rfl

/-- What begins with an answer and is answered from a script has the first answer of the script. -/
theorem answer_eq {a a' : Answer} {as as' : List Answer} (h : a :: as <+: script)
    (h' : a' :: as' <+: script) : a' = a := by
  obtain ⟨t, rfl⟩ := h
  exact (List.cons_prefix_cons.mp h').1

/-- What comes after equal beginnings is answered from one script too. -/
theorem rest_of_script {as bs bs' : List Answer} (h : as ++ bs <+: script)
    (h' : as ++ bs' <+: script) : ∃ rest, bs <+: rest ∧ bs' <+: rest := by
  obtain ⟨t, rfl⟩ := h
  refine ⟨bs ++ t, List.prefix_append bs t, ?_⟩
  rw [List.append_assoc] at h'
  exact (List.prefix_append_right_inj as).mp h'

end Journal

/-! ## Cursors that are alike -/

namespace Cursor

/-- **Cursors that differ in the number of their rows at most.** -/
structure Alike (c c' : Cursor) : Prop where
  statement : c'.toStatement = c.toStatement
  phase : c'.phase = c.phase
  id : c'.id = c.id
  hasMore : c'.hasMore = c.hasMore
  buffer : c'.buffer = c.buffer
  head : c'.head = c.head

variable {c c' c'' : Cursor} {w w' : Wire} {count : Bool} {j : Journal} {e : Event}
  {script : List Answer}

theorem alike_total (c : Cursor) (total : Option Nat) : c.Alike { c with total } :=
  ⟨rfl, rfl, rfl, rfl, rfl, rfl⟩

namespace Alike

theorem refl (c : Cursor) : c.Alike c :=
  c.alike_total c.total

theorem symm (h : c.Alike c') : c'.Alike c :=
  ⟨h.statement.symm, h.phase.symm, h.id.symm, h.hasMore.symm, h.buffer.symm, h.head.symm⟩

theorem trans (h : c.Alike c') (h' : c'.Alike c'') : c.Alike c'' :=
  ⟨h'.statement.trans h.statement, h'.phase.trans h.phase, h'.id.trans h.id,
    h'.hasMore.trans h.hasMore, h'.buffer.trans h.buffer, h'.head.trans h.head⟩

theorem exists_total (h : c.Alike c') : ∃ total, c' = { c with total } := by
  refine ⟨c'.total, ?_⟩
  obtain ⟨s, phase, id, hasMore, buffer, head, total⟩ := c
  obtain ⟨s', phase', id', hasMore', buffer', head', total'⟩ := c'
  obtain ⟨hs, hphase, hid, hmore, hbuffer, hhead⟩ := h
  simp only at hs hphase hid hmore hbuffer hhead
  subst hs hphase hid hmore hbuffer hhead
  rfl

/-- An event leaves them alike. -/
theorem after (h : c.Alike c') (e : Event) : (c.after e).Alike (c'.after e) := by
  obtain ⟨total, rfl⟩ := h.exists_total
  cases e with
  | exchange p d a =>
    cases p with
    | page | count =>
      simp only [Cursor.after]
      cases a.page <;> exact ⟨rfl, rfl, rfl, rfl, rfl, rfl⟩
    | row | discard | close => exact h
  | stranded | hand | exhaust | abandon => exact ⟨rfl, rfl, rfl, rfl, rfl, rfl⟩

/-- A page that is answered alike is the same event. -/
theorem fetchEvent (h : c.Alike c') (hs : Journal.ownAnswers [c.fetchEvent count w] <+: script)
    (hs' : Journal.ownAnswers [c'.fetchEvent count w'] <+: script) :
    c'.fetchEvent count w' = c.fetchEvent count w := by
  obtain ⟨total, rfl⟩ := h.exists_total
  have hdemand : { c with total }.pageDemand? count = c.pageDemand? count := rfl
  unfold Cursor.fetchEvent at *
  rw [hdemand] at hs' ⊢
  cases hd : c.pageDemand? count with
  | none => rfl
  | some d =>
    rw [hd] at hs hs'
    exact congrArg (Event.exchange .page d) (Journal.answer_eq hs hs')

theorem fetch (h : c.Alike c') {count' : Bool}
    (he : c'.fetchEvent count' w' = c.fetchEvent count w) :
    (c'.fetch count' w').result = (c.fetch count w).result ∧
      (c.fetch count w).cursor.Alike (c'.fetch count' w').cursor := by
  rw [fetch_eq, fetch_eq, he]
  exact ⟨rfl, h.after _⟩

end Alike

/-! ### Rows -/

/-- A page that is due is the first that happens. -/
theorem nextJournal_of_page (w : Wire) (hf : c.phase ≠ .failed) (he : c.phase ≠ .exhausted)
    (hbuffer : c.buffer = []) (hmore : c.phase = .unstarted ∨ c.hasMore) :
    ∃ k, c.nextJournal w = c.fetchEvent c.count w :: k := by
  rcases hfetch : c.fetch c.count w with ⟨_ | _, c', w'⟩
  · exact ⟨[], nextJournal_of_error hf he hbuffer hmore hfetch⟩
  · exact ⟨_, nextJournal_of_ok hf he hbuffer hmore hfetch⟩

/-- A page that is due of both is the same event. -/
theorem Alike.page (h : c.Alike c') (hs : (c.nextJournal w).ownAnswers <+: script)
    (hs' : (c'.nextJournal w').ownAnswers <+: script) (hf : c.phase ≠ .failed)
    (hx : c.phase ≠ .exhausted) (hbuffer : c.buffer = [])
    (hmore : c.phase = .unstarted ∨ c.hasMore) :
    c'.fetchEvent c'.count w' = c.fetchEvent c.count w := by
  have hcount : c'.count = c.count := congrArg Statement.count h.statement
  obtain ⟨k, hk⟩ := nextJournal_of_page w hf hx hbuffer hmore
  obtain ⟨k', hk'⟩ := @nextJournal_of_page c' w' (by rwa [h.phase]) (by rwa [h.phase])
    (h.buffer.trans hbuffer) (by rwa [h.phase, h.hasMore])
  rw [hk, ← List.singleton_append, Journal.ownAnswers_append] at hs
  rw [hk', ← List.singleton_append, Journal.ownAnswers_append, hcount] at hs'
  rw [hcount]
  exact h.fetchEvent ((List.prefix_append _ _).trans hs) ((List.prefix_append _ _).trans hs')

/-- **`next` is the same for cursors that are alike**, when their pages are answered alike. -/
theorem Alike.next (h : c.Alike c') (hs : (c.nextJournal w).ownAnswers <+: script)
    (hs' : (c'.nextJournal w').ownAnswers <+: script) :
    c'.nextJournal w' = c.nextJournal w ∧ (c'.next w').result = (c.next w).result ∧
      (c.next w).cursor.Alike (c'.next w').cursor := by
  fun_induction Cursor.next c w generalizing c' w' script with
  | case1 c w hf =>
    obtain ⟨total, rfl⟩ := h.exists_total
    rw [nextJournal_of_over (.inl hf), nextJournal_of_over (c := { c with total }) (.inl hf),
      next_of_failed (c := { c with total }) hf]
    exact ⟨rfl, rfl, h⟩
  | case2 c w hf hx =>
    obtain ⟨total, rfl⟩ := h.exists_total
    rw [nextJournal_of_over (.inr hx), nextJournal_of_over (c := { c with total }) (.inr hx),
      next_of_exhausted (c := { c with total }) hx]
    exact ⟨rfl, rfl, h⟩
  | case3 c w hf hx row rest hbuffer =>
    obtain ⟨total, rfl⟩ := h.exists_total
    rw [nextJournal_of_row hf hx hbuffer,
      nextJournal_of_row (c := { c with total }) hf hx hbuffer,
      next_of_row (c := { c with total }) hf hx hbuffer]
    exact ⟨rfl, rfl, alike_total _ total⟩
  | case4 c w hf hx hbuffer hmore err c₁ w₁ fetched =>
    have he := h.page hs hs' hf hx hbuffer hmore
    obtain ⟨hresult, hcursor⟩ := h.fetch he
    obtain ⟨total, rfl⟩ := h.exists_total
    rcases fetched' : { c with total }.fetch c.count w' with ⟨_ | _, c₂, w₂⟩ <;>
      rw [fetched, fetched'] at hresult hcursor
    · rw [nextJournal_of_error hf hx hbuffer hmore fetched,
        nextJournal_of_error (c := { c with total }) hf hx hbuffer hmore fetched',
        next_of_error (c := { c with total }) hf hx hbuffer hmore fetched', he]
      cases hresult
      exact ⟨rfl, rfl, hcursor⟩
    · cases hresult
  | case5 c w hf hx hbuffer hmore c₁ w₁ fetched ih =>
    have he := h.page hs hs' hf hx hbuffer hmore
    obtain ⟨hresult, hcursor⟩ := h.fetch he
    obtain ⟨total, rfl⟩ := h.exists_total
    rcases fetched' : { c with total }.fetch c.count w' with ⟨_ | _, c₂, w₂⟩ <;>
      rw [fetched, fetched'] at hresult hcursor
    · cases hresult
    · have hjournal' :=
        nextJournal_of_ok (c := { c with total }) hf hx hbuffer hmore fetched'
      rw [nextJournal_of_ok hf hx hbuffer hmore fetched, ← List.singleton_append,
        Journal.ownAnswers_append] at hs
      rw [hjournal', he, ← List.singleton_append, Journal.ownAnswers_append] at hs'
      obtain ⟨rest, hrest, hrest'⟩ := Journal.rest_of_script hs hs'
      obtain ⟨hjournal, hrow, halike⟩ := ih hcursor hrest hrest'
      rw [nextJournal_of_ok hf hx hbuffer hmore fetched, hjournal', he, hjournal,
        next_of_ok (c := { c with total }) hf hx hbuffer hmore fetched']
      exact ⟨rfl, hrow, halike⟩
  | case6 c w hf hx hbuffer hmore =>
    obtain ⟨total, rfl⟩ := h.exists_total
    rw [nextJournal_of_end hf hx hbuffer hmore,
      nextJournal_of_end (c := { c with total }) hf hx hbuffer hmore,
      next_of_end (c := { c with total }) hf hx hbuffer hmore]
    exact ⟨rfl, rfl, h.after .exhaust⟩

/-- **`close` is the same for cursors that are alike**, when the deletion is answered alike. -/
theorem Alike.close (h : c.Alike c') (hs : (c.closeJournal w).ownAnswers <+: script)
    (hs' : (c'.closeJournal w').ownAnswers <+: script) :
    c'.closeJournal w' = c.closeJournal w ∧ (c'.close w').result = (c.close w).result ∧
      (c.close w).cursor.Alike (c'.close w').cursor := by
  have hclosedJournal : c'.closedJournal = c.closedJournal := by
    unfold closedJournal
    rw [h.phase, h.buffer]
  have hclosed : c.closed.Alike c'.closed := by
    unfold closed
    rw [h.phase]
    split
    · exact h
    · exact h.after .exhaust
  unfold closeJournal at *
  unfold Cursor.close
  rw [h.id, h.hasMore, hclosedJournal] at *
  cases hid : c.id with
  | none => exact ⟨rfl, rfl, hclosed⟩
  | some id =>
    cases hmore : c.hasMore with
    | false => exact ⟨rfl, rfl, hclosed⟩
    | true =>
      rw [hid, hmore] at hs hs'
      have ha : (w'.send (c'.deletion id)).1 = (w.send (c.deletion id)).1 :=
        Journal.answer_eq hs hs'
      simp only [Wire.order_eq]
      rw [ha]
      cases (w.send (c.deletion id)).1.check with
      | error _ => exact ⟨rfl, rfl, h⟩
      | ok _ => exact ⟨rfl, rfl, hclosed⟩

/-! ### Requests beside the result -/

theorem alike_after_of_beside (he : e.isBeside = true) : c.Alike (c.after e) := by
  cases e with
  | exchange p d a =>
    cases p with
    | page | close => cases he
    | count =>
      simp only [after]
      cases a.page with
      | ok p => exact c.alike_total p.count
      | error _ => exact .refl c
    | row | discard => exact .refl c
  | stranded | hand | exhaust | abandon => cases he

/-- **Requests beside the result leave a cursor like the one before.** -/
theorem Course.alike (hc : c.Course j c') (hj : j.Beside) : c.Alike c' := by
  induction hc with
  | start => exact .refl c
  | step _ _ ih =>
    obtain ⟨hbefore, he⟩ := List.forall_mem_append.mp hj
    exact (ih hbefore).trans (alike_after_of_beside (he _ List.mem_cons_self))

/-- A request beside the result asks for no page of a cursor. -/
theorem Allows.method_ne_put {p : Purpose} {d : Demand} {a : Answer}
    (allowed : c.Allows (.exchange p d a)) (he : (Event.exchange p d a).isBeside = true)
    (s : Statement) : (d.request s).method ≠ .put := by
  cases allowed with
  | create | advance | close => cases he
  | count | row => exact (by decide : Method.post ≠ .put)
  | discard => exact (by decide : Method.delete ≠ .put)

/-- The pages that are asked for by name are asked for by the result itself. -/
theorem Course.puts_own (hc : c.Course j c') (s : Statement) :
    (j.own.exchanges.map fun x => x.1.request s).filter (·.method = .put) =
      (j.exchanges.map fun x => x.1.request s).filter (·.method = .put) := by
  induction hc with
  | start => rfl
  | @step j m e _ allowed ih =>
    rw [Journal.own_append, Journal.exchanges_append, Journal.exchanges_append, List.map_append,
      List.map_append, List.filter_append, List.filter_append, ih]
    congr 1
    cases he : e.isBeside with
    | false => rw [Journal.own_single_of_own he]
    | true =>
      rw [Journal.Beside.own (.cons he Journal.beside_nil)]
      cases e with
      | exchange p d a =>
        have hput := allowed.method_ne_put he s
        simp [Journal.exchanges, Event.exchange?, hput]
      | stranded | hand | exhaust | abandon => cases he

/-- A cursor that has started does not become one that has not. -/
theorem Course.started (hc : c.Course j c') (h : c.phase ≠ .unstarted) :
    c'.phase ≠ .unstarted := by
  induction hc with
  | start => exact h
  | @step _ m e _ _ ih =>
    cases e with
    | exchange p d a =>
      by_cases hp : p = .page
      · subst hp
        simp only [after]
        cases a.page <;> simp [receive, fail]
      · rwa [after_phase_of_beside hp]
    | hand => exact ih
    | stranded | exhaust | abandon => simp [after, fail, finish]

end Cursor

/-! ## Sessions -/

namespace Reader

variable {α : Type} {r r' : Reader α} {w w' : Wire} {ops ops' : List (Op α)}
  {script : List Answer}

/-- The reply to an operation that is no inspection. -/
def progress (r : Reader α) (w : Wire) (op : Op α) : List (Except Error (Reply α)) :=
  if op.inspects then [] else [(r.step w op).1]

theorem beside_stepJournal {op : Op α} (hop : op.inspects = true)
    (h : r.cursor.phase ≠ .unstarted) : (r.stepJournal w op).Beside :=
  fun _ he => (mem_of_inspects hop he).resolve_left fun hu => h hu.1

/-- An inspection leaves a reader that has started like the one before. -/
theorem step_inspects {op : Op α} (hop : op.inspects = true) (hwf : r.cursor.WellFormed)
    (h : r.cursor.phase ≠ .unstarted) :
    r.cursor.Alike (r.step w op).2.1.cursor ∧ (r.step w op).2.1.decode = r.decode := by
  refine ⟨(r.records_step w op hwf).course.alike (beside_stepJournal hop h), ?_⟩
  cases op with
  | decodeWith _ => cases hop
  | _ => rfl

/-- **An operation that is no inspection** does and gives the same for readers that are alike. -/
theorem step_alike {op : Op α} (hop : op.inspects = false) (h : r.cursor.Alike r'.cursor)
    (hd : r'.decode = r.decode) (hs : (r.stepJournal w op).ownAnswers <+: script)
    (hs' : (r'.stepJournal w' op).ownAnswers <+: script) :
    r'.stepJournal w' op = r.stepJournal w op ∧ (r'.step w' op).1 = (r.step w op).1 ∧
      (r.step w op).2.1.cursor.Alike (r'.step w' op).2.1.cursor ∧
      (r'.step w' op).2.1.decode = (r.step w op).2.1.decode := by
  cases op with
  | next =>
    obtain ⟨hjournal, hresult, halike⟩ := h.next hs hs'
    refine ⟨hjournal, ?_, halike, hd⟩
    simp only [step, after, rowReply, hresult, hd]
  | close =>
    obtain ⟨hjournal, hresult, halike⟩ := h.close hs hs'
    refine ⟨hjournal, ?_, halike, hd⟩
    simp only [step, after, hresult]
  | decodeWith _ => exact ⟨rfl, rfl, h, rfl⟩
  | first | last | length | isEmpty => cases hop

/-- The same operation of both. -/
theorem step_same (op : Op α) (hwf : r.cursor.WellFormed) (hwf' : r'.cursor.WellFormed)
    (hstarted : r.cursor.phase ≠ .unstarted) (h : r.cursor.Alike r'.cursor)
    (hd : r'.decode = r.decode) (hs : (r.stepJournal w op).ownAnswers <+: script)
    (hs' : (r'.stepJournal w' op).ownAnswers <+: script) :
    (r'.stepJournal w' op).own = (r.stepJournal w op).own ∧
      r'.progress w' op = r.progress w op ∧
      (r.step w op).2.1.cursor.Alike (r'.step w' op).2.1.cursor ∧
      (r'.step w' op).2.1.decode = (r.step w op).2.1.decode := by
  unfold progress
  cases hop : op.inspects with
  | false =>
    obtain ⟨hjournal, hreply, halike, hdecode⟩ := step_alike hop h hd hs hs'
    rw [hjournal, hreply]
    exact ⟨rfl, rfl, halike, hdecode⟩
  | true =>
    have hstarted' : r'.cursor.phase ≠ .unstarted := by rwa [h.phase]
    obtain ⟨hkept, hdecode⟩ := step_inspects (w := w) hop hwf hstarted
    obtain ⟨hkept', hdecode'⟩ := step_inspects (w := w') hop hwf' hstarted'
    rw [(beside_stepJournal hop hstarted).own, (beside_stepJournal hop hstarted').own, hdecode,
      hdecode']
    exact ⟨rfl, rfl, (hkept.symm.trans h).trans hkept', hd⟩

/-- **Two sessions that differ in inspections**, from readers that are alike. -/
theorem run_alike (hops : Inspected ops ops') (hwf : r.cursor.WellFormed)
    (hwf' : r'.cursor.WellFormed) (hstarted : r.cursor.phase ≠ .unstarted)
    (h : r.cursor.Alike r'.cursor) (hd : r'.decode = r.decode)
    (hs : (r.journal w ops).ownAnswers <+: script)
    (hs' : (r'.journal w' ops').ownAnswers <+: script) :
    (r'.journal w' ops').own = (r.journal w ops).own ∧
      r'.along progress w' ops' = r.along progress w ops ∧
      (r.run w ops).2.1.cursor.Alike (r'.run w' ops').2.1.cursor := by
  induction hops generalizing r r' w w' script with
  | nil => exact ⟨rfl, rfl, h⟩
  | @same op ops ops' _ ih =>
    have hcourse := (r.records_step w op hwf).course
    have hcourse' := (r'.records_step w' op hwf').course
    rw [journal, along, Journal.ownAnswers_append] at hs hs'
    obtain ⟨hown, hreply, halike, hdecode⟩ := step_same op hwf hwf' hstarted h hd
      ((List.prefix_append _ _).trans hs) ((List.prefix_append _ _).trans hs')
    have hanswers : (r'.stepJournal w' op).ownAnswers = (r.stepJournal w op).ownAnswers := by
      unfold Journal.ownAnswers
      rw [hown]
    rw [hanswers] at hs'
    obtain ⟨rest, hrest, hrest'⟩ := Journal.rest_of_script hs hs'
    obtain ⟨howns, hreplies, hend⟩ := ih (hwf.course hcourse) (hwf'.course hcourse')
      (hcourse.started hstarted) halike hdecode hrest hrest'
    refine ⟨?_, ?_, hend⟩
    · rw [journal, journal, along, along, Journal.own_append, Journal.own_append, hown]
      exact congrArg _ howns
    · rw [along, along, hreply, hreplies]
  | @inspect op ops ops' hop _ ih =>
    have hstarted' : r'.cursor.phase ≠ .unstarted := by rwa [h.phase]
    have hcourse' := (r'.records_step w' op hwf').course
    have hbeside := beside_stepJournal (w := w') hop hstarted'
    obtain ⟨hkept, hdecode⟩ := step_inspects (w := w') hop hwf' hstarted'
    rw [journal, along, Journal.ownAnswers_append, hbeside.ownAnswers, List.nil_append] at hs'
    obtain ⟨howns, hreplies, hend⟩ := ih hwf (hwf'.course hcourse') hstarted (h.trans hkept)
      (hdecode.trans hd) hs hs'
    refine ⟨?_, ?_, hend⟩
    · rw [journal, along, Journal.own_append, hbeside.own, List.nil_append]
      exact howns
    · rw [along, progress, if_pos hop, List.nil_append]
      exact hreplies

/-- **Inspecting a cursor does not disturb it.** Take a reader that has started and two sessions
with it, the second with inspections put in anywhere; the requests for the result itself are
answered from one script, all others in any way. What happens to the result is the same in both,
with its requests and their answers, the same pages are asked for over the wire, and every other
operation gives the same reply. After the same operations the cursors differ in the number of rows
at most. -/
theorem inspection_unnoticed (h : r.Reachable) (hstarted : r.cursor.phase ≠ .unstarted)
    (w w' : Wire) (hops : Inspected ops ops') (hs : (r.journal w ops).ownAnswers <+: script)
    (hs' : (r.journal w' ops').ownAnswers <+: script) :
    r.cursor.Records w (r.journal w ops) (r.run w ops).2.1.cursor (r.run w ops).2.2 ∧
      r.cursor.Records w' (r.journal w' ops') (r.run w' ops').2.1.cursor (r.run w' ops').2.2 ∧
      (r.journal w' ops').own = (r.journal w ops).own ∧
      (∃ sent sent', (r.run w ops).2.2.sent = w.sent ++ sent ∧
        (r.run w' ops').2.2.sent = w'.sent ++ sent' ∧
        sent'.filter (·.method = .put) = sent.filter (·.method = .put)) ∧
      r.along progress w' ops' = r.along progress w ops ∧
      ∀ before before', before <+: ops → before' <+: ops' → Inspected before before' →
        (r.run w before).2.1.cursor.Alike (r.run w' before').2.1.cursor := by
  have hwf := h.wellFormed
  have hrecords := r.records_run w ops hwf
  have hrecords' := r.records_run w' ops' hwf
  obtain ⟨hown, hreplies, -⟩ := run_alike hops hwf hwf hstarted (.refl _) rfl hs hs'
  refine ⟨hrecords, hrecords', hown, ?_, hreplies, ?_⟩
  · refine ⟨_, _, hrecords.carried.sent_eq, hrecords'.carried.sent_eq, ?_⟩
    rw [← hrecords'.course.puts_own, ← hrecords.course.puts_own, hown]
  · rintro before before' ⟨later, rfl⟩ ⟨later', rfl⟩ hbefore
    rw [journal, along_append, Journal.ownAnswers_append] at hs hs'
    exact (run_alike hbefore hwf hwf hstarted (.refl _) rfl
      ((List.prefix_append _ _).trans hs) ((List.prefix_append _ _).trans hs')).2.2

/-- Of a cursor with two pages, the second is fetched and the rest given up. In between the rows are
counted in vain, then counted beside the result, and the cursor of that count is not deleted. -/
theorem inspection_unnoticed_counted :
    let s : Statement := ⟨"http://db", "FOR d IN c RETURN d", false, none, []⟩
    let created : Answer := .ok ⟨201, "\x7b\"id\":\"7\",\"hasMore\":true,\"result\":[1]\x7d"⟩
    let advanced : Answer := .ok ⟨200, "\x7b\"id\":\"7\",\"hasMore\":true,\"result\":[2]\x7d"⟩
    let deleted : Answer := .ok ⟨202, ""⟩
    let counted : Answer :=
      .ok ⟨201, "\x7b\"id\":\"9\",\"hasMore\":true,\"count\":3,\"result\":[1]\x7d"⟩
    let r : Reader Json := ((raw s.cursor).run (.ofAnswers [created]) [.next]).2.1
    let w : Wire := .ofAnswers [advanced, deleted]
    let w' : Wire := .ofAnswers
      [.error .timeout, advanced, counted, .ok ⟨500, "down"⟩, deleted]
    let inspected : List (Op Json) := [.isEmpty, .next, .last, .first, .close]
    r.cursor.phase ≠ .unstarted ∧ Inspected [.next, .close] inspected ∧
      r.along progress w' inspected = r.along progress w [.next, .close] ∧
      (r.run w [.next, .close]).2.1.cursor.Alike (r.run w' inspected).2.1.cursor ∧
      (r.run w [.next, .close]).2.1.cursor.total = none ∧
      (r.run w' inspected).2.1.cursor.total = some 3 := by
  intro s created advanced deleted counted r w w' inspected
  have hr : r.Reachable := ⟨s, .ok, .ofAnswers [created], [.next], rfl⟩
  have hops : Inspected [.next, .close] inspected :=
    .inspect rfl (.same _ (.inspect rfl (.inspect rfl (.same _ .nil))))
  obtain ⟨hstarted, hs, hs', htotal, htotal'⟩ : r.cursor.phase ≠ .unstarted ∧
      (r.journal w [.next, .close]).ownAnswers <+: [advanced, deleted] ∧
      (r.journal w' inspected).ownAnswers <+: [advanced, deleted] ∧
      (r.run w [.next, .close]).2.1.cursor.total = none ∧
      (r.run w' inspected).2.1.cursor.total = some 3 := by
    decide +kernel
  obtain ⟨-, -, -, -, hreplies, halike⟩ := inspection_unnoticed hr hstarted w w' hops hs hs'
  exact ⟨hstarted, hops, hreplies, halike _ _ List.prefix_rfl List.prefix_rfl hops, htotal,
    htotal'⟩

end Reader

end Pagewise
