import Pagewise.Proofs.Cursor.Faults
import Pagewise.Proofs.Json.Reading

/-!
# What answers come to

A fault is the last thing that happens in an operation, which gives the error of the fault. Errors
that no answer brings are few, and none of them comes after a fault.

* `Journal.Concludes`: a journal in which nothing follows a fault, and the result it leads to.
* `Reader.concludes_step`: the journal of every operation is one.
* **`Reader.answers_classified`**: what every answer comes to, in every operation.
-/

namespace Pagewise

/-! ## Journals with at most one fault -/

/-- What an event comes to. -/
def Event.check : Event → Except Error Unit
  | .exchange _ d a => d.check a
  | .stranded => .error (.invalidResponse .noId)
  | _ => .ok ()

namespace Journal

variable {β γ : Type} {own own' : Error → Prop} {j k before rest : Journal} {e : Event}
  {err : Error} {res : Except Error β}

/-- A journal without a fault. -/
def Fine (j : Journal) : Prop :=
  ∀ e ∈ j, e.check = .ok ()

theorem fine_nil : Fine [] :=
  List.forall_mem_nil _

theorem Fine.cons (he : e.check = .ok ()) (hj : j.Fine) : Fine (e :: j) :=
  List.forall_mem_cons.mpr ⟨he, hj⟩

/-- **A journal in which nothing follows a fault**, and the result that it leads to. A fault is the
result; without one, the only errors are an operation's own. -/
inductive Concludes {β : Type} (own : Error → Prop) : Journal → Except Error β → Prop
  | fine {j : Journal} {res : Except Error β} (hj : j.Fine)
      (hown : ∀ err, res = .error err → own err) : Concludes own j res
  | fault {j : Journal} {e : Event} {err : Error} (hj : j.Fine) (he : e.check = .error err) :
      Concludes own (j ++ [e]) (.error err)

namespace Concludes

theorem ok {b : β} (hj : j.Fine) : Concludes own j (.ok b) :=
  .fine hj nofun

theorem refused (h : own err) : Concludes own [] (.error err : Except Error β) :=
  .fine fine_nil fun _ he => Except.error.inj he ▸ h

theorem single (e : Event) : Concludes own [e] e.check := by
  cases he : e.check with
  | error _ => exact .fault (j := []) fine_nil he
  | ok _ => exact .ok (.cons he fine_nil)

theorem mono (h : Concludes own j res) (hmono : ∀ err, own err → own' err) :
    Concludes own' j res := by
  cases h with
  | fine hj hown => exact .fine hj fun err herr => hmono err (hown err herr)
  | fault hj he => exact .fault hj he

/-- What comes before without a fault changes nothing. -/
theorem behind (hj : j.Fine) (h : Concludes own k res) : Concludes own (j ++ k) res := by
  cases h with
  | fine hk hown => exact .fine (List.forall_mem_append.mpr ⟨hj, hk⟩) hown
  | fault hk he =>
    rw [← List.append_assoc]
    exact .fault (List.forall_mem_append.mpr ⟨hj, hk⟩) he

/-- A result can be turned into another one when errors stay. -/
theorem bind {f : Except Error β → Except Error γ} (h : Concludes own j res)
    (herr : ∀ err, f (.error err) = .error err)
    (hok : ∀ b err, f (.ok b) = .error err → own err) : Concludes own j (f res) := by
  cases h with
  | fine hj hown =>
    refine .fine hj fun err hf => ?_
    cases res with
    | error e =>
      obtain rfl := Except.error.inj ((herr e).symm.trans hf)
      exact hown e rfl
    | ok b => exact hok b err hf
  | fault hj he =>
    rw [herr]
    exact .fault hj he

theorem map (f : β → γ) (h : Concludes own j res) : Concludes own j (res.map f) := by
  refine h.bind (f := Except.map f) (fun _ => rfl) fun _ _ herr => ?_
  cases herr

theorem of_error (h : Concludes own j (.error err : Except Error β)) :
    Concludes own j (.error err : Except Error γ) := by
  cases h with
  | fine hj hown => exact .fine hj fun e he => hown e (congrArg Except.error (Except.error.inj he))
  | fault hj he => exact .fault hj he

theorem fine_of_ok {b : β} (h : Concludes own j (.ok b)) : j.Fine := by
  cases h with
  | fine hj _ => exact hj

/-- **A fault is the last event, and the result.** -/
theorem of_fault (h : Concludes own (before ++ e :: rest) res) (he : e.check = .error err) :
    rest = [] ∧ res = .error err := by
  generalize hj : before ++ e :: rest = j at h
  cases h with
  | fine hfine _ =>
    have hok := hfine e (hj ▸ List.mem_append_right before List.mem_cons_self)
    rw [he] at hok
    cases hok
  | @fault k e' err' hfine he' =>
    rcases List.eq_nil_or_concat rest with rfl | ⟨rest', last, rfl⟩
    · obtain ⟨-, hlast⟩ := List.append_inj' hj rfl
      obtain rfl : e = e' := List.singleton_inj.mp hlast
      rw [he] at he'
      exact ⟨rfl, congrArg Except.error (Except.error.inj he'.symm)⟩
    · rw [List.concat_eq_append, ← List.cons_append, ← List.append_assoc] at hj
      obtain ⟨rfl, -⟩ := List.append_inj' hj rfl
      have hok := hfine e (List.mem_append_right before List.mem_cons_self)
      rw [he] at hok
      cases hok

/-- **An error is a fault, or an operation's own.** -/
theorem error_cases (h : Concludes own j (.error err : Except Error β)) :
    (∃ before e, j = before ++ [e] ∧ e.check = .error err) ∨ j.Fine ∧ own err := by
  cases h with
  | fine hj hown => exact .inr ⟨hj, hown err rfl⟩
  | fault _ he => exact .inl ⟨_, _, rfl, he⟩

end Concludes

end Journal

/-! ## Operations -/

namespace Statement

variable {β : Type} {own : Error → Prop} (s : Statement) (w : Wire)

theorem concludes_discard (own : Error → Prop) (p : Page) :
    (s.discardJournal p w).Concludes own (s.discard p w).1 := by
  unfold discardJournal discard
  cases p.id with
  | none => exact .ok Journal.fine_nil
  | some id =>
    cases p.hasMore with
    | false => exact .ok Journal.fine_nil
    | true =>
      simp only [Wire.order_eq]
      exact .single (.exchange .discard (.delete id) _)

/-- The result of a demand beside the result, which the page that comes decides. -/
def besideResult (d : Demand) (f : Page → Except Error β) : Except Error β :=
  match (w.send (d.request s)).1.page with
  | .error e => .error e
  | .ok p =>
    match (s.discard p (w.send (d.request s)).2).1 with
    | .error e => .error e
    | .ok () => f p

theorem concludes_beside {p : Purpose} {d : Demand} {f : Page → Except Error β}
    (hd : ∀ a : Answer, d.check a = a.page.map fun _ => ())
    (hf : ∀ page err, (w.send (d.request s)).1.page = .ok page → f page = .error err → own err) :
    (s.besideJournal p d w).Concludes own (s.besideResult w d f) := by
  unfold besideJournal besideResult
  cases hpage : (w.send (d.request s)).1.page with
  | error e =>
    refine .fault (j := []) Journal.fine_nil ?_
    rw [Event.check, hd, hpage]
    rfl
  | ok page =>
    have hfine : Journal.Fine [.exchange p d (w.send (d.request s)).1] := by
      refine .cons ?_ Journal.fine_nil
      rw [Event.check, hd, hpage]
      rfl
    refine .behind (k := s.discardJournal page (w.send (d.request s)).2) hfine ?_
    have hdiscard := s.concludes_discard (w.send (d.request s)).2 own page
    simp only
    cases hresult : (s.discard page (w.send (d.request s)).2).1 with
    | error e =>
      rw [hresult] at hdiscard
      exact hdiscard.of_error
    | ok _ =>
      rw [hresult] at hdiscard
      exact .fine hdiscard.fine_of_ok fun err herr => hf page err hpage herr

theorem concludes_rowAt (position : Nat) :
    (s.rowJournal position w).Concludes own (s.rowAt position w).1 := by
  have hresult : (s.rowAt position w).1 =
      s.besideResult w (.create (s.queryAt position) false (some 1)) fun p => .ok p.rows.head? := by
    unfold rowAt besideResult
    rw [Wire.ask_eq]
    simp only [Demand.request]
    cases (w.send (s.creation (s.queryAt position) false (some 1))).1.page with
    | error _ => rfl
    | ok p =>
      simp only
      split <;> rename_i hd <;> rw [hd]
  rw [hresult]
  refine s.concludes_beside w (fun _ => rfl) fun page err _ herr => ?_
  cases herr

end Statement

namespace Cursor

variable (own : Error → Prop) (c : Cursor) (w : Wire)

theorem check_of_pageDemand? {c : Cursor} {count : Bool} {d : Demand}
    (h : c.pageDemand? count = some d) (a : Answer) : d.check a = a.page.map fun _ => () := by
  unfold pageDemand? at h
  split at h <;> cases h <;> rfl

theorem concludes_fetch (count : Bool) :
    Journal.Concludes own [c.fetchEvent count w] (c.fetch count w).result := by
  have hresult : (c.fetch count w).result = (c.fetchEvent count w).check := by
    rw [fetch_eq]
    unfold fetchEvent
    cases hd : c.pageDemand? count with
    | none => rfl
    | some d =>
      simp only [Event.failure?, Event.check, check_of_pageDemand? hd]
      cases (w.send (d.request c.toStatement)).1.page <;> rfl
  rw [hresult]
  exact .single _

/-- The error of a cursor that failed before. -/
inductive Spent (c : Cursor) : Error → Prop
  | failed (hphase : c.phase = .failed) : Spent c .cursorFailed

theorem concludes_next :
    (c.nextJournal w).Concludes c.Spent (c.next w).result := by
  fun_induction c.next w with
  | case1 c w hf =>
    rw [nextJournal_of_over (.inl hf)]
    exact .refused (.failed hf)
  | case2 c w hf he =>
    rw [nextJournal_of_over (.inr he)]
    exact .ok Journal.fine_nil
  | case3 c w hf he row rest hbuffer =>
    rw [nextJournal_of_row hf he hbuffer]
    exact .ok (.cons rfl Journal.fine_nil)
  | case4 c w hf he hbuffer hmore err c₁ w₁ fetched =>
    rw [nextJournal_of_error hf he hbuffer hmore fetched]
    have hfetch := concludes_fetch c.Spent c w c.count
    rw [fetched] at hfetch
    exact hfetch.of_error
  | case5 c w hf he hbuffer hmore c₁ w₁ fetched ih =>
    rw [nextJournal_of_ok hf he hbuffer hmore fetched]
    have hfetch := concludes_fetch (fun _ => False) c w c.count
    rw [fetched] at hfetch
    refine .behind (j := [_]) hfetch.fine_of_ok (ih.mono fun err hown => ?_)
    obtain ⟨hphase⟩ := hown
    exact absurd ((phase_of_fetch_ok fetched).symm.trans hphase) (by decide)
  | case6 c w hf he hbuffer hmore =>
    rw [nextJournal_of_end hf he hbuffer hmore]
    exact .ok (.cons rfl Journal.fine_nil)

theorem concludes_headRow : (c.headRowJournal w).Concludes own (c.headRow w).result := by
  unfold headRowJournal headRow
  cases c.head with
  | some _ => exact .ok Journal.fine_nil
  | none => exact c.concludes_rowAt w 0

theorem concludes_first :
    (c.firstJournal w).Concludes c.Spent (c.first w).result := by
  unfold firstJournal first
  cases hphase : c.phase with
  | failed => exact .refused (.failed hphase)
  | unstarted =>
    have hfetch := concludes_fetch c.Spent c w c.count
    simp only
    rcases hfetched : c.fetch c.count w with ⟨_ | _, c', w'⟩ <;> rw [hfetched] at hfetch
    · exact hfetch.of_error
    · exact .behind (j := [_]) hfetch.fine_of_ok (concludes_headRow _ c' w')
  | active | exhausted => exact concludes_headRow _ c w

/-- The errors of the number of rows that no answer brings; `left` is the cursor afterwards. -/
inductive Uncounted (c left : Cursor) : Error → Prop
  | failed (hphase : c.phase = .failed) : Uncounted c left .cursorFailed
  | untold (htotal : left.total = none) : Uncounted c left (.invalidResponse .noCount)

theorem uncounted_of_knownTotal {c left : Cursor} {err : Error}
    (h : left.knownTotal = .error err) : c.Uncounted left err := by
  unfold knownTotal at h
  cases htotal : left.total with
  | some n =>
    rw [htotal] at h
    cases h
  | none =>
    rw [htotal] at h
    obtain rfl := Except.error.inj h
    exact .untold htotal

theorem concludes_recount :
    (c.recountJournal w).Concludes (c.Uncounted (c.recount w).cursor) (c.recount w).result := by
  have hresult : (c.recount w).result = c.besideResult w (.create c.query true (some 1)) fun p =>
      knownTotal { c with total := p.count } := by
    unfold recount Statement.besideResult
    rw [Wire.ask_eq]
    simp only [Demand.request]
    cases (w.send (c.creation c.query true (some 1))).1.page with
    | error _ => rfl
    | ok p =>
      simp only
      split <;> rename_i hd <;> rw [hd]
  rw [hresult]
  refine c.concludes_beside w (fun _ => rfl) fun p err hpage herr => ?_
  have hcursor := (recount_cursor_wire c w).1
  simp only [after, Demand.request] at hcursor hpage
  rw [hpage] at hcursor
  rw [hcursor]
  exact uncounted_of_knownTotal herr

theorem concludes_length :
    (c.lengthJournal w).Concludes (c.Uncounted (c.length w).cursor) (c.length w).result := by
  unfold lengthJournal length
  cases c.total with
  | some _ => exact .ok Journal.fine_nil
  | none =>
    cases hphase : c.phase with
    | failed => exact .refused (.failed hphase)
    | unstarted =>
      simp only
      have hfetch := concludes_fetch (c.Uncounted (c.fetch true w).cursor) c w true
      rcases hfetched : c.fetch true w with ⟨_ | _, c', w'⟩ <;> rw [hfetched] at hfetch
      · exact hfetch.of_error
      · exact .fine hfetch.fine_of_ok fun err herr => uncounted_of_knownTotal herr
    | active | exhausted => exact c.concludes_recount w

theorem concludes_last :
    (c.lastJournal w).Concludes (c.Uncounted (c.last w).cursor) (c.last w).result := by
  unfold lastJournal last
  by_cases hf : c.phase = .failed
  · rw [if_pos hf, if_pos hf]
    exact .refused (.failed hf)
  · rw [if_neg hf, if_neg hf]
    have hlength := c.concludes_length w
    rcases hcount : c.length w with ⟨_ | _ | n, c', w'⟩ <;> rw [hcount] at hlength
    · exact hlength.of_error
    · exact .ok hlength.fine_of_ok
    · exact .behind hlength.fine_of_ok (c'.concludes_rowAt w' n)

theorem concludes_close : (c.closeJournal w).Concludes own (c.close w).result := by
  have hclosed : Journal.Fine c.closedJournal := by
    unfold closedJournal
    split
    · exact Journal.fine_nil
    · exact .cons rfl Journal.fine_nil
  have hcloses := c.closes w
  generalize c.closeJournal w = j, c.close w = o at hcloses
  cases hcloses with
  | free => exact .ok hclosed
  | released _ _ hsuccess =>
    refine .ok (.cons ?_ hclosed)
    exact Answer.check_eq_ok_iff.mpr ⟨_, rfl, hsuccess⟩
  | kept _ hcheck => exact .fault (j := []) Journal.fine_nil hcheck

end Cursor

namespace Reader

variable {α : Type} {r : Reader α} {w : Wire} {op : Op α} {err : Error}

/-- **The errors that no answer brings.** -/
inductive Owns (r : Reader α) (w : Wire) (op : Op α) : Error → Prop
  /-- The cursor failed before. -/
  | failed (hphase : r.cursor.phase = .failed) : Owns r w op .cursorFailed
  /-- The number of rows is needed, and no page told it. -/
  | uncounted (hop : op = .length ∨ op = .isEmpty ∨ op = .last)
      (htotal : (r.step w op).2.1.cursor.total = none) : Owns r w op (.invalidResponse .noCount)
  /-- The decoder refuses a row. -/
  | row {row : Json} {err : Error} (hop : op = .next ∨ op = .first ∨ op = .last)
      (hrow : r.decode row = .error err) : Owns r w op err

theorem owns_of_spent (h : r.cursor.Spent err) : r.Owns w op err := by
  obtain ⟨hphase⟩ := h
  exact .failed hphase

theorem owns_of_uncounted (hop : op = .length ∨ op = .isEmpty ∨ op = .last)
    (h : r.cursor.Uncounted (r.step w op).2.1.cursor err) : r.Owns w op err := by
  cases h with
  | failed hphase => exact .failed hphase
  | untold htotal => exact .uncounted hop htotal

theorem concludes_rowReply {j : Journal} {row : Except Error (Option Json)}
    (hop : op = .next ∨ op = .first ∨ op = .last) (h : j.Concludes (r.Owns w op) row) :
    j.Concludes (r.Owns w op) (r.rowReply row) := by
  refine h.bind (fun _ => rfl) fun found err herr => ?_
  cases found with
  | none => cases herr
  | some value =>
    simp only [rowReply, Decoder.apply] at herr
    cases hrow : r.decode value with
    | ok _ =>
      rw [hrow] at herr
      cases herr
    | error e =>
      rw [hrow] at herr
      obtain rfl := Except.error.inj herr
      exact .row hop hrow

/-- **In every operation nothing follows a fault.** -/
theorem concludes_step (r : Reader α) (w : Wire) (op : Op α) :
    (r.stepJournal w op).Concludes (r.Owns w op) (r.step w op).1 := by
  cases op with
  | next =>
    have hnext : (r.cursor.nextJournal w).Concludes (r.Owns w .next) (r.cursor.next w).result :=
      (r.cursor.concludes_next w).mono fun _ => owns_of_spent
    exact concludes_rowReply (.inl rfl) hnext
  | first =>
    have hfirst : (r.cursor.firstJournal w).Concludes (r.Owns w .first) (r.cursor.first w).result :=
      (r.cursor.concludes_first w).mono fun _ => owns_of_spent
    exact concludes_rowReply (.inr (.inl rfl)) hfirst
  | last =>
    have hlast : (r.cursor.lastJournal w).Concludes (r.Owns w .last) (r.cursor.last w).result :=
      (r.cursor.concludes_last w).mono fun _ => owns_of_uncounted (.inr (.inr rfl))
    exact concludes_rowReply (.inr (.inr rfl)) hlast
  | length =>
    have hlength : (r.cursor.lengthJournal w).Concludes (r.Owns w .length)
        (r.cursor.length w).result :=
      (r.cursor.concludes_length w).mono fun _ => owns_of_uncounted (.inl rfl)
    exact hlength.map Reply.length
  | isEmpty =>
    have hlength : (r.cursor.lengthJournal w).Concludes (r.Owns w .isEmpty)
        (r.cursor.length w).result :=
      (r.cursor.concludes_length w).mono fun _ => owns_of_uncounted (.inr (.inl rfl))
    exact (hlength.map (· == 0)).map Reply.isEmpty
  | close => exact (Cursor.concludes_close _ r.cursor w).map fun () => Reply.done
  | decodeWith _ => exact .ok Journal.fine_nil

/-- **Where an error of an operation comes from.** -/
inductive Blames (r : Reader α) (w : Wire) (op : Op α) : Error → Prop
  /-- The answer to its last request is a fault. -/
  | answer {before : Journal} {p : Purpose} {d : Demand} {a : Answer} {err : Error}
      (hjournal : r.stepJournal w op = before ++ [.exchange p d a]) (hfault : d.Faults a err) :
      Blames r w op err
  /-- A page was due at the end, and there was no way to ask for it. -/
  | unnamed {before : Journal} (hjournal : r.stepJournal w op = before ++ [.stranded]) :
      Blames r w op (.invalidResponse .noId)
  /-- No answer was a fault. -/
  | own {err : Error}
      (hserved : ∀ p d a, .exchange p d a ∈ r.stepJournal w op → ∀ e, ¬ Demand.Faults d a e)
      (hown : r.Owns w op err) : Blames r w op err

theorem blames_of_error (h : (r.step w op).1 = .error err) : r.Blames w op err := by
  have hconcludes := r.concludes_step w op
  rw [h] at hconcludes
  rcases hconcludes.error_cases with ⟨before, e, hjournal, he⟩ | ⟨hfine, hown⟩
  · cases e with
    | exchange p d a => exact .answer hjournal (Demand.check_eq_error_iff.mp he)
    | stranded =>
      obtain rfl := Except.error.inj he
      exact .unnamed hjournal
    | hand | exhaust | abandon => cases he
  · refine .own (fun p d a hmem e hfault => ?_) hown
    have hok := hfine _ hmem
    rw [Event.check, Demand.check_eq_error_iff.mpr hfault] at hok
    cases hok

/-- **What every answer comes to.** Whatever a reachable reader is asked and whatever is answered:
the journal is what went over the wire. A fault is the last exchange of the operation, which gives
the error of the fault, and it makes the cursor fail exactly when it answers a request for a page of
the cursor's own result. Every error comes from a fault, from a page that could not be asked for, or
from the operation itself when no answer was a fault. A cursor fails in no other way. An answer is
no fault when it tells of success and brings a page, which the deletion of a cursor does not need;
the page is what the body is written as, whatever the order of its members and whatever members with
other names it has, and so is what the server says when it refuses. -/
theorem answers_classified (h : r.Reachable) (w : Wire) (op : Op α) :
    r.cursor.Records w (r.stepJournal w op) (r.step w op).2.1.cursor (r.step w op).2.2 ∧
      (∀ before p d a rest err, r.stepJournal w op = before ++ .exchange p d a :: rest →
        Demand.Faults d a err →
          rest = [] ∧ (r.step w op).1 = .error err ∧
            ((r.step w op).2.1.cursor.phase = .failed ↔ p = .page)) ∧
      (∀ err, (r.step w op).1 = .error err → r.Blames w op err) ∧
      (r.cursor.phase ≠ .failed → (r.step w op).2.1.cursor.phase = .failed →
        (∃ before d a err,
            r.stepJournal w op = before ++ [.exchange .page d a] ∧ Demand.Faults d a err) ∨
          ∃ before, r.stepJournal w op = before ++ [.stranded]) ∧
      (∀ d a, (∀ err, ¬ Demand.Faults d a err) ↔
        ∃ response, a = .ok response ∧ (200 ≤ response.status ∧ response.status < 300) ∧
          ((∃ id, d = .delete id) ∨ ∃ p : Page, p.WrittenAs response.text)) ∧
      (∀ (response : Response) (p : Page), response.page = .ok p ↔
        (200 ≤ response.status ∧ response.status < 300) ∧ p.WrittenAs response.text) ∧
      ∀ text text' members members' extra, Json.Node.ofText? text = some (.object members) →
        Json.Node.ofText? text' = some (.object members') → members'.Perm (members ++ extra) →
          ((∀ m ∈ extra, Json.Node.Skipped Page.fieldNames m) →
            ∀ p : Page, p.WrittenAs text' ↔ p.WrittenAs text) ∧
          ((∀ m ∈ extra, Json.Node.Skipped Refusal.fieldNames m) →
            ∀ refusal : Refusal, refusal.WrittenAs text' ↔ refusal.WrittenAs text) := by
  have hwf := h.wellFormed
  have hrecords := r.records_step w op hwf
  refine ⟨hrecords, ?_, fun _ => blames_of_error, ?_, fun _ _ => Demand.forall_not_faults_iff,
    fun _ _ => Response.page_eq_ok_iff, ?_⟩
  · intro before p d a rest err hjournal hfault
    have hconcludes := r.concludes_step w op
    have hcourse := hrecords.course
    rw [hjournal] at hconcludes hcourse
    obtain ⟨rfl, hresult⟩ := hconcludes.of_fault (Demand.check_eq_error_iff.mpr hfault)
    obtain ⟨m, hbefore, allowed, hlater⟩ := hcourse.split
    have hleft : m.after (.exchange p d a) = (r.step w op).2.1.cursor := hlater.replay_eq
    refine ⟨rfl, hresult, ?_⟩
    rw [← hleft]
    exact (hwf.course hbefore).failed_after_fault_iff allowed hfault
  · intro hopen hfailed
    obtain ⟨before, e, err, hjournal, allowed, hfails⟩ :=
      hrecords.course.ends_with_failure hwf hopen hfailed
    rcases hfails.eq_fault allowed with ⟨d, a, rfl, hfault⟩ | rfl
    · exact .inl ⟨before, d, a, err, hjournal, hfault⟩
    · exact .inr ⟨before, hjournal⟩
  · intro text text' members members' extra hnode hnode' hperm
    exact ⟨Page.writtenAs_of_perm hnode hnode' hperm, Refusal.writtenAs_of_perm hnode hnode' hperm⟩

/-- A refusal whose body tells a number and a message, as it is printed and with its members in
another order and one more among them: the message, the number and the status are returned, and the
cursor has failed. -/
theorem answers_classified_refused :
    let s : Statement := ⟨"http://db", "FOR d IN c RETURN d", false, none, []⟩
    let said : Json :=
      .object [("errorNum", .number (.int 1600)), ("errorMessage", .string "cursor not found")]
    let shuffled : Json :=
      .object [("errorMessage", .string "cursor not found"), ("code", .number (.int 404)),
        ("errorNum", .number (.int 1600))]
    let r := raw s.cursor
    ∀ text ∈ [said.print, shuffled.print],
      (r.step (.ofAnswers [.ok ⟨404, text⟩]) .length).1 =
          .error (.refused "cursor not found" 1600 404) ∧
        (r.step (.ofAnswers [.ok ⟨404, text⟩]) .length).2.1.cursor.phase = .failed := by
  intro s said shuffled r
  have hreachable : r.Reachable := ⟨s, .ok, .ofAnswers [], [], rfl⟩
  have hsaid : (⟨some "cursor not found", some 1600⟩ : Refusal).WrittenAs said.print :=
    Refusal.ofText?_eq_some_iff.mp (by decide +kernel)
  obtain ⟨-, -, -, -, -, -, hsame⟩ := answers_classified hreachable (.ofAnswers []) .length
  obtain ⟨-, hsame⟩ := hsame said.print shuffled.print _ _
    [(some "code", .number (some (.int 404)))]
    (Json.Cuts.ofText? (Json.cuts_printObject _ ⟨rfl, trivial, trivial⟩))
    (Json.Cuts.ofText? (Json.cuts_printObject _ ⟨trivial, rfl, rfl, trivial⟩))
    (@List.perm_append_comm _ [_, _] [_])
  have hshuffled : (⟨some "cursor not found", some 1600⟩ : Refusal).WrittenAs shuffled.print :=
    (hsame (List.forall_mem_singleton.mpr ⟨"code", rfl, by decide⟩) _).mpr hsaid
  intro text htext
  have hwritten : (⟨some "cursor not found", some 1600⟩ : Refusal).WrittenAs text := by
    rcases List.mem_cons.mp htext with rfl | htext
    · exact hsaid
    · obtain rfl := List.mem_singleton.mp htext
      exact hshuffled
  obtain ⟨-, hfaults, -⟩ := answers_classified hreachable (.ofAnswers [.ok ⟨404, text⟩]) .length
  obtain ⟨-, hreply, hfailed⟩ := hfaults [] .page (.create s.query true none) (.ok ⟨404, text⟩) [] _
    rfl (.told (by simp) hwritten)
  exact ⟨hreply, hfailed.mpr rfl⟩

end Reader

end Pagewise
