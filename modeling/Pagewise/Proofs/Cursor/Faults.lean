import Pagewise.Proofs.Cursor.Terminal
import Pagewise.Proofs.Exchange.Bodies

/-!
# Faults

Every answer either serves the request it is for or is a fault, and a fault is an error of its own
kind: there is no response, the server refuses, or the body is no page where one was asked for.

* `Demand.Faults`: the answers to a request that are faults, and their errors.
* **`Demand.check_eq_error_iff`**: they are the answers that a cursor takes for errors.
* **`Demand.forall_not_faults_iff`**: all others tell of success and bring what was asked for.
* `WellFormed.failed_after_fault_iff`, `FailsBy.eq_fault`: which faults make a cursor fail.
-/

namespace Pagewise

/-! ## Faults -/

namespace Demand

/-- **The answers to a request that are faults**, and their errors. -/
inductive Faults (d : Demand) : Answer → Error → Prop
  /-- There is no response. -/
  | transport {e : TransportError} : Faults d (.error e) (.transport e)
  /-- The server refuses, and the body says why. What it does not say is the body itself, and
  zero. -/
  | told {response : Response} {refusal : Refusal}
      (hstatus : ¬ (200 ≤ response.status ∧ response.status < 300))
      (hbody : refusal.WrittenAs response.text) :
      Faults d (.ok response) (.refused (refusal.message.getD response.text)
        (refusal.number.getD 0) response.status)
  /-- The server refuses, and the body is no refusal. -/
  | untold {response : Response} (hstatus : ¬ (200 ≤ response.status ∧ response.status < 300))
      (hbody : ∀ refusal : Refusal, ¬ refusal.WrittenAs response.text) :
      Faults d (.ok response) (.refused response.text 0 response.status)
  /-- A page was asked for, and the body is none. -/
  | unreadable {response : Response} (hdemand : ∀ id, d ≠ .delete id)
      (hstatus : 200 ≤ response.status ∧ response.status < 300)
      (hbody : ∀ p : Page, ¬ p.WrittenAs response.text) : Faults d (.ok response) .json

/-- What an answer comes to: a page is needed, or success alone. -/
def check (d : Demand) (a : Answer) : Except Error Unit :=
  match d with
  | .delete _ => a.check
  | .create _ _ _ | .advance _ => a.page.map fun _ => ()

end Demand

theorem Response.isSuccess_iff {r : Response} :
    r.isSuccess = true ↔ 200 ≤ r.status ∧ r.status < 300 := by
  simp [isSuccess]

theorem Response.check_eq_ok_iff {r : Response} :
    r.check = .ok () ↔ 200 ≤ r.status ∧ r.status < 300 := by
  rw [← isSuccess_iff, check]
  cases r.isSuccess <;> simp

theorem Response.page_eq_ok_iff {r : Response} {p : Page} :
    r.page = .ok p ↔ (200 ≤ r.status ∧ r.status < 300) ∧ p.WrittenAs r.text := by
  rw [← check_eq_ok_iff, ← Page.ofText?_eq_some_iff, page]
  cases r.check with
  | error e => simp
  | ok _ => cases Page.ofText? r.text <;> simp

namespace Demand

variable {d : Demand} {a : Answer} {err : Error}

theorem faults_of_refusal {response : Response} (h : response.check = .error err) :
    d.Faults (.ok response) err := by
  have hstatus : ¬ (200 ≤ response.status ∧ response.status < 300) := by
    rw [← Response.check_eq_ok_iff, h]
    simp
  rw [Response.check, if_neg (mt Response.isSuccess_iff.mp hstatus)] at h
  obtain rfl := Except.error.inj h
  unfold Refusal.ofText
  cases hbody : Refusal.ofText? response.text with
  | some refusal => exact .told hstatus (Refusal.ofText?_eq_some_iff.mp hbody)
  | none => exact .untold hstatus (Refusal.ofText?_eq_none_iff.mp hbody)

theorem check_of_refusal {response : Response} (h : response.check = .error err) :
    d.check (.ok response) = .error err := by
  cases d with
  | delete _ => exact h
  | create | advance =>
    simp only [check, Answer.page, Response.page, h]
    rfl

theorem check_of_success {response : Response} (h : response.check = .ok ())
    (hdemand : ∀ id, d ≠ .delete id) :
    d.check (.ok response) = (Page.ofText? response.text).elim (.error .json) fun _ => .ok () := by
  cases d with
  | delete id => exact absurd rfl (hdemand id)
  | create | advance =>
    simp only [check, Answer.page, Response.page, h]
    cases Page.ofText? response.text <;> rfl

/-- **The faults are the answers that are checked in vain.** -/
theorem check_eq_error_iff : d.check a = .error err ↔ d.Faults a err := by
  constructor
  · intro h
    cases a with
    | error e =>
      obtain rfl : Error.transport e = err := by cases d <;> exact Except.error.inj h
      exact .transport
    | ok response =>
      cases hcheck : response.check with
      | error e =>
        obtain rfl := Except.error.inj ((check_of_refusal hcheck).symm.trans h)
        exact faults_of_refusal hcheck
      | ok _ =>
        have hdemand : ∀ id, d ≠ .delete id := by
          rintro id rfl
          cases hcheck.symm.trans h
        rw [check_of_success hcheck hdemand] at h
        cases hbody : Page.ofText? response.text with
        | some p =>
          rw [hbody] at h
          cases h
        | none =>
          rw [hbody] at h
          obtain rfl := Except.error.inj h
          exact .unreadable hdemand (Response.check_eq_ok_iff.mp hcheck)
            (Page.ofText?_eq_none_iff.mp hbody)
  · intro h
    cases h with
    | transport => cases d <;> rfl
    | @told response refusal hstatus hbody =>
      apply check_of_refusal
      rw [Response.check, if_neg (mt Response.isSuccess_iff.mp hstatus), Refusal.ofText,
        Refusal.ofText?_eq_some_iff.mpr hbody]
      rfl
    | @untold response hstatus hbody =>
      apply check_of_refusal
      rw [Response.check, if_neg (mt Response.isSuccess_iff.mp hstatus), Refusal.ofText,
        Refusal.ofText?_eq_none_iff.mpr hbody]
      rfl
    | @unreadable response hdemand hstatus hbody =>
      rw [check_of_success (Response.check_eq_ok_iff.mpr hstatus) hdemand,
        Page.ofText?_eq_none_iff.mpr hbody]
      rfl

/-- **An answer is no fault when it serves the request**: it tells of success, and brings a page
where one was asked for. -/
theorem forall_not_faults_iff :
    (∀ err, ¬ d.Faults a err) ↔
      ∃ response, a = .ok response ∧ (200 ≤ response.status ∧ response.status < 300) ∧
        ((∃ id, d = .delete id) ∨ ∃ p : Page, p.WrittenAs response.text) := by
  constructor
  · intro h
    cases a with
    | error e => exact absurd .transport (h _)
    | ok response =>
      have hstatus : 200 ≤ response.status ∧ response.status < 300 := by
        rw [← Response.check_eq_ok_iff]
        cases hcheck : response.check with
        | error e => exact absurd (faults_of_refusal hcheck) (h e)
        | ok _ => rfl
      refine ⟨response, rfl, hstatus, ?_⟩
      cases d with
      | delete id => exact .inl ⟨id, rfl⟩
      | create | advance =>
        cases hbody : Page.ofText? response.text with
        | some p => exact .inr ⟨p, Page.ofText?_eq_some_iff.mp hbody⟩
        | none =>
          refine absurd (.unreadable ?_ hstatus (Page.ofText?_eq_none_iff.mp hbody)) (h _)
          rintro id ⟨⟩
  · rintro ⟨response, rfl, hstatus, hbody⟩ err hfault
    cases hfault with
    | told hrefused | untold hrefused => exact hrefused hstatus
    | unreadable hdemand _ hnone =>
      rcases hbody with ⟨id, rfl⟩ | ⟨p, hp⟩
      · exact hdemand id rfl
      · exact hnone p hp

end Demand

/-! ## Faults that make a cursor fail -/

namespace Cursor

variable {c : Cursor} {p : Purpose} {d : Demand} {a : Answer} {e : Event} {err : Error}

/-- **A fault makes a cursor fail when it answers a request for a page of the result.** -/
theorem WellFormed.failed_after_fault_iff (h : c.WellFormed) (allowed : c.Allows (.exchange p d a))
    (hfault : d.Faults a err) : (c.after (.exchange p d a)).phase = .failed ↔ p = .page := by
  constructor
  · intro hfailed
    by_cases hp : p = .page
    · exact hp
    · rw [after_phase_of_beside hp] at hfailed
      exact absurd allowed (h.not_allows_of_failed hfailed)
  · rintro rfl
    have hcheck := Demand.check_eq_error_iff.mpr hfault
    have hpage : ∃ e, a.page = .error e := by
      cases hpage : a.page with
      | error e => exact ⟨e, rfl⟩
      | ok page =>
        cases allowed <;> rw [Demand.check, hpage] at hcheck <;> cases hcheck
    obtain ⟨e, hpage⟩ := hpage
    rw [Cursor.after, hpage]
    rfl

/-- What makes a cursor fail is a fault, or a page that could not be asked for. -/
theorem FailsBy.eq_fault (h : c.FailsBy e err) (allowed : c.Allows e) :
    (∃ d a, e = .exchange .page d a ∧ d.Faults a err) ∨ e = .stranded := by
  cases h with
  | transport => exact .inl ⟨_, _, rfl, .transport⟩
  | refused hstatus =>
    refine .inl ⟨_, _, rfl, Demand.faults_of_refusal ?_⟩
    rw [Response.check, hstatus]
    rfl
  | unreadable hstatus hbody =>
    refine .inl ⟨_, _, rfl, .unreadable ?_ (Response.isSuccess_iff.mp hstatus)
      (Page.ofText?_eq_none_iff.mp hbody)⟩
    rintro id rfl
    cases allowed
  | unnamed => exact .inr rfl

end Cursor

end Pagewise
