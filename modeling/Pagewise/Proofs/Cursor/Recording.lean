import Pagewise.Proofs.Cursor.Refinement

/-!
# What is recorded stays

Of the whole result a cursor records the number of rows and the first row. The number is the first
one that the server told, with a page of the result or when the rows were counted beside it, and
what it tells later is not heeded. The first row is that of the page that came with the creation.
From then on they are told without asking, as long as the cursor lives, and the number also when it
has failed.

* `Course.total_eq`: the number of rows is the first one that was told.
* `Course.head_eq`: the first row is never recorded anew.
* **`Reader.session_recorded`**: both stay along every session and are told from what was recorded.
-/

namespace Pagewise

/-- The number of rows that an event told of, if it told one. -/
def Event.count? : Event → Option Nat
  | .exchange .page _ answer | .exchange .count _ answer => answer.page.toOption.bind Page.count
  | _ => none

/-- The numbers of rows that the server told, in the order they came. -/
def Journal.counts (j : Journal) : List Nat :=
  j.filterMap Event.count?

theorem Journal.head?_counts_concat (j : Journal) (e : Event) :
    (counts (j ++ [e])).head? = j.counts.head?.or e.count? := by
  rw [counts, List.filterMap_append, List.head?_append, List.filterMap_cons]
  cases e.count? <;> rfl

namespace Cursor

variable {s : Statement} {c c' : Cursor} {w : Wire} {j : Journal} {e : Event}

/-! ## The number of rows -/

/-- A number is recorded when it is the first one. -/
theorem Allows.total_after (allowed : c.Allows e) : (c.after e).total = c.total.or e.count? := by
  cases allowed with
  | @create _ answer | @advance _ answer =>
    simp only [after, Event.count?]
    cases answer.page with
    | ok p => rfl
    | error _ => exact Option.or_none.symm
  | @count answer _ htotal =>
    simp only [after, Event.count?]
    cases answer.page with
    | ok p =>
      rw [htotal]
      rfl
    | error _ => exact Option.or_none.symm
  | stranded | row | discard | close | hand | exhaust | abandon => exact Option.or_none.symm

/-- **The number of rows is the first one that was told.** -/
theorem Course.total_eq (hc : c.Course j c') : c'.total = c.total.or j.counts.head? := by
  induction hc with
  | start => exact Option.or_none.symm
  | @step j m e _ allowed ih =>
    calc (m.after e).total
        = (c.total.or j.counts.head?).or e.count? := by rw [allowed.total_after, ih]
      _ = c.total.or (Journal.counts (j ++ [e])).head? := by
        rw [Option.or_assoc, Journal.head?_counts_concat]

theorem length_of_total {n : Nat} (htotal : c.total = some n) : c.length w = ⟨.ok n, c, w⟩ := by
  rw [length, htotal]

/-! ## The first row -/

variable {head : Option Json}

theorem WellFormed.head_after (h : c.WellFormed) (allowed : c.Allows e)
    (hhead : c.head = some head) : (c.after e).head = some head := by
  cases allowed with
  | create hphase => cases hhead.symm.trans (h.unstarted hphase).2.2.2.1
  | @advance _ answer hphase =>
    have hstarted : ¬ c.phase = .unstarted := by
      rw [hphase]
      decide
    simp only [Cursor.after]
    cases answer.page with
    | ok p =>
      simp only [Cursor.receive, if_neg hstarted]
      exact hhead
    | error _ => exact hhead
  | @count answer =>
    simp only [Cursor.after]
    cases answer.page <;> exact hhead
  | stranded | row | discard | close | hand | exhaust | abandon => exact hhead

/-- **The first row is never recorded anew.** -/
theorem Course.head_eq (hc : c.Course j c') (h : c.WellFormed) (hhead : c.head = some head) :
    c'.head = some head := by
  induction hc with
  | start => exact hhead
  | step before allowed ih => exact (h.course before).head_after allowed ih

/-- The first row of the page that came with the creation is recorded. -/
theorem Course.head_of_created (hc : s.cursor.Course j c) {query : String} {count : Bool}
    {batchSize : Option Nat} {a : Answer} {p : Page}
    (hmem : .exchange .page (.create query count batchSize) a ∈ j) (hpage : a.page = .ok p) :
    c.head = some p.rows.head? := by
  obtain ⟨before, rest, rfl⟩ := List.append_of_mem hmem
  obtain ⟨m, hbefore, allowed, hrest⟩ := hc.split
  have hwf := (wellFormed_cursor s).course hbefore
  refine hrest.head_eq (hwf.after allowed) ?_
  cases allowed with
  | create hphase =>
    simp only [after, hpage, receive, if_pos hphase]

/-- What was recorded is told without asking. -/
theorem first_of_head (h : c.WellFormed) (hopen : c.phase ≠ .failed)
    (hhead : c.head = some head) : c.first w = ⟨.ok head, c, w⟩ := by
  unfold first
  cases hphase : c.phase with
  | failed => exact absurd hphase hopen
  | unstarted => cases hhead.symm.trans (h.unstarted hphase).2.2.2.1
  | active | exhausted => simp only [headRow, hhead]

end Cursor

namespace Reader

variable {α : Type}

/-- **What is recorded stays.** Of every cursor of a session the number of rows is the first one
that the server told. Whatever is asked and answered later, it stays, and `length` and `isEmpty`
tell it and send nothing, also when the cursor has failed. The first row of the page that came with
the creation stays recorded too, and `first` of a cursor that has not failed sends nothing and has
the decoder of the time decide about that row. -/
theorem session_recorded (s : Statement) (decode : Decoder α) (w : Wire) (ops : List (Op α))
    (w' : Wire) (later : List (Op α)) (v : Wire) :
    let start : Reader α := ⟨s.cursor, decode⟩
    let r := (start.run w ops).2.1
    let r' := (r.run w' later).2.1
    let j := start.journal w ops
    s.cursor.Records w j r.cursor (start.run w ops).2.2 ∧
      r.cursor.total = j.counts.head? ∧
      (∀ n, r.cursor.total = some n →
        r'.cursor.total = some n ∧ r'.step v .length = (.ok (.length n), r', v) ∧
          r'.step v .isEmpty = (.ok (.isEmpty (n == 0)), r', v)) ∧
      ∀ query count batchSize a p, .exchange .page (.create query count batchSize) a ∈ j →
        a.page = .ok p →
          r.cursor.head = some p.rows.head? ∧ r'.cursor.head = some p.rows.head? ∧
            (r'.cursor.phase ≠ .failed →
              r'.step v .first = (r'.decode.verdict p.rows.head?, r', v)) := by
  intro start r r' j
  have hrecords := start.records_run w ops (Cursor.wellFormed_cursor s)
  have hwf : r.cursor.WellFormed := (Cursor.wellFormed_cursor s).course hrecords.course
  have hlater := (r.records_run w' later hwf).course
  have hwf' : r'.cursor.WellFormed := hwf.course hlater
  refine ⟨hrecords, hrecords.course.total_eq, fun n hn => ?_,
    fun query count batchSize a p hmem hpage => ?_⟩
  · have htotal : r'.cursor.total = some n := by
      rw [hlater.total_eq, hn, Option.some_or]
    refine ⟨htotal, ?_, ?_⟩
    · rw [step, Cursor.length_of_total htotal]
      rfl
    · rw [step, Cursor.isEmpty, Cursor.length_of_total htotal]
      rfl
  · have hhead := hrecords.course.head_of_created hmem hpage
    have hhead' : r'.cursor.head = some p.rows.head? := hlater.head_eq hwf hhead
    refine ⟨hhead, hhead', fun hopen => ?_⟩
    rw [step, Cursor.first_of_head hwf' hopen hhead', after, rowReply_eq]
    rfl

/-- The number of rows is learnt when they are counted beside the result, although the cursor of
that count is not deleted. The next page tells another number, and the one after that does not come:
the first number is told still. -/
theorem session_recorded_failed :
    let s : Statement := ⟨"http://db", "FOR d IN c RETURN d.name", false, none, []⟩
    let created : Answer := .ok ⟨201, "\x7b\"id\":\"7\",\"hasMore\":true,\"result\":[\"a\"]\x7d"⟩
    let counted : Answer := .ok ⟨201, "\x7b\"id\":\"9\",\"hasMore\":true,\"count\":3\x7d"⟩
    let advanced : Answer := .ok ⟨200, "\x7b\"hasMore\":true,\"count\":99,\"result\":[\"b\"]\x7d"⟩
    let w : Wire := .ofAnswers [created, counted, .ok ⟨500, "down"⟩]
    let w' : Wire := .ofAnswers [advanced, .error .timeout]
    let v : Wire := .ofAnswers []
    let r := ((raw s.cursor).run w [.next, .length]).2.1
    let fetched := (r.run w' [.next]).2.1
    let failed := (r.run w' [.next, .next]).2.1
    r.cursor.total = some 3 ∧ failed.cursor.phase = .failed ∧
      failed.step v .length = (.ok (.length 3), failed, v) ∧
      fetched.step v .first = (.ok (.row (some (.string "a"))), fetched, v) := by
  intro s created counted advanced w w' v r fetched failed
  obtain ⟨htotal, hfailed, hopen, hany⟩ : r.cursor.total = some 3 ∧
      failed.cursor.phase = .failed ∧ fetched.cursor.phase ≠ .failed ∧
      ((raw s.cursor).journal w [.next, .length]).any (fun e =>
        e.page?.isSome && e.exchange? == some (.create s.query false none, created)) = true := by
    decide +kernel
  have hpage := @page_of_strings created (some "7") true none ["a"] (by decide +kernel)
  obtain ⟨e, hmem, he⟩ := List.any_eq_true.mp hany
  rw [Bool.and_eq_true, beq_iff_eq] at he
  obtain ⟨hbrought, hasked⟩ := he
  obtain rfl : e = .exchange .page (.create s.query false none) created := by
    cases e with
    | exchange purpose d a =>
      cases hasked
      cases purpose with
      | page => rfl
      | count | row | discard | close => cases hbrought
    | stranded | hand | exhaust | abandon => cases hasked
  obtain ⟨-, -, hcounted, -⟩ :=
    session_recorded s .ok w [.next, .length] w' [.next, .next] v
  obtain ⟨-, -, -, hcreated⟩ := session_recorded s .ok w [.next, .length] w' [.next] v
  exact ⟨htotal, hfailed, (hcounted 3 htotal).2.1,
    (hcreated _ _ _ _ _ hmem hpage).2.2 hopen⟩

end Reader

end Pagewise
