import Pagewise.Cursor.Decoder
import Pagewise.Proofs.Cursor.Protocol
import Pagewise.Proofs.Cursor.Terminal

/-!
# What one pull takes

`next` fetches pages until one of them settles the matter. A page without rows that announces more
does not, so any number of pages can be passed over in one call; what bounds them is the number of
answers to come. Which answers are taken is decided by the answers alone: those that are passed
over, and the first other one.

* `Cursor.Passes`: the answers that a pull passes over.
* `Cursor.Ends`: the answer that settles it, and how.
* `Cursor.Pulls.unique`: what a pull comes to is decided by the answers.
* `Cursor.nextWithin_eq`: a pull is over within one round more than there are answers.
* **`Reader.session_pull`**: what `next` sends, takes and gives, of every cursor of a session.
-/

namespace Pagewise

namespace Cursor

/-! ## Rounds -/

/-- The rounds of `next`, cut off after so many of them. -/
def nextWithin : Nat → Cursor → Wire → Option (Outcome (Option Json))
  | 0, _, _ => none
  | rounds + 1, c, w =>
    if c.phase = .failed then some ⟨.error .cursorFailed, c, w⟩
    else if c.phase = .exhausted then some ⟨.ok none, c, w⟩
    else match c.buffer with
      | row :: rest => some ⟨.ok (some row), { c with buffer := rest }, w⟩
      | [] =>
        if c.phase = .unstarted ∨ c.hasMore then
          match c.fetch c.count w with
          | ⟨.error e, c, w⟩ => some ⟨.error e, c, w⟩
          | ⟨.ok (), c, w⟩ => nextWithin rounds c w
        else some ⟨.ok none, c.finish, w⟩

variable {c c' m : Cursor} {w : Wire} {rounds : Nat} {passed rest left : List Answer}

/-- **A pull ends**: each round but the last takes an answer away. -/
theorem nextWithin_eq (h : w.answers.length < rounds) :
    nextWithin rounds c w = some (c.next w) := by
  induction rounds generalizing c w with
  | zero => exact absurd h (Nat.not_lt_zero _)
  | succ rounds ih =>
    unfold nextWithin
    by_cases hf : c.phase = .failed
    · rw [if_pos hf, next_of_failed hf]
    · by_cases he : c.phase = .exhausted
      · rw [if_neg hf, if_pos he, next_of_exhausted he]
      · rw [if_neg hf, if_neg he]
        cases hbuffer : c.buffer with
        | cons row rows => simp only [next_of_row hf he hbuffer]
        | nil =>
          by_cases hmore : c.phase = .unstarted ∨ c.hasMore
          · simp only [if_pos hmore]
            rcases hfetch : c.fetch c.count w with ⟨_ | _, c₁, w₁⟩
            · simp only [next_of_error hf he hbuffer hmore hfetch]
            · have hfewer := answers_length_lt_of_fetch hfetch
              simp only [next_of_ok hf he hbuffer hmore hfetch]
              exact ih (by omega)
          · simp only [if_neg hmore, next_of_end hf he hbuffer hmore]

/-! ## The answers that are taken -/

/-- A page is due: nothing was fetched yet, or no row is left and more were announced. -/
def Due (c : Cursor) : Prop :=
  c.phase = .unstarted ∧ c.buffer = [] ∨ c.phase = .active ∧ c.buffer = [] ∧ c.hasMore = true

/-- There is a way to ask for the page that is due: only a cursor that was created and never named
has none. -/
def CanAsk (c : Cursor) : Prop :=
  c.phase = .unstarted ∨ c.id ≠ none

/-- **The answers that a pull passes over**, and the cursor that they leave: each was asked for, and
brings a page without rows that announces more. -/
inductive Passes : Cursor → List Answer → Cursor → Prop
  | start (c : Cursor) : Passes c [] c
  | page {c m : Cursor} {a : Answer} {as : List Answer} {p : Page} (hask : c.CanAsk)
      (hpage : a.page = .ok p) (hrows : p.rows = []) (hmore : p.hasMore = true)
      (later : Passes (c.receive p) as m) : Passes c (a :: as) m

/-- **How a pull ends**, by the answers that are left: its result, the cursor, and the answers that
are left then. -/
inductive Ends (c : Cursor) :
    List Answer → Except Error (Option Json) → Cursor → List Answer → Prop
  /-- There is no way to ask, and no answer is taken. -/
  | stranded {as : List Answer} (hphase : c.phase = .active) (hid : c.id = none) :
      Ends c as (.error (.invalidResponse .noId)) c.fail as
  /-- No answer is left. -/
  | unanswered (hask : c.CanAsk) : Ends c [] (.error (.transport Wire.unanswered)) c.fail []
  /-- The answer brings no page. -/
  | failed {a : Answer} {as : List Answer} {e : Error} (hask : c.CanAsk)
      (hpage : a.page = .error e) : Ends c (a :: as) (.error e) c.fail as
  /-- The page has rows: the first one is handed out, the others are kept. -/
  | row {a : Answer} {as : List Answer} {p : Page} {row : Json} {rows : List Json}
      (hask : c.CanAsk) (hpage : a.page = .ok p) (hrows : p.rows = row :: rows) :
      Ends c (a :: as) (.ok (some row)) { c.receive p with buffer := rows } as
  /-- The page has no rows and is the last one. -/
  | over {a : Answer} {as : List Answer} {p : Page} (hask : c.CanAsk) (hpage : a.page = .ok p)
      (hrows : p.rows = []) (hmore : p.hasMore = false) :
      Ends c (a :: as) (.ok none) (c.receive p).finish as

namespace Ends

variable {as left' : List Answer} {result result' : Except Error (Option Json)} {c'' : Cursor}

/-- How a pull ends that can ask, read off the first of the answers that are left. -/
theorem of_canAsk (h : c.Ends as result c' left) (hask : c.CanAsk) :
    match as with
    | [] => (result, c', left) = (.error (.transport Wire.unanswered), c.fail, [])
    | a :: as =>
      match a.page with
      | .error e => (result, c', left) = (.error e, c.fail, as)
      | .ok p =>
        match p.rows with
        | x :: xs => (result, c', left) = (.ok (some x), { c.receive p with buffer := xs }, as)
        | [] => p.hasMore = false ∧ (result, c', left) = (.ok none, (c.receive p).finish, as) := by
  rcases h with ⟨hphase, hid⟩ | _ | ⟨_, hpage⟩ | ⟨_, hpage, hrows⟩ | ⟨_, hpage, hrows, hmore⟩
  · rcases hask with hstart | hnamed
    · cases hstart.symm.trans hphase
    · exact absurd hid hnamed
  · rfl
  · simp only [hpage]
  · simp only [hpage, hrows]
  · simp only [hpage, hrows]
    exact ⟨hmore, trivial⟩

theorem of_not_canAsk (h : c.Ends as result c' left) (hask : ¬ c.CanAsk) :
    (result, c', left) = (.error (.invalidResponse .noId), c.fail, as) := by
  rcases h with _ | hask' | ⟨hask', -⟩ | ⟨hask', -⟩ | ⟨hask', -⟩
  · rfl
  all_goals exact absurd hask' hask

/-- An answer that is passed over ends no pull. -/
theorem not_passed {a : Answer} {p : Page} (h : c.Ends (a :: as) result c' left)
    (hask : c.CanAsk) (hpage : a.page = .ok p) (hrows : p.rows = []) : p.hasMore = false := by
  have hend := h.of_canAsk hask
  simp only [hpage, hrows] at hend
  exact hend.1

/-- **The answers that are left settle a pull**: it ends in one way only. -/
theorem unique (h : c.Ends as result c' left) (h' : c.Ends as result' c'' left') :
    (result, c', left) = (result', c'', left') := by
  by_cases hask : c.CanAsk
  · have hend := h.of_canAsk hask
    have hend' := h'.of_canAsk hask
    cases as with
    | nil => exact hend.trans hend'.symm
    | cons a as =>
      cases hpage : a.page with
      | error e =>
        simp only [hpage] at hend hend'
        exact hend.trans hend'.symm
      | ok p =>
        cases hrows : p.rows <;> simp only [hpage, hrows] at hend hend'
        · exact hend.2.trans hend'.2.symm
        · exact hend.trans hend'.symm
  · exact (h.of_not_canAsk hask).trans (h'.of_not_canAsk hask).symm

end Ends

/-- **The answers tell which of them are passed over.** -/
theorem Passes.unique {m' c'' : Cursor} {passed' rest' left' : List Answer}
    {result result' : Except Error (Option Json)} (h : c.Passes passed m)
    (hends : m.Ends rest result c' left) (h' : c.Passes passed' m')
    (hends' : m'.Ends rest' result' c'' left') (hanswers : passed ++ rest = passed' ++ rest') :
    passed = passed' ∧ m = m' ∧ rest = rest' := by
  induction h generalizing passed' with
  | start c =>
    cases h' with
    | start => exact ⟨rfl, rfl, hanswers⟩
    | page hask hpage hrows hmore =>
      obtain rfl := hanswers
      cases hmore.symm.trans (hends.not_passed hask hpage hrows)
  | page hask hpage hrows hmore _ ih =>
    cases h' with
    | start =>
      obtain rfl := hanswers
      cases hmore.symm.trans (hends'.not_passed hask hpage hrows)
    | page _ hpage' _ _ later' =>
      obtain ⟨rfl, hlater⟩ := List.cons.inj hanswers
      cases hpage.symm.trans hpage'
      obtain ⟨rfl, rfl, rfl⟩ := ih hends later' hlater
      exact ⟨rfl, rfl, rfl⟩

/-- The requests for one page after the other: one for each answer that is passed over, and then one
more, if there is a way to ask. -/
def pageRequests (c : Cursor) : List Answer → List Request
  | [] => (c.pageRequest c.count).toOption.toList
  | a :: as =>
    (c.pageRequest c.count).toOption.toList ++
      match a.page with
      | .ok p => (c.receive p).pageRequests as
      | .error _ => []

theorem pageRequests_length_le (c : Cursor) (passed : List Answer) :
    (c.pageRequests passed).length ≤ passed.length + 1 := by
  have hone (c : Cursor) : (c.pageRequest c.count).toOption.toList.length ≤ 1 :=
    Option.length_toList_le
  induction passed generalizing c with
  | nil => exact hone c
  | cons a as ih =>
    rw [pageRequests, List.length_append, List.length_cons]
    have hfirst := hone c
    cases a.page with
    | error _ =>
      simp only [List.length_nil]
      omega
    | ok p =>
      have hlater := ih (c.receive p)
      simp only
      omega

/-- **One pull of a page that is due.** Some answers are passed over, and what is left of the answers
settles the rest. -/
inductive Pulls (c : Cursor) (w : Wire) : Outcome (Option Json) → Prop
  | intro {passed rest left : List Answer} {m c' : Cursor} {result : Except Error (Option Json)}
      (hanswers : w.answers = passed ++ rest) (hpasses : c.Passes passed m)
      (hends : m.Ends rest result c' left) :
      Pulls c w ⟨result, c', ⟨left, w.sent ++ c.pageRequests passed⟩⟩

/-! ## One page -/

theorem CanAsk.exists_request (hask : c.CanAsk) (count : Bool) :
    ∃ request, c.pageRequest count = .ok request := by
  unfold pageRequest
  rcases hask with hphase | hid
  · rw [hphase]
    exact ⟨_, rfl⟩
  · obtain ⟨id, hid⟩ := Option.ne_none_iff_exists'.mp hid
    rw [hid]
    cases c.phase <;> exact ⟨_, rfl⟩

theorem pageRequest_of_unnamed (hphase : c.phase = .active) (hid : c.id = none) (count : Bool) :
    c.pageRequest count = .error (.invalidResponse .noId) := by
  rw [pageRequest, hphase, hid]

/-- What fetching a page comes to, by the first of the answers to come. -/
theorem fetch_of_request {request : Request} {count : Bool}
    (hrequest : c.pageRequest count = .ok request) :
    c.fetch count w =
      match (w.answers.head?.getD (.error Wire.unanswered)).page with
      | .error e => ⟨.error e, c.fail, ⟨w.answers.tail, w.sent ++ [request]⟩⟩
      | .ok p => ⟨.ok (), c.receive p, ⟨w.answers.tail, w.sent ++ [request]⟩⟩ := by
  have hsend : w.send request =
      (w.answers.head?.getD (.error Wire.unanswered), ⟨w.answers.tail, w.sent ++ [request]⟩) := by
    unfold Wire.send
    cases w.answers <;> rfl
  rw [fetch, hrequest]
  simp only [Wire.ask_eq, hsend]
  cases (w.answers.head?.getD (.error Wire.unanswered)).page <;> rfl

namespace Due

theorem is_open (hdue : c.Due) :
    c.phase ≠ .failed ∧ c.phase ≠ .exhausted ∧ c.buffer = [] ∧
      (c.phase = .unstarted ∨ c.hasMore) := by
  obtain ⟨hphase, hbuffer⟩ | ⟨hphase, hbuffer, hmore⟩ := hdue
  · exact ⟨by simp [hphase], by simp [hphase], hbuffer, .inl hphase⟩
  · exact ⟨by simp [hphase], by simp [hphase], hbuffer, .inr hmore⟩

/-- Either there is a way to ask for the page that is due, or the cursor was never named. -/
theorem canAsk_or (hdue : c.Due) : c.CanAsk ∨ c.phase = .active ∧ c.id = none := by
  rcases hdue with ⟨hphase, -⟩ | ⟨hphase, -⟩
  · exact .inl (.inl hphase)
  · by_cases hid : c.id = none
    · exact .inr ⟨hphase, hid⟩
    · exact .inl (.inr hid)

/-- A page is due still when one was passed over. -/
theorem receive {p : Page} (hrows : p.rows = []) (hmore : p.hasMore = true) :
    (c.receive p).Due :=
  .inr ⟨rfl, hrows, hmore⟩

end Due

namespace Pulls

variable {o : Outcome (Option Json)} {result : Except Error (Option Json)}

/-- A pull that passes over nothing. -/
theorem of_ends {request : Request} (hrequest : c.pageRequest c.count = .ok request)
    (hends : c.Ends w.answers result c' left) :
    c.Pulls w ⟨result, c', ⟨left, w.sent ++ [request]⟩⟩ := by
  have hpulls : c.Pulls w _ := .intro rfl (.start c) hends
  rw [pageRequests, hrequest] at hpulls
  exact hpulls

/-- A pull that passes over one more page. -/
theorem page {a : Answer} {as : List Answer} {sent : List Request} {request : Request} {p : Page}
    (hask : c.CanAsk) (hrequest : c.pageRequest c.count = .ok request) (hpage : a.page = .ok p)
    (hrows : p.rows = []) (hmore : p.hasMore = true)
    (later : (c.receive p).Pulls ⟨as, sent ++ [request]⟩ o) : c.Pulls ⟨a :: as, sent⟩ o := by
  obtain ⟨hanswers, hpasses, hends⟩ := later
  rename_i passed rest left m c' result
  have hpassed : c.Passes (a :: passed) m := .page hask hpage hrows hmore hpasses
  have hpulls : c.Pulls ⟨a :: as, sent⟩ _ := .intro (congrArg (a :: ·) hanswers) hpassed hends
  rw [pageRequests, hrequest, hpage] at hpulls
  rwa [List.append_assoc]

/-- **What a pull comes to is decided by the answers.** -/
theorem unique {o' : Outcome (Option Json)} (h : c.Pulls w o) (h' : c.Pulls w o') : o = o' := by
  obtain ⟨hanswers, hpasses, hends⟩ := h
  obtain ⟨hanswers', hpasses', hends'⟩ := h'
  obtain ⟨rfl, rfl, rfl⟩ := hpasses.unique hends hpasses' hends' (hanswers.symm.trans hanswers')
  cases hends.unique hends'
  rfl

end Pulls

/-- A cursor that was never named has no way to ask for more. -/
theorem next_of_unnamed (hdue : c.Due) (hphase : c.phase = .active) (hid : c.id = none) :
    c.next w = ⟨.error (.invalidResponse .noId), c.fail, w⟩ := by
  obtain ⟨hf, he, hbuffer, hmore⟩ := hdue.is_open
  refine next_of_error hf he hbuffer hmore ?_
  rw [fetch, pageRequest_of_unnamed hphase hid]

/-- A fetch that fails ends a pull. -/
theorem pulls_of_fetch_error {e : Error} {w' : Wire} (hdue : c.Due)
    (hfetch : c.fetch c.count w = ⟨.error e, c', w'⟩) : c.Pulls w ⟨.error e, c', w'⟩ := by
  obtain ⟨answers, sent⟩ := w
  rcases hdue.canAsk_or with hask | ⟨hphase, hid⟩
  · obtain ⟨request, hrequest⟩ := hask.exists_request c.count
    rw [fetch_of_request hrequest] at hfetch
    cases answers with
    | nil =>
      cases hfetch
      exact .of_ends hrequest (.unanswered hask)
    | cons a as =>
      simp only [List.head?_cons, Option.getD_some, List.tail_cons] at hfetch
      cases hpage : a.page <;> rw [hpage] at hfetch <;> cases hfetch
      exact .of_ends hrequest (.failed hask hpage)
  · have hnone := pageRequest_of_unnamed hphase hid c.count
    rw [fetch, hnone] at hfetch
    cases hfetch
    have hpulls : c.Pulls ⟨answers, sent⟩ _ := .intro rfl (.start c) (.stranded hphase hid)
    rw [pageRequests, hnone] at hpulls
    simpa [Except.toOption] using hpulls

/-- A page that was fetched ends a pull, or it is passed over. -/
theorem pulls_of_fetch_ok {w' : Wire} (hdue : c.Due)
    (hfetch : c.fetch c.count w = ⟨.ok (), c', w'⟩) (later : c'.Due → c'.Pulls w' (c'.next w')) :
    c.Pulls w (c'.next w') := by
  obtain ⟨answers, sent⟩ := w
  rcases hdue.canAsk_or with hask | ⟨hphase, hid⟩
  · obtain ⟨request, hrequest⟩ := hask.exists_request c.count
    rw [fetch_of_request hrequest] at hfetch
    cases answers with
    | nil => cases hfetch
    | cons a as =>
      simp only [List.head?_cons, Option.getD_some, List.tail_cons] at hfetch
      cases hpage : a.page <;> rw [hpage] at hfetch <;> cases hfetch
      rename_i p
      have hopen : (c.receive p).phase ≠ .failed ∧ (c.receive p).phase ≠ .exhausted := by
        simp [receive]
      cases hrows : p.rows with
      | cons row rows =>
        rw [next_of_row hopen.1 hopen.2 hrows]
        exact .of_ends hrequest (.row hask hpage hrows)
      | nil =>
        cases hmore : p.hasMore with
        | false =>
          rw [next_of_end hopen.1 hopen.2 hrows (by simp [receive, hmore])]
          exact .of_ends hrequest (.over hask hpage hrows hmore)
        | true => exact .page hask hrequest hpage hrows hmore (later (.receive hrows hmore))
  · rw [fetch, pageRequest_of_unnamed hphase hid] at hfetch
    cases hfetch

/-- **What `next` does when a page is due.** -/
theorem pulls_next (hdue : c.Due) : c.Pulls w (c.next w) := by
  have ⟨hf, he, hempty, hmore⟩ := hdue.is_open
  fun_induction c.next w with
  | case1 => contradiction
  | case2 => contradiction
  | case3 c w _ _ row rest hbuffer => cases hempty.symm.trans hbuffer
  | case4 c w _ _ _ _ e c₁ w₁ fetched => exact pulls_of_fetch_error hdue fetched
  | case5 c w _ _ _ _ c₁ w₁ fetched ih =>
    refine pulls_of_fetch_ok hdue fetched fun hdue₁ => ?_
    have ⟨hf₁, he₁, hempty₁, hmore₁⟩ := hdue₁.is_open
    exact ih hdue₁ hf₁ he₁ hempty₁ hmore₁
  | case6 => contradiction

/-- When no page is due, `next` settles the matter without the wire. -/
theorem wire_next_of_not_due (hdue : ¬ c.Due) : (c.next w).wire = w := by
  by_cases hf : c.phase = .failed
  · rw [next_of_failed hf]
  · by_cases he : c.phase = .exhausted
    · rw [next_of_exhausted he]
    · cases hbuffer : c.buffer with
      | cons row rest => rw [next_of_row hf he hbuffer]
      | nil =>
        have hu : c.phase ≠ .unstarted := fun hu => hdue (.inl ⟨hu, hbuffer⟩)
        have hmore : ¬ c.hasMore := fun hmore =>
          hdue (.inr ⟨phase_active hf he hu, hbuffer, hmore⟩)
        rw [next_of_end hf he hbuffer (not_or.mpr ⟨hu, hmore⟩)]

/-- A pull sends at most one request more than there are answers. -/
theorem exists_sent_next (c : Cursor) (w : Wire) :
    ∃ requests, (c.next w).wire.sent = w.sent ++ requests ∧
      requests.length ≤ w.answers.length + 1 := by
  by_cases hdue : c.Due
  · have hpulls := @pulls_next c w hdue
    generalize c.next w = o at hpulls
    obtain ⟨hanswers, -, -⟩ := hpulls
    rename_i passed rest left m c' result
    refine ⟨_, rfl, ?_⟩
    have hlength := c.pageRequests_length_le passed
    rw [hanswers, List.length_append]
    omega
  · refine ⟨[], ?_, Nat.zero_le _⟩
    rw [wire_next_of_not_due hdue, List.append_nil]

end Cursor

/-! ## Sessions -/

namespace Reader

variable {α : Type}

/-- **What a pull takes**, of every cursor of a session and whatever the answers to come. It is over
within one round more than there are answers. A buffered row is handed out to the decoder, whose
verdict is the reply, and nothing is sent. When a page is due, because nothing was fetched yet or
because no row is left and more were announced, the answers are taken as `Pulls` says: pages without
rows that announce more are passed over, and the first other answer settles the matter. If more were
announced and no page ever told a name, the cursor fails and nothing is sent. When no row is left
and no more were announced, and when the cursor is over, nothing is sent either. In all, at most one
request more is sent than there are answers. -/
theorem session_pull (s : Statement) (decode : Decoder α) (w₀ : Wire) (ops : List (Op α))
    (w : Wire) :
    let start : Reader α := ⟨s.cursor, decode⟩
    let r := (start.run w₀ ops).2.1
    let c := r.cursor
    (∀ rounds, w.answers.length < rounds → Cursor.nextWithin rounds c w = some (c.next w)) ∧
      (∀ row rest, c.buffer = row :: rest →
        r.step w .next =
          (r.decode.verdict (some row), { r with cursor := { c with buffer := rest } }, w)) ∧
      (c.phase = .unstarted ∨ c.phase = .active ∧ c.buffer = [] ∧ c.hasMore = true →
        ∃ o, c.Pulls w o ∧
          r.step w .next =
            (o.result.bind r.decode.verdict, { r with cursor := o.cursor }, o.wire)) ∧
      (c.phase = .active → c.buffer = [] → c.hasMore = true →
        (start.journal w₀ ops).lastId? = none →
        r.step w .next = (.error (.invalidResponse .noId), { r with cursor := c.fail }, w)) ∧
      (c.phase = .active → c.buffer = [] → c.hasMore = false →
        r.step w .next = (.ok (.row none), { r with cursor := c.finish }, w)) ∧
      (c.phase = .exhausted → r.step w .next = (.ok (.row none), r, w)) ∧
      (c.phase = .failed → r.step w .next = (.error .cursorFailed, r, w)) ∧
      ∃ requests, (r.step w .next).2.2.sent = w.sent ++ requests ∧
        requests.length ≤ w.answers.length + 1 := by
  intro start r c
  have hrecords := start.records_run w₀ ops (Cursor.wellFormed_cursor s)
  have hwf : c.WellFormed := (Cursor.wellFormed_cursor s).course hrecords.course
  have htracks : c.Tracks s (start.journal w₀ ops) := Cursor.Tracks.course hrecords.course
  have hopen (hphase : c.phase = .active) : c.phase ≠ .failed ∧ c.phase ≠ .exhausted := by
    rw [hphase]
    decide
  refine ⟨fun rounds h => Cursor.nextWithin_eq h, fun row rest hbuffer => ?_, fun hdue => ?_,
    fun hphase hbuffer hmore hid => ?_, fun hphase hbuffer hmore => ?_, next_of_exhausted,
    fun hf => ?_, Cursor.exists_sent_next c w⟩
  · obtain ⟨hf, he⟩ := hopen (hwf.active_of_buffer hbuffer)
    rw [step, Cursor.next_of_row hf he hbuffer, after, rowReply_eq]
    rfl
  · have hpage : c.Due :=
      hdue.imp_left fun hphase => ⟨hphase, (hwf.unstarted hphase).2.2.1⟩
    exact ⟨c.next w, Cursor.pulls_next hpage, by rw [step, after, rowReply_eq]⟩
  · have hnone : c.id = none := (htracks.lastId hphase).symm.trans hid
    rw [step, Cursor.next_of_unnamed (.inr ⟨hphase, hbuffer, hmore⟩) hphase hnone]
    rfl
  · obtain ⟨hf, he⟩ := hopen hphase
    rw [step, Cursor.next_of_end hf he hbuffer (by simp [hphase, hmore])]
    rfl
  · rw [step, Cursor.next_of_failed hf]
    rfl

/-- Two servers. One names the cursor with a page without rows: it is passed over, and the first row
of the next page is handed out. The other one announces more without a name: its row is handed out,
and the next pull fails with an answer still to come. -/
theorem session_pull_two_servers :
    let s : Statement := ⟨"http://db", "FOR d IN c RETURN d.name", false, none, []⟩
    let vacant : Answer := .ok ⟨201, "\x7b\"id\":\"7\",\"hasMore\":true,\"result\":[]\x7d"⟩
    let filled : Answer := .ok ⟨200, "\x7b\"hasMore\":true,\"result\":[\"a\",\"b\"]\x7d"⟩
    let v : Wire := .ofAnswers [vacant, filled]
    let start : Reader String := ⟨s.cursor, Decoder.string⟩
    let w₀ : Wire := .ofAnswers [.ok ⟨201, "\x7b\"hasMore\":true,\"result\":[\"a\"]\x7d"⟩]
    let w : Wire := .ofAnswers [.ok ⟨200, "\x7b\"hasMore\":false,\"result\":[\"b\"]\x7d"⟩]
    let r := ((raw s.cursor).run w₀ [.next]).2.1
    (∃ m c, s.cursor.Passes [vacant] m ∧ m.Ends [filled] (.ok (some (.string "a"))) c [] ∧
        start.step v .next = (.ok (.row (some "a")), { start with cursor := c },
          ⟨[], [s.creation s.query false none, s.advance "7"]⟩)) ∧
      r.cursor.phase = .active ∧
      r.step w .next = (.error (.invalidResponse .noId), { r with cursor := r.cursor.fail }, w) := by
  intro s vacant filled v start w₀ w r
  have hvacant := @page_of_strings vacant (some "7") true none [] (by decide +kernel)
  have hfilled := @page_of_strings filled none true none ["a", "b"] (by decide +kernel)
  obtain ⟨hrequests, hphase, hempty, hmore, hid⟩ :
      s.cursor.pageRequests [vacant] = [s.creation s.query false none, s.advance "7"] ∧
        r.cursor.phase = .active ∧ r.cursor.buffer.isEmpty ∧ r.cursor.hasMore = true ∧
        ((raw s.cursor).journal w₀ [.next]).lastId? = none := by
    decide +kernel
  obtain ⟨-, -, hdue, -⟩ := session_pull s Decoder.string v [] v
  obtain ⟨o, hpulls, hstep⟩ := hdue (.inl rfl)
  obtain ⟨-, -, -, hunnamed, -⟩ := session_pull s .ok w₀ [.next] w
  have hpasses : s.cursor.Passes [vacant] _ := .page (.inl rfl) hvacant rfl rfl (.start _)
  have hnamed : (s.cursor.receive ⟨some "7", true, none, []⟩).CanAsk := .inr nofun
  have hends : Cursor.Ends _ [filled] _ _ [] := .row hnamed hfilled rfl
  cases hpulls.unique (.intro rfl hpasses hends)
  change start.step v .next = (.ok (.row (some "a")), { start with cursor := _ },
    ⟨[], s.cursor.pageRequests [vacant]⟩) at hstep
  rw [hrequests] at hstep
  exact ⟨⟨_, _, hpasses, hends, hstep⟩, hphase,
    hunnamed hphase (List.isEmpty_iff.1 hempty) hmore hid⟩

end Reader

end Pagewise
