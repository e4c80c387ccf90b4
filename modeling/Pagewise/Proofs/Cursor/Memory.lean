import Pagewise.Proofs.Cursor.Protocol

/-!
# What a cursor holds in memory

Of all that the server sent a cursor keeps little: of its first page the first row, and of its last
page the rows that were not handed out yet. With the invariant of the phases this is what every
cursor looks like, at every point of a session.

The first row of the first page is the first row of the result only if the first page has rows. When
it has none, the cursor remembers that the result has no first row, also once rows have come.

* `Cursor.Remembers`: what a cursor holds of its pages.
* **`Reader.session_state`**: what every cursor of a session looks like.
* `Reader.head_of_empty_page`: rows in the buffer, and no first row.
-/

namespace Pagewise

namespace Cursor

variable {c c' : Cursor} {s : Statement} {j : Journal} {e : Event}

/-- **What a cursor holds of its pages.** -/
structure Remembers (s : Statement) (j : Journal) (c : Cursor) : Prop where
  /-- The first row of the first page. -/
  head : c.head = j.pages.head?.map fun p => p.rows.head?
  /-- The end of the last page. -/
  buffer : c.buffer <:+ (j.pages.getLast?.map Page.rows).getD []
  /-- The first page came with the creation of the result. -/
  created : c.head ≠ none →
    ∃ count a p, .exchange .page (.create s.query count s.batchSize) a ∈ j ∧ a.page = .ok p

theorem remembers_cursor (s : Statement) : Remembers s [] s.cursor where
  head := rfl
  buffer := List.suffix_rfl
  created h := absurd rfl h

namespace Remembers

/-- What brings no page leaves the first row, and of the buffer an end. -/
theorem beside (h : c.Remembers s j) (hpage : e.page? = none) (hhead : c'.head = c.head)
    (hbuffer : c'.buffer <:+ c.buffer) : c'.Remembers s (j ++ [e]) where
  head := by rw [hhead, Journal.pages_beside hpage, h.head]
  buffer := by
    rw [Journal.pages_beside hpage]
    exact hbuffer.trans h.buffer
  created hc := by
    obtain ⟨count, a, p, hmem, ha⟩ := h.created (hhead ▸ hc)
    exact ⟨count, a, p, List.mem_append_left [e] hmem, ha⟩

/-- A page takes the place of the buffer; the first one tells the first row. -/
theorem receive (h : c.Remembers s j) {p : Page} (hpage : e.page? = some p)
    (hfirst : c.phase = .unstarted → j.pages = [])
    (hlater : c.phase ≠ .unstarted → c.head ≠ none)
    (hcreated : ∃ count a p, .exchange .page (.create s.query count s.batchSize) a ∈ j ++ [e] ∧
      a.page = .ok p) : (c.receive p).Remembers s (j ++ [e]) where
  head := by
    rw [Journal.pages_append, Journal.pages_single, hpage]
    by_cases hu : c.phase = .unstarted
    · rw [hfirst hu]
      simp only [Cursor.receive, if_pos hu]
      rfl
    · obtain ⟨q, hq⟩ : ∃ q, j.pages.head? = some q := by
        cases hq : j.pages.head? with
        | none => exact absurd (by rw [h.head, hq]; rfl) (hlater hu)
        | some q => exact ⟨q, rfl⟩
      simp only [Cursor.receive, if_neg hu]
      rw [h.head, List.head?_append, hq]
      rfl
  buffer := by
    rw [Journal.getLast?_pages hpage]
    exact List.suffix_rfl
  created _ := hcreated

/-- **Every event is remembered.** -/
theorem after (h : c.Remembers s j) (htracks : c.Tracks s j) (hs : c.toStatement = s)
    (hwf : c.WellFormed) (allowed : c.Allows e) : (c.after e).Remembers s (j ++ [e]) := by
  cases allowed with
  | @create count answer hphase _ =>
    simp only [Cursor.after]
    cases hpage : answer.page with
    | error _ =>
      exact h.beside (Event.page?_of_error hpage) rfl List.nil_suffix
    | ok p =>
      refine h.receive (Event.page?_of_ok hpage)
        (fun hu => Journal.pages_eq_nil (htracks.unstarted hu)) (fun hu => absurd hphase hu)
        ⟨count, answer, p, ?_, hpage⟩
      rw [← hs]
      exact List.mem_append_right j List.mem_cons_self
  | @advance _ answer hphase _ _ _ =>
    simp only [Cursor.after]
    cases hpage : answer.page with
    | error _ =>
      exact h.beside (Event.page?_of_error hpage) rfl List.nil_suffix
    | ok p =>
      obtain ⟨count, a, q, hmem, ha⟩ := h.created (hwf.active hphase)
      exact h.receive (Event.page?_of_ok hpage)
        (fun hu => Journal.pages_eq_nil (htracks.unstarted hu)) (fun _ => hwf.active hphase)
        ⟨count, a, q, List.mem_append_left _ hmem, ha⟩
  | stranded | exhaust | abandon => exact h.beside rfl rfl List.nil_suffix
  | @count answer _ _ =>
    simp only [Cursor.after]
    cases answer.page with
    | ok p => exact h.beside rfl rfl List.suffix_rfl
    | error _ => exact h.beside rfl rfl List.suffix_rfl
  | row | discard | close => exact h.beside rfl rfl List.suffix_rfl
  | hand => exact h.beside rfl rfl (List.tail_suffix _)

theorem course (h : s.cursor.Course j c) : c.Remembers s j := by
  induction h with
  | start => exact remembers_cursor s
  | step before allowed ih =>
    exact ih.after (Tracks.course before) before.toStatement_eq
      ((wellFormed_cursor s).course before) allowed

/-- The first row is recorded once the result was created, and no sooner. -/
theorem head_ne_none_iff (h : c.Remembers s j) :
    c.head ≠ none ↔
      ∃ count a p, .exchange .page (.create s.query count s.batchSize) a ∈ j ∧ a.page = .ok p := by
  refine ⟨h.created, ?_⟩
  rintro ⟨count, a, p, hmem, ha⟩ hnone
  have hp : p ∈ j.pages :=
    List.mem_filterMap.mpr ⟨_, hmem, Event.page?_of_ok ha⟩
  rw [h.head, Option.map_eq_none_iff, List.head?_eq_none_iff] at hnone
  rw [hnone] at hp
  exact absurd hp List.not_mem_nil

/-- There is a first row if the first page has rows, and otherwise none, whatever comes later. -/
theorem exists_head_iff (h : c.Remembers s j) {p : Page} (hp : j.pages.head? = some p) :
    (∃ row, c.head = some (some row)) ↔ p.rows ≠ [] := by
  rw [h.head, hp, Option.map_some]
  cases p.rows with
  | nil => simp
  | cons row rows => simp

end Remembers

end Cursor

/-! ## Sessions -/

namespace Reader

variable {α : Type}

/-- **What every cursor of a session looks like.** One that has not started holds nothing, and
nothing of its result was asked; one that is active has recorded the first row; one that is over
has no name, announces nothing and holds no rows. Whenever there are buffered rows the cursor is
active, and has recorded the first row of the first page: it is a row just when that page had rows.
The first row is recorded from the creation of the result on, and the buffer is an end of the last
page. -/
theorem session_state (s : Statement) (decode : Decoder α) (w : Wire) (ops : List (Op α)) :
    let start : Reader α := ⟨s.cursor, decode⟩
    let c := (start.run w ops).2.1.cursor
    let j := start.journal w ops
    s.cursor.Records w j c (start.run w ops).2.2 ∧
      (c.phase = .unstarted → c.id = none ∧ c.hasMore = true ∧ c.buffer = [] ∧ c.head = none ∧
        c.total = none ∧ ∀ d a, .exchange .page d a ∉ j) ∧
      (c.phase = .active → c.head ≠ none) ∧
      (c.phase = .exhausted ∨ c.phase = .failed →
        c.id = none ∧ c.hasMore = false ∧ c.buffer = []) ∧
      (c.buffer ≠ [] → c.phase = .active ∧ ∃ p, j.pages.head? = some p ∧
        c.head = some p.rows.head? ∧ ((∃ row, c.head = some (some row)) ↔ p.rows ≠ [])) ∧
      (c.head ≠ none ↔ ∃ count a p,
        .exchange .page (.create s.query count s.batchSize) a ∈ j ∧ a.page = .ok p) ∧
      (j.pages = [] → c.buffer = []) ∧
      ∀ p, j.pages.getLast? = some p → c.buffer <:+ p.rows := by
  intro start c j
  have hrecords := start.records_run w ops (Cursor.wellFormed_cursor s)
  have hwf : c.WellFormed := (Cursor.wellFormed_cursor s).course hrecords.course
  have htracks : c.Tracks s j := Cursor.Tracks.course hrecords.course
  have hmemory : c.Remembers s j := Cursor.Remembers.course hrecords.course
  refine ⟨hrecords, fun hu => ?_, hwf.active, ?_, fun hbuffer => ?_, hmemory.head_ne_none_iff,
    fun hpages => ?_, fun p hp => ?_⟩
  · obtain ⟨hid, hmore, hbuffer, hhead, htotal⟩ := hwf.unstarted hu
    exact ⟨hid, hmore, hbuffer, hhead, htotal, htracks.unstarted hu⟩
  · rintro (he | hf)
    · exact hwf.exhausted he
    · exact hwf.failed hf
  · obtain ⟨row, rest, hrows⟩ := List.exists_cons_of_ne_nil hbuffer
    have hphase := hwf.active_of_buffer hrows
    have hrecorded := hwf.active hphase
    cases hp : j.pages.head? with
    | none => exact absurd (by rw [hmemory.head, hp]; rfl) hrecorded
    | some p => exact ⟨hphase, p, rfl, by rw [hmemory.head, hp]; rfl, hmemory.exists_head_iff hp⟩
  · have hend := hmemory.buffer
    rw [hpages] at hend
    exact List.suffix_nil.mp hend
  · have hend := hmemory.buffer
    rwa [hp] at hend

/-- A cursor between two pages, the first of which had a row. -/
theorem session_state_active :
    let s : Statement := ⟨"http://db", "FOR d IN c RETURN d", false, none, []⟩
    let w : Wire := .ofAnswers
      [.ok ⟨201, "\x7b\"id\":\"7\",\"hasMore\":true,\"result\":[1,2]\x7d"⟩]
    let c := ((raw s.cursor).run w [.next]).2.1.cursor
    let j := (raw s.cursor).journal w [.next]
    c.buffer ≠ [] ∧ c.phase = .active ∧ (∃ row, c.head = some (some row)) ∧
      ∃ p, j.pages.getLast? = some p ∧ c.buffer <:+ p.rows := by
  intro s w c j
  obtain ⟨hlength, hrows, hlast⟩ : c.buffer.length = 1 ∧
      j.pages.head?.map (fun p => p.rows.length) = some 2 ∧
      j.pages.getLast?.isSome = true := by
    decide +kernel
  have hbuffer : c.buffer ≠ [] := List.ne_nil_of_length_eq_add_one hlength
  obtain ⟨q, hq⟩ := Option.isSome_iff_exists.mp hlast
  obtain ⟨-, -, -, -, hfilled, -, -, hend⟩ := session_state s .ok w [.next]
  obtain ⟨hphase, p, hp, -, hhead⟩ := hfilled hbuffer
  have hnonempty : p.rows ≠ [] := by
    change j.pages.head? = some p at hp
    rw [hp] at hrows
    exact List.ne_nil_of_length_eq_add_one (Option.some.inj hrows)
  exact ⟨hbuffer, hphase, hhead.mpr hnonempty, q, hq, hend q hq⟩

/-- **Rows in the buffer, and no first row**: of a result whose first page had none, two rows were
fetched and one was handed out. The cursor tells that the result has no first row. -/
theorem head_of_empty_page :
    let s : Statement := ⟨"http://db", "FOR d IN c RETURN d", false, none, []⟩
    let w : Wire := .ofAnswers
      [.ok ⟨201, "\x7b\"id\":\"7\",\"hasMore\":true,\"result\":[]\x7d"⟩,
        .ok ⟨200, "\x7b\"id\":\"7\",\"hasMore\":false,\"result\":[1,2]\x7d"⟩]
    let c := ((raw s.cursor).run w [.next]).2.1.cursor
    let v := ((raw s.cursor).run w [.next]).2.2
    c.buffer ≠ [] ∧ c.phase = .active ∧ c.head = some none ∧ (c.first v).result = .ok none := by
  intro s w c v
  obtain ⟨hlength, hphase, hrecorded⟩ : c.buffer.length = 1 ∧ c.phase = .active ∧
      c.head.map Option.isNone = some true := by
    decide +kernel
  have hhead : c.head = some none := by
    obtain ⟨row, hrow, hnone⟩ := Option.map_eq_some_iff.mp hrecorded
    rw [hrow, Option.isNone_iff_eq_none.mp hnone]
  refine ⟨List.ne_nil_of_length_eq_add_one hlength, hphase, hhead, ?_⟩
  rw [Cursor.first, hphase]
  simp only [Cursor.headRow, hhead]

end Reader

end Pagewise
