import Pagewise.Proofs.Cursor.Memory
import Pagewise.Proofs.Cursor.Refinement

/-!
# The first row of the result

`first` is answered from one of three places: the page that it fetches itself, the first row that
the cursor recorded of its first page, or a query of its own when no page came before the cursor was
closed. With an honest server all three give the first of the rows, with one exception. When the
first page of the result has no rows although there are some, and announces more, what is recorded
is that the result has no first row. `next` fetches on past such a page, `first` does not.

* `Cursor.Reads.first`: `first` gives what was recorded, and asks when nothing was.
* `Cursor.Course.first_page`: the first page of a session is the one that created the result.
* **`Reader.session_first`**: when `first` agrees with the first `next`, at every point of a session.
* `Reader.first_misses_row`: two rows, and no first one.
-/

namespace Pagewise

open Server

namespace Server

variable {s : Statement} {rows : List Json} {held held' : Held}

/-- The first page starts with the first row, if it has any. -/
theorem Opens.head?_rows {count : Bool} {p : Page} (h : Opens rows count held p held')
    (hrows : p.rows ≠ []) : p.rows.head? = rows.head? := by
  cases h with
  | whole _ _ heq => rw [heq]
  | cut _ _ heq =>
    obtain ⟨row, rest, hcons⟩ := List.exists_cons_of_ne_nil hrows
    rw [← heq, hcons]
    rfl

/-- An honest server may serve any rows in two pages. -/
theorem serves_two_pages {created advanced : Answer} {count : Bool} {id : String}
    {first second : List Json}
    (hcreated : created.page =
      .ok ⟨some id, true, if count then some (first ++ second).length else none, first⟩)
    (hadvanced : advanced.page = .ok ⟨none, false, none, second⟩) :
    ∃ held, Serves s (first ++ second) Held.empty
      [(.create s.query count s.batchSize, created), (.advance id, advanced)] held := by
  let opened : Held := Held.empty.set id [second]
  have hcreate : Answers s (first ++ second) Held.empty created opened
      (.create s.query count s.batchSize) :=
    ⟨fun _ => ⟨_, hcreated, .cut rfl rfl (by simp) (by simp) rfl rfl⟩,
      fun k hk => absurd hk.symm (s.queryAt_ne k)⟩
  have hadvance : Answers s (first ++ second) opened advanced (opened.set id []) (.advance id) := by
    intro batch rest hheld
    obtain ⟨rfl, rfl⟩ := List.cons.inj ((Held.set_self _ id [second]).symm.trans hheld)
    exact ⟨_, hadvanced, rfl, rfl, .inl rfl, .inl rfl, rfl⟩
  exact ⟨_, _, hcreate, _, hadvance, rfl⟩

end Server

namespace Cursor

variable {s : Statement} {rows rest : List Json} {held held' : Held} {c : Cursor} {w : Wire}
  {j : Journal}

namespace Reads

theorem headRow (h : c.Reads s rows held rest)
    (hs : Serves s rows held (Journal.exchanges (c.headRowJournal w)) held') :
    (c.headRow w).result = .ok ((c.headRow w).cursor.head.getD rows.head?) ∧
      (c.headRow w).cursor.Reads s rows held' rest := by
  unfold headRowJournal at hs
  unfold Cursor.headRow
  cases hhead : c.head with
  | some head =>
    rw [hhead] at hs
    obtain rfl : held' = held := hs
    simp only [hhead]
    exact ⟨rfl, h⟩
  | none =>
    rw [hhead] at hs
    obtain ⟨hrow, hreads⟩ := h.rowAt hs
    simp only [hhead, Option.getD_none]
    exact ⟨hrow.trans (congrArg Except.ok List.head?_eq_getElem?.symm), hreads⟩

/-- **`first` gives the row that was recorded**, and the first of all rows when none was. -/
theorem first (h : c.Reads s rows held rest)
    (hs : Serves s rows held (Journal.exchanges (c.firstJournal w)) held') :
    (c.first w).result = .ok ((c.first w).cursor.head.getD rows.head?) ∧
      (c.first w).cursor.Reads s rows held' rest := by
  unfold firstJournal at hs
  unfold Cursor.first
  cases hphase : c.phase with
  | failed => exact absurd hphase h.sound
  | unstarted =>
    rw [hphase] at hs
    have hmay : c.MayFetch c.count := .inl ⟨hphase, .inl rfl⟩
    simp only at hs ⊢
    have hfetched := fun m => @fetch s rows rest held m c w c.count h hmay
    rcases hfetch : c.fetch c.count w with ⟨_ | _, c₁, w₁⟩ <;> rw [hfetch] at hs hfetched
    · cases (hfetched _ hs).1
    · simp only at hs ⊢
      rw [← List.singleton_append, Journal.exchanges_append, serves_append] at hs
      obtain ⟨m, hpage, hhead⟩ := hs
      obtain ⟨-, hreads, -⟩ := hfetched _ hpage
      exact hreads.headRow hhead
  | active | exhausted =>
    rw [hphase] at hs
    exact h.headRow hs

end Reads

/-- **The first page of a session is the one that created the result.** -/
theorem Course.first_page (h : s.cursor.Course j c) {p : Page} (hp : j.pages.head? = some p) :
    ∃ before count a later,
      j = before ++ .exchange .page (.create s.query count s.batchSize) a :: later ∧
        a.page = .ok p := by
  induction h with
  | start => cases hp
  | @step j m e course allowed ih =>
    cases hpages : j.pages.head? with
    | some q =>
      rw [Journal.pages_append, List.head?_append, hpages] at hp
      obtain ⟨before, count, a, later, rfl, ha⟩ := ih (hpages.trans hp)
      exact ⟨before, count, a, later ++ [e], by simp, ha⟩
    | none =>
      rw [Journal.pages_append, Journal.pages_single, List.head?_append, hpages,
        Option.none_or] at hp
      have hpage : e.page? = some p := by
        cases he : e.page? <;> rw [he] at hp <;> cases hp
        rfl
      cases allowed with
      | @create count a _ _ =>
        have ha : a.page = .ok p := by
          cases ha : a.page with
          | ok q =>
            obtain rfl := Option.some.inj ((Event.page?_of_ok ha).symm.trans hpage)
            rfl
          | error _ => cases (Event.page?_of_error ha).symm.trans hpage
        refine ⟨j, count, a, [], ?_, ha⟩
        rw [course.toStatement_eq]
        rfl
      | advance hphase =>
        have hhead := ((wellFormed_cursor s).course course).active hphase
        rw [(Remembers.course course).head, hpages] at hhead
        exact absurd rfl hhead
      | stranded | count | row | discard | close | hand | exhaust | abandon => cases hpage

/-- The first page from an honest server starts with the first row, if it has any. -/
theorem Course.head?_rows (h : s.cursor.Course j c) (hs : Serves s rows held j.exchanges held')
    {p : Page} (hp : j.pages.head? = some p) (hrows : p.rows ≠ []) :
    p.rows.head? = rows.head? := by
  obtain ⟨before, count, a, later, rfl, ha⟩ := h.first_page hp
  rw [Journal.exchanges_append, serves_append] at hs
  obtain ⟨m, -, hcreated⟩ := hs
  obtain ⟨m', hanswers, -⟩ : Serves s rows m
      ((.create s.query count s.batchSize, a) :: Journal.exchanges later) held' := hcreated
  obtain ⟨q, hq, opens⟩ := hanswers.1 rfl
  obtain rfl : p = q := Except.ok.inj (ha.symm.trans hq)
  exact opens.head?_rows hrows

end Cursor

namespace Reader

variable {α : Type} {r : Reader α} {s : Statement} {rows rest : List Json} {held held' : Held}
  {w : Wire}

/-- Every operation leaves a cursor that reads the rows. -/
theorem reads_step (op : Op α) (h : r.cursor.Reads s rows held rest)
    (hs : Serves s rows held (Journal.exchanges (r.stepJournal w op)) held') :
    ∃ rest', (r.step w op).2.1.cursor.Reads s rows held' rest' := by
  cases op with
  | next => exact ⟨_, (h.next hs).2⟩
  | first => exact ⟨_, (h.first hs).2⟩
  | last => exact ⟨_, (h.last hs).2⟩
  | length | isEmpty => exact ⟨_, (h.length hs).2⟩
  | close => exact ⟨_, (h.close hs).2⟩
  | decodeWith _ =>
    obtain rfl : held' = held := hs
    exact ⟨rest, h⟩

theorem reads_run (ops : List (Op α)) (h : r.cursor.Reads s rows held rest)
    (hs : Serves s rows held (r.journal w ops).exchanges held') :
    ∃ rest', (r.run w ops).2.1.cursor.Reads s rows held' rest' := by
  induction ops generalizing r w held rest with
  | nil =>
    obtain rfl : held' = held := hs
    exact ⟨rest, h⟩
  | cons op ops ih =>
    rw [journal, along, Journal.exchanges_append, serves_append] at hs
    obtain ⟨m, hstep, hrest⟩ := hs
    obtain ⟨rest', hreads⟩ := reads_step op h hstep
    exact ih hreads hrest

/-- **`first` agrees with the first `next`**, at every point of a session with a server that is
honest about some rows, however it cuts them into pages. The decoder decides about the first of all
rows, which is what the first `next` of a new reader gives; there is no row just when there are no
rows. The one exception are rows that come after a first page without any: then `first` tells, at
every point, that there is no row. -/
theorem session_first (s : Statement) (decode : Decoder α) (rows : List Json) (w : Wire)
    (ops : List (Op α)) {held : Held}
    (hs : Serves s rows Held.empty
      ((⟨s.cursor, decode⟩ : Reader α).journal w (ops ++ [.first])).exchanges held) :
    let start : Reader α := ⟨s.cursor, decode⟩
    let r := (start.run w ops).2.1
    let v := (start.run w ops).2.2
    let fresh : Reader α := ⟨s.cursor, r.decode⟩
    let pages := (start.journal w (ops ++ [.first])).pages
    ((∀ p, pages.head? = some p → p.rows = [] → rows = []) →
        (r.step v .first).1 = r.decode.verdict rows.head?) ∧
      (∀ p, pages.head? = some p → p.rows = [] → (r.step v .first).1 = .ok (.row none)) ∧
      ∀ w' held', Serves s rows Held.empty (Journal.exchanges (fresh.stepJournal w' .next)) held' →
        (fresh.step w' .next).1 = r.decode.verdict rows.head? := by
  intro start r v fresh pages
  have hwf := Cursor.wellFormed_cursor s
  have hbefore := start.records_run w ops hwf
  have hrecords := hbefore.append (r.records_step v .first (hwf.course hbefore.course))
  have hjournal : start.journal w (ops ++ [.first]) =
      start.journal w ops ++ r.stepJournal v .first := by
    rw [journal, along_append, along, along, List.append_nil]
    rfl
  have hpages : pages = (start.journal w ops ++ r.stepJournal v .first).pages :=
    congrArg Journal.pages hjournal
  rw [hjournal] at hs
  have hfirstPage : ∀ p, pages.head? = some p → p.rows ≠ [] → p.rows.head? = rows.head? :=
    fun p hp hrows => hrecords.course.head?_rows hs (hpages ▸ hp) hrows
  have hrecorded := (Cursor.Remembers.course hrecords.course).head
  rw [← hpages] at hrecorded
  rw [Journal.exchanges_append, serves_append] at hs
  obtain ⟨m, hran, hfirst⟩ := hs
  obtain ⟨rest, hreads⟩ := reads_run ops (Cursor.reads_cursor s rows) hran
  obtain ⟨hresult, -⟩ := hreads.first hfirst
  have hreply : (r.step v .first).1 = r.decode.verdict
      ((r.step v .first).2.1.cursor.head.getD rows.head?) :=
    (congrArg r.rowReply hresult).trans (r.rowReply_eq _)
  rw [hrecorded] at hreply
  refine ⟨fun hany => ?_, fun p hp hempty => ?_, fun w' held' hfresh => ?_⟩
  · rw [hreply]
    cases hp : pages.head? with
    | none => rfl
    | some p =>
      by_cases hempty : p.rows = []
      · rw [hany p hp hempty, Option.map_some, hempty]
        rfl
      · rw [Option.map_some, Option.getD_some, hfirstPage p hp hempty]
  · rw [hreply, hp, Option.map_some, hempty]
    rfl
  · exact (congrArg r.rowReply ((Cursor.reads_cursor s rows).next hfresh).1).trans (r.rowReply_eq _)

/-- Two rows in two pages: when both were handed out, `first` tells the first one. -/
theorem session_first_two_pages :
    let s : Statement := ⟨"http://db", "FOR d IN c RETURN d.name", false, none, []⟩
    let w : Wire := .ofAnswers
      [.ok ⟨201, "\x7b\"id\":\"1\",\"hasMore\":true,\"result\":[\"a\"]\x7d"⟩,
        .ok ⟨200, "\x7b\"hasMore\":false,\"result\":[\"b\"]\x7d"⟩]
    let r := ((raw s.cursor).run w [.next, .next]).2.1
    let v := ((raw s.cursor).run w [.next, .next]).2.2
    (∃ held, Serves s [.string "a", .string "b"] Held.empty
        ((raw s.cursor).journal w [.next, .next, .first]).exchanges held) ∧
      (r.step v .first).1 = .ok (.row (some (.string "a"))) := by
  intro s w r v
  let created : Answer := .ok ⟨201, "\x7b\"id\":\"1\",\"hasMore\":true,\"result\":[\"a\"]\x7d"⟩
  let advanced : Answer := .ok ⟨200, "\x7b\"hasMore\":false,\"result\":[\"b\"]\x7d"⟩
  have hcreated := @page_of_strings created (some "1") true none ["a"] (by decide +kernel)
  have hadvanced := @page_of_strings advanced none false none ["b"] (by decide +kernel)
  obtain ⟨held, hserves⟩ := @serves_two_pages s _ _ false _ _ _ hcreated hadvanced
  have hexchanges : ((raw s.cursor).journal w ([.next, .next] ++ [.first])).exchanges =
      [(.create s.query false s.batchSize, created), (.advance "1", advanced)] := by
    decide +kernel
  have hlength : ((raw s.cursor).journal w ([.next, .next] ++ [.first])).pages.head?.map
      (fun p => p.rows.length) = some 1 := by
    decide +kernel
  rw [← hexchanges] at hserves
  obtain ⟨hfirst, -⟩ := session_first s .ok _ w [.next, .next] hserves
  refine ⟨⟨held, hserves⟩, hfirst fun p hp hempty => ?_⟩
  change ((raw s.cursor).journal w ([.next, .next] ++ [.first])).pages.head? = some p at hp
  rw [hp, Option.map_some, hempty] at hlength
  cases hlength

/-- **Two rows, and no first one**: an honest server created the result with an empty page, and the
rows came with the second page. When the first of them was handed out, `first` tells that there is
no row. -/
theorem first_misses_row :
    let s : Statement := ⟨"http://db", "FOR d IN c RETURN d.name", false, none, []⟩
    let w : Wire := .ofAnswers
      [.ok ⟨201, "\x7b\"id\":\"1\",\"hasMore\":true,\"result\":[]\x7d"⟩,
        .ok ⟨200, "\x7b\"hasMore\":false,\"result\":[\"a\",\"b\"]\x7d"⟩]
    let r := ((raw s.cursor).run w [.next]).2.1
    let v := ((raw s.cursor).run w [.next]).2.2
    (∃ held, Serves s [.string "a", .string "b"] Held.empty
        ((raw s.cursor).journal w [.next, .first]).exchanges held) ∧
      r.cursor.phase = .active ∧ (r.step v .first).1 = .ok (.row none) := by
  intro s w r v
  let created : Answer := .ok ⟨201, "\x7b\"id\":\"1\",\"hasMore\":true,\"result\":[]\x7d"⟩
  let advanced : Answer := .ok ⟨200, "\x7b\"hasMore\":false,\"result\":[\"a\",\"b\"]\x7d"⟩
  have hcreated := @page_of_strings created (some "1") true none [] (by decide +kernel)
  have hadvanced := @page_of_strings advanced none false none ["a", "b"] (by decide +kernel)
  obtain ⟨held, hserves⟩ := @serves_two_pages s _ _ false _ _ _ hcreated hadvanced
  have hexchanges : ((raw s.cursor).journal w [.next, .first]).exchanges =
      [(.create s.query false s.batchSize, created), (.advance "1", advanced)] := by
    decide +kernel
  obtain ⟨hphase, hrecorded⟩ : r.cursor.phase = .active ∧
      r.cursor.head.map Option.isNone = some true := by
    decide +kernel
  have hhead : r.cursor.head = some none := by
    obtain ⟨row, hrow, hnone⟩ := Option.map_eq_some_iff.mp hrecorded
    rw [hrow, Option.isNone_iff_eq_none.mp hnone]
  have hfirst : (r.cursor.first v).result = .ok none := by
    rw [Cursor.first, hphase]
    simp only [Cursor.headRow, hhead]
  rw [← hexchanges] at hserves
  exact ⟨⟨held, hserves⟩, hphase, congrArg r.rowReply hfirst⟩

end Reader

end Pagewise
