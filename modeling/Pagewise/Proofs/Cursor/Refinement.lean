import Pagewise.Proofs.Cursor.Server

/-!
# A cursor reads like a list

With an honest server a cursor cannot be told from the list of its rows: `next` gives one row after
the other, and the number of the rows and the last one are those of the whole list, wherever the
cursor is and however the server cuts the list into pages.

* `Cursor.Reads`: the rows that a cursor has still to give.
* **`Reader.session_like_list`**: the replies of every session are those of the list.
-/

namespace Pagewise

open Server

/-! ## Lists -/

/-- The reply of a list of rows, of which the rest was not given yet. -/
def Op.replyOf (rows rest : List Json) : Op Json → Reply Json
  | .next => .row rest.head?
  | .first => .row rows.head?
  | .last => .row rows.getLast?
  | .length => .length rows.length
  | .isEmpty => .isEmpty rows.isEmpty
  | .close | .decodeWith _ => .done

/-- The rows that are not given yet after an operation. -/
def Op.restOf (rest : List Json) : Op Json → List Json
  | .next => rest.tail
  | .close => []
  | _ => rest

/-- The replies of a list of rows, of which the rest was not given yet. -/
def listReplies (rows : List Json) : List Json → List (Op Json) → List (Reply Json)
  | _, [] => []
  | rest, op :: ops => op.replyOf rows rest :: listReplies rows (op.restOf rest) ops

/-! ## Cursors -/

namespace Cursor

/-- **The rows that a cursor has still to give**, when the server is honest: those in its buffer,
and the batches that the server holds under its name. -/
structure Reads (s : Statement) (rows : List Json) (held : Held) (c : Cursor) (rest : List Json) :
    Prop where
  statement : c.toStatement = s
  wellFormed : c.WellFormed
  /-- It has not failed. -/
  sound : c.phase ≠ .failed
  total : c.total = none ∨ c.total = some rows.length
  unstarted : c.phase = .unstarted → rest = rows
  whole : c.phase = .active → c.hasMore = false → rest = c.buffer
  more : c.phase = .active → c.hasMore = true →
    ∃ id, c.id = some id ∧ held id ≠ [] ∧ rest = c.buffer ++ (held id).flatten
  exhausted : c.phase = .exhausted → rest = []

theorem reads_cursor (s : Statement) (rows : List Json) :
    s.cursor.Reads s rows Held.empty rows where
  statement := rfl
  wellFormed := wellFormed_cursor s
  sound h := by cases h
  total := .inl rfl
  unstarted _ := rfl
  whole h := by cases h
  more h := by cases h
  exhausted h := by cases h

namespace Reads

variable {s : Statement} {rows rest : List Json} {held m held' : Held} {c : Cursor} {w : Wire}
  {count : Bool}

/-- Only what is held under the name of the cursor matters. -/
theorem of_held (h : c.Reads s rows held rest) (heq : ∀ id, held id ≠ [] → held' id = held id) :
    c.Reads s rows held' rest where
  statement := h.statement
  wellFormed := h.wellFormed
  sound := h.sound
  total := h.total
  unstarted := h.unstarted
  whole := h.whole
  more ha hmore := by
    obtain ⟨id, hid, hheld, hrest⟩ := h.more ha hmore
    refine ⟨id, hid, ?_, ?_⟩
    · rw [heq id hheld]
      exact hheld
    · rw [heq id hheld]
      exact hrest
  exhausted := h.exhausted

/-- The first of the buffered rows is the first to give. -/
theorem head_eq (h : c.Reads s rows held rest) {row : Json} {buffer : List Json}
    (hbuffer : c.buffer = row :: buffer) : rest.head? = some row := by
  have hphase := h.wellFormed.active_of_buffer hbuffer
  cases hmore : c.hasMore with
  | false =>
    rw [h.whole hphase hmore, hbuffer]
    rfl
  | true =>
    obtain ⟨id, -, -, hrest⟩ := h.more hphase hmore
    rw [hrest, hbuffer]
    rfl

theorem hand (h : c.Reads s rows held rest) {row : Json} {buffer : List Json}
    (hbuffer : c.buffer = row :: buffer) : { c with buffer }.Reads s rows held rest.tail where
  statement := h.statement
  wellFormed := by
    have hwf := h.wellFormed.after (.hand hbuffer)
    simpa only [Cursor.after, hbuffer, List.tail_cons] using hwf
  sound := h.sound
  total := h.total
  unstarted hu := absurd ((h.wellFormed.active_of_buffer hbuffer).symm.trans hu) (by decide)
  whole ha hmore := by
    rw [h.whole ha hmore, hbuffer]
    rfl
  more ha hmore := by
    obtain ⟨id, hid, hheld, hrest⟩ := h.more ha hmore
    refine ⟨id, hid, hheld, ?_⟩
    rw [hrest, hbuffer]
    rfl
  exhausted he := absurd ((h.wellFormed.active_of_buffer hbuffer).symm.trans he) (by decide)

/-- Nothing is left to give at the end. -/
theorem finish (h : c.Reads s rows held rest) : c.finish.Reads s rows held' [] where
  statement := h.statement
  wellFormed := wellFormed_finish c
  sound hf := by cases hf
  total := h.total
  unstarted hu := by cases hu
  whole ha := by cases ha
  more ha := by cases ha
  exhausted _ := rfl

/-! ### Pages -/

/-- A page of the result: the batches after it are those that are held under the name. -/
theorem receive (h : c.Reads s rows held rest) (hphase : c.phase = .unstarted ∨ c.phase = .active)
    {p : Page} (htotal : p.count = none ∨ p.count = some rows.length)
    (hwhole : p.hasMore = false → rest = p.rows)
    (hmore : p.hasMore = true →
      ∃ id, p.id.or c.id = some id ∧ held' id ≠ [] ∧ rest = p.rows ++ (held' id).flatten) :
    (c.receive p).Reads s rows held' rest where
  statement := h.statement
  wellFormed := h.wellFormed.receive hphase p
  sound hf := by cases hf
  total := by
    rcases h.total with hc | hc
    · simpa only [Cursor.receive, hc, Option.none_or] using htotal
    · simp only [Cursor.receive, hc]
      exact .inr rfl
  unstarted hu := by cases hu
  whole _ := hwhole
  more _ := hmore
  exhausted he := by cases he

/-- The first page opens the cursor over all rows. -/
theorem create (h : c.Reads s rows held rest) (hphase : c.phase = .unstarted) {p : Page}
    (opens : Opens rows count held p held') :
    (c.receive p).Reads s rows held' rest ∧
      (count = true → (c.receive p).total = some rows.length) := by
  obtain rfl := h.unstarted hphase
  have hcount := opens.count_eq
  constructor
  · refine h.receive (.inl hphase) ?_ (fun hno => ?_) (fun hyes => ?_)
    · cases count with
      | false => exact .inl hcount
      | true => exact .inr hcount
    · cases opens with
      | whole _ _ hrows => exact hrows.symm
      | cut _ hmore => exact absurd (hno.symm.trans hmore) Bool.false_ne_true
    · cases opens with
      | whole _ hmore => exact absurd (hmore.symm.trans hyes) Bool.false_ne_true
      | @cut id batches _ _ hrows hbatches hid _ =>
        refine ⟨id, ?_, ?_, ?_⟩
        · rw [hid, Option.some_or]
        · rw [Held.set_self]
          exact hbatches
        · rw [Held.set_self]
          exact hrows.symm
  · intro hforced
    have htotal := (h.wellFormed.unstarted hphase).2.2.2.2
    rw [hforced, if_pos rfl] at hcount
    simp only [Cursor.receive, htotal, Option.none_or]
    exact hcount

/-- A later page is the next of the batches that are held under the name. -/
theorem advance (h : c.Reads s rows held rest) (hphase : c.phase = .active)
    (hbuffer : c.buffer = []) (hmore : c.hasMore = true) {id : String} (hid : c.id = some id)
    {batches : List (List Json)} {p : Page} (hheld : held id = p.rows :: batches)
    (hp : p.hasMore = !batches.isEmpty) (hname : p.id = none ∨ p.id = some id)
    (hcount : p.count = none ∨ p.count = some rows.length) :
    (c.receive p).Reads s rows (held.set id batches) rest := by
  obtain ⟨id', hid', -, hrest⟩ := h.more hphase hmore
  obtain rfl := Option.some.inj (hid.symm.trans hid')
  rw [hbuffer, hheld, List.nil_append, List.flatten_cons] at hrest
  refine h.receive (.inr hphase) hcount (fun hno => ?_) (fun hyes => ⟨id, ?_, ?_, ?_⟩)
  · rw [hno] at hp
    cases batches with
    | nil => exact hrest.trans (List.append_nil _)
    | cons _ _ => cases hp
  · rcases hname with hname | hname
    · rw [hname, hid, Option.none_or]
    · rw [hname, Option.some_or]
  · rw [Held.set_self]
    rintro rfl
    rw [hyes] at hp
    cases hp
  · rw [Held.set_self]
    exact hrest

/-- **A page that is due can be fetched**, and the rows to give stay the same. -/
theorem fetch (h : c.Reads s rows held rest) (may : c.MayFetch count)
    (hs : Serves s rows held (Journal.exchanges [c.fetchEvent count w]) held') :
    (c.fetch count w).result = .ok () ∧ (c.fetch count w).cursor.Reads s rows held' rest ∧
      (c.phase = .unstarted → count = true →
        (c.fetch count w).cursor.total = some rows.length) := by
  rw [Journal.exchanges_single] at hs
  obtain ⟨hphase, -⟩ | ⟨hphase, hbuffer, hmore⟩ := may
  · have hd : c.pageDemand? count = some (.create c.query count c.batchSize) := by
      rw [pageDemand?, hphase]
    rw [fetchEvent, hd] at hs
    obtain ⟨p, hpage, opens⟩ :=
      (serves_single.mp hs).1 (congrArg Statement.query h.statement)
    obtain ⟨hresult, hcursor⟩ := fetch_of_page hd hpage
    obtain ⟨hreads, htotal⟩ := h.create hphase opens
    rw [hcursor]
    exact ⟨hresult, hreads, fun _ => htotal⟩
  · obtain ⟨id, hid, hheld, -⟩ := h.more hphase hmore
    obtain ⟨batch, batches, hbatches⟩ := List.exists_cons_of_ne_nil hheld
    have hd : c.pageDemand? count = some (.advance id) := by
      rw [pageDemand?, hphase, hid]
    rw [fetchEvent, hd] at hs
    obtain ⟨p, hpage, rfl, hp, hname, hcount, rfl⟩ := serves_single.mp hs batch batches hbatches
    obtain ⟨hresult, hcursor⟩ := fetch_of_page hd hpage
    rw [hcursor]
    refine ⟨hresult, h.advance hphase hbuffer hmore hid hbatches hp hname hcount, fun hu => ?_⟩
    exact absurd (hphase.symm.trans hu) (by decide)

/-! ### Beside the result -/

/-- A cursor that was opened beside the result is deleted, and the result is as it was. -/
theorem discard (h : c.Reads s rows held rest) {others : List Json} {p : Page}
    (opens : Opens others count held p m)
    (hs : Serves s rows m (Journal.exchanges (c.discardJournal p w)) held') :
    (c.discard p w).1 = .ok () ∧ c.Reads s rows held' rest := by
  unfold Statement.discardJournal at hs
  unfold Statement.discard
  cases opens with
  | whole _ hmore _ =>
    rw [hmore] at hs ⊢
    cases hid : p.id with
    | none | some _ =>
      rw [hid] at hs
      obtain rfl : held' = held := hs
      exact ⟨rfl, h⟩
  | @cut id batches _ hmore _ _ hid hfresh =>
    rw [hmore, hid] at hs ⊢
    obtain ⟨hcheck, rfl⟩ := serves_single.mp hs
    simp only [Wire.order_eq]
    refine ⟨hcheck, h.of_held fun other hother => ?_⟩
    have hne : other ≠ id := fun heq => hother (heq ▸ hfresh)
    rw [Held.set_of_ne hne, Held.set_of_ne hne]

/-- A demand beside the result is answered by a page, and the result is as it was. -/
theorem beside (h : c.Reads s rows held rest) {purpose : Purpose} {d : Demand} {Q : Page → Prop}
    (answered : ∀ m answer, Answers s rows held answer m d →
      ∃ p others count, answer.page = .ok p ∧ Q p ∧ Opens others count held p m)
    (hs : Serves s rows held (Journal.exchanges (c.besideJournal purpose d w)) held') :
    ∃ p, (w.send (d.request c.toStatement)).1.page = .ok p ∧ Q p ∧
      (c.discard p (w.send (d.request c.toStatement)).2).1 = .ok () ∧
      c.Reads s rows held' rest := by
  unfold Statement.besideJournal at hs
  rw [← List.singleton_append, Journal.exchanges_append, serves_append] at hs
  obtain ⟨m, hasked, hdiscarded⟩ := hs
  obtain ⟨p, others, count, hpage, hp, opens⟩ := answered m _ (serves_single.mp hasked)
  rw [hpage] at hdiscarded
  obtain ⟨hdone, hreads⟩ := h.discard opens hdiscarded
  exact ⟨p, hpage, hp, hdone, hreads⟩

theorem rowAt (h : c.Reads s rows held rest) {k : Nat}
    (hs : Serves s rows held (Journal.exchanges (c.rowJournal k w)) held') :
    (c.rowAt k w).1 = .ok rows[k]? ∧ c.Reads s rows held' rest := by
  obtain ⟨p, hpage, hrows, hdone, hreads⟩ := h.beside (Q := fun p => p.rows = rows[k]?.toList)
    (fun m answer hanswers => by
      obtain ⟨p, hpage, hrows, opens⟩ :=
        hanswers.2 k (congrArg (Statement.queryAt · k) h.statement)
      exact ⟨p, _, _, hpage, hrows, opens⟩) hs
  refine ⟨?_, hreads⟩
  unfold Statement.rowAt
  simp only [Demand.request] at hpage hdone
  simp only [Wire.ask_eq, hpage]
  split
  · rename_i he
    rw [he] at hdone
    cases hdone
  · rw [hrows]
    exact congrArg Except.ok Option.head?_toList

/-- A cursor that has started may be told the number of its rows. -/
theorem counted (h : c.Reads s rows held rest) (hphase : c.phase = .active ∨ c.phase = .exhausted) :
    { c with total := some rows.length }.Reads s rows held rest where
  statement := h.statement
  wellFormed := by
    refine ⟨fun hu => ?_, h.wellFormed.active, h.wellFormed.exhausted, h.wellFormed.failed⟩
    rcases hphase with ha | he
    · exact absurd (ha.symm.trans hu) (by decide)
    · exact absurd (he.symm.trans hu) (by decide)
  sound := h.sound
  total := .inr rfl
  unstarted := h.unstarted
  whole := h.whole
  more := h.more
  exhausted := h.exhausted

theorem recount (h : c.Reads s rows held rest) (hphase : c.phase = .active ∨ c.phase = .exhausted)
    (hs : Serves s rows held (Journal.exchanges (c.recountJournal w)) held') :
    (c.recount w).result = .ok rows.length ∧ (c.recount w).cursor.Reads s rows held' rest := by
  obtain ⟨p, hpage, hcount, hdone, hreads⟩ := h.beside (Q := fun p => p.count = some rows.length)
    (fun m answer hanswers => by
      obtain ⟨p, hpage, opens⟩ := hanswers.1 (congrArg Statement.query h.statement)
      exact ⟨p, _, _, hpage, opens.count_eq, opens⟩) hs
  unfold Cursor.recount
  simp only [Demand.request] at hpage hdone
  simp only [Wire.ask_eq, hpage]
  split
  · rename_i he
    rw [he] at hdone
    cases hdone
  · rw [hcount]
    exact ⟨rfl, hreads.counted hphase⟩

/-! ### Operations -/

/-- **`next` gives the first of the rows**, however many empty pages come before it. -/
theorem next (h : c.Reads s rows held rest)
    (hs : Serves s rows held (Journal.exchanges (c.nextJournal w)) held') :
    (c.next w).result = .ok rest.head? ∧ (c.next w).cursor.Reads s rows held' rest.tail := by
  fun_induction Cursor.next c w generalizing held with
  | case1 c w hf => exact absurd hf h.sound
  | case2 c w hf he =>
    rw [nextJournal, if_neg hf, if_pos he] at hs
    obtain rfl : held' = held := hs
    obtain rfl := h.exhausted he
    exact ⟨rfl, h⟩
  | case3 c w hf he row buffer hbuffer =>
    rw [nextJournal_of_row hf he hbuffer] at hs
    obtain rfl : held' = held := hs
    rw [h.head_eq hbuffer]
    exact ⟨rfl, h.hand hbuffer⟩
  | case4 c w hf he hbuffer hmore e c₁ w₁ fetched =>
    rw [nextJournal_of_error hf he hbuffer hmore fetched] at hs
    obtain ⟨hresult, -⟩ := h.fetch (mayFetch_of_next hf he hbuffer hmore) hs
    rw [fetched] at hresult
    cases hresult
  | case5 c w hf he hbuffer hmore c₁ w₁ fetched ih =>
    rw [nextJournal_of_ok hf he hbuffer hmore fetched, ← List.singleton_append,
      Journal.exchanges_append, serves_append] at hs
    obtain ⟨m, hfetched, hrest⟩ := hs
    obtain ⟨-, hreads, -⟩ := h.fetch (mayFetch_of_next hf he hbuffer hmore) hfetched
    rw [fetched] at hreads
    exact ih hreads hrest
  | case6 c w hf he hbuffer hmore =>
    rw [nextJournal_of_end hf he hbuffer hmore] at hs
    obtain rfl : held' = held := hs
    rw [not_or] at hmore
    have hwhole := h.whole (phase_active hf he hmore.1) (Bool.eq_false_iff.mpr hmore.2)
    obtain rfl := hwhole.trans hbuffer
    exact ⟨rfl, h.finish⟩

theorem length (h : c.Reads s rows held rest)
    (hs : Serves s rows held (Journal.exchanges (c.lengthJournal w)) held') :
    (c.length w).result = .ok rows.length ∧ (c.length w).cursor.Reads s rows held' rest := by
  unfold lengthJournal at hs
  unfold Cursor.length
  cases htotal : c.total with
  | some n =>
    rw [htotal] at hs
    obtain rfl : held' = held := hs
    obtain hnone | hsome := h.total
    · cases htotal.symm.trans hnone
    · obtain rfl := Option.some.inj (htotal.symm.trans hsome)
      exact ⟨rfl, h⟩
  | none =>
    rw [htotal] at hs
    cases hphase : c.phase with
    | failed => exact absurd hphase h.sound
    | unstarted =>
      rw [hphase] at hs
      obtain ⟨hresult, hreads, hknown⟩ := h.fetch (.inl ⟨hphase, .inr rfl⟩) hs
      simp only
      rcases hfetch : c.fetch true w with ⟨_ | _, c', w'⟩ <;> rw [hfetch] at hresult hreads hknown
      · cases hresult
      · have htotal : c'.total = some rows.length := hknown hphase rfl
        refine ⟨?_, hreads⟩
        simp only [knownTotal, htotal]
    | active =>
      rw [hphase] at hs
      exact h.recount (.inl hphase) hs
    | exhausted =>
      rw [hphase] at hs
      exact h.recount (.inr hphase) hs

theorem last (h : c.Reads s rows held rest)
    (hs : Serves s rows held (Journal.exchanges (c.lastJournal w)) held') :
    (c.last w).result = .ok rows.getLast? ∧ (c.last w).cursor.Reads s rows held' rest := by
  unfold lastJournal at hs
  rw [if_neg h.sound] at hs
  unfold Cursor.last
  rw [if_neg h.sound]
  have hcount := fun m => @length s rows rest held m c w h
  rcases hlength : c.length w with ⟨_ | _ | n, c', w'⟩ <;> rw [hlength] at hs hcount
  · cases (hcount _ hs).1
  · obtain ⟨hresult, hreads⟩ := hcount _ hs
    obtain rfl := List.length_eq_zero_iff.mp (Except.ok.inj hresult).symm
    exact ⟨rfl, hreads⟩
  · rw [Journal.exchanges_append, serves_append] at hs
    obtain ⟨m, hcounted, hrow⟩ := hs
    obtain ⟨hresult, hreads⟩ := hcount _ hcounted
    obtain ⟨hat, hreads'⟩ := hreads.rowAt hrow
    refine ⟨?_, hreads'⟩
    have hn : n + 1 = rows.length := Except.ok.inj hresult
    rw [List.getLast?_eq_getElem?, ← hn]
    exact hat

theorem close (h : c.Reads s rows held rest)
    (hs : Serves s rows held (Journal.exchanges (c.closeJournal w)) held') :
    (c.close w).result = .ok () ∧ (c.close w).cursor.Reads s rows held' [] := by
  have hclosed : ∀ m, c.closed.Reads s rows m [] := by
    intro m
    rw [closed, if_neg h.sound]
    exact h.finish
  have hresult : (c.close w).result = .ok () := by
    unfold closeJournal at hs
    unfold Cursor.close
    cases hid : c.id with
    | none => rfl
    | some id =>
      cases hmore : c.hasMore with
      | false => rfl
      | true =>
        rw [hid, hmore] at hs
        obtain ⟨m, ⟨hcheck, -⟩, -⟩ := hs
        simp only [Wire.order_eq]
        rw [hcheck]
  rw [Cursor.close_of_ok _ _ hresult]
  exact ⟨hresult, hclosed held'⟩

end Reads

end Cursor

/-! ## Sessions -/

namespace Reader

variable {s : Statement} {rows rest : List Json} {held held' : Held} {c : Cursor} {w : Wire}

/-- **One operation**: the reply of the list, and the cursor reads what the list has left. -/
theorem step_like_list (op : Op Json) (hfirst : op ≠ .first)
    (hdecode : ∀ decode, op ≠ .decodeWith decode) (h : c.Reads s rows held rest)
    (hs : Serves s rows held (((raw c).stepJournal w op).exchanges) held') :
    ((raw c).step w op).1 = .ok (op.replyOf rows rest) ∧
      ((raw c).step w op).2.1 = raw ((raw c).step w op).2.1.cursor ∧
      ((raw c).step w op).2.1.cursor.Reads s rows held' (op.restOf rest) := by
  cases op with
  | next =>
    obtain ⟨hresult, hreads⟩ := h.next hs
    refine ⟨?_, rfl, hreads⟩
    simp only [step, after, rowReply, raw, hresult, Op.replyOf]
    cases rest.head? <;> rfl
  | last =>
    obtain ⟨hresult, hreads⟩ := h.last hs
    refine ⟨?_, rfl, hreads⟩
    simp only [step, after, rowReply, raw, hresult, Op.replyOf]
    cases rows.getLast? <;> rfl
  | length =>
    obtain ⟨hresult, hreads⟩ := h.length hs
    refine ⟨?_, rfl, hreads⟩
    simp only [step, after, raw, hresult]
    rfl
  | isEmpty =>
    obtain ⟨hresult, hreads⟩ := h.length hs
    refine ⟨?_, rfl, hreads⟩
    simp only [step, after, raw, Cursor.isEmpty, Outcome.map, hresult, Op.replyOf]
    cases rows <;> rfl
  | close =>
    obtain ⟨hresult, hreads⟩ := h.close hs
    refine ⟨?_, rfl, hreads⟩
    simp only [step, after, raw, hresult]
    rfl
  | first => exact absurd rfl hfirst
  | decodeWith decode => exact absurd rfl (hdecode decode)

theorem run_like_list (ops : List (Op Json)) (hfirst : .first ∉ ops)
    (hdecode : ∀ decode, .decodeWith decode ∉ ops) (h : c.Reads s rows held rest)
    (hs : Serves s rows held (((raw c).journal w ops).exchanges) held') :
    ((raw c).run w ops).1 = (listReplies rows rest ops).map .ok := by
  induction ops generalizing c w held rest with
  | nil => rfl
  | cons op ops ih =>
    rw [List.mem_cons, not_or] at hfirst
    have hop : ∀ decode, op ≠ .decodeWith decode := fun decode heq =>
      hdecode decode (heq ▸ List.mem_cons_self)
    have hops : ∀ decode, .decodeWith decode ∉ ops := fun decode hmem =>
      hdecode decode (List.mem_cons_of_mem op hmem)
    rw [journal, along, Journal.exchanges_append, serves_append] at hs
    obtain ⟨m, hstep, hrest⟩ := hs
    obtain ⟨hreply, hraw, hreads⟩ := step_like_list op (Ne.symm hfirst.1) hop h hstep
    rw [hraw] at hrest
    have hreplies := ih hfirst.2 hops hreads hrest
    rw [← hraw] at hreplies
    simp only [run, listReplies, List.map_cons]
    rw [hreply, hreplies]

/-- **A cursor reads like a list.** Against a server that is honest about some rows, however it cuts
them into pages and whatever the statement says of counts and sizes, no operation of a session
fails: `next` gives the rows in their order and then none for ever, or none from the first `close`
on, and the number of rows, whether there are any and the last of them are always those of all
rows. -/
theorem session_like_list (s : Statement) (rows : List Json) (w : Wire) (ops : List (Op Json))
    (hfirst : .first ∉ ops) (hdecode : ∀ decode, .decodeWith decode ∉ ops) {held : Held}
    (hs : Serves s rows Held.empty ((raw s.cursor).journal w ops).exchanges held) :
    ((raw s.cursor).run w ops).1 = (listReplies rows rows ops).map .ok :=
  run_like_list ops hfirst hdecode (Cursor.reads_cursor s rows) hs

/-- Two rows in two pages, counted when the first was handed out. -/
theorem session_like_list_two_pages :
    let s : Statement := ⟨"http://db", "FOR d IN c RETURN d.name", false, none, []⟩
    let w : Wire := .ofAnswers
      [.ok ⟨201, "\x7b\"id\":\"1\",\"hasMore\":true,\"result\":[\"a\"]\x7d"⟩,
        .ok ⟨201, "\x7b\"id\":\"2\",\"hasMore\":true,\"count\":2,\"result\":[\"a\"]\x7d"⟩,
        .ok ⟨202, ""⟩,
        .ok ⟨200, "\x7b\"hasMore\":false,\"result\":[\"b\"]\x7d"⟩,
        .ok ⟨201, "\x7b\"hasMore\":false,\"result\":[\"b\"]\x7d"⟩]
    ((raw s.cursor).run w [.next, .length, .next, .last, .next, .close, .isEmpty]).1 =
      [.ok (.row (some (.string "a"))), .ok (.length 2), .ok (.row (some (.string "b"))),
        .ok (.row (some (.string "b"))), .ok (.row none), .ok .done, .ok (.isEmpty false)] := by
  intro s w
  let rows : List Json := [.string "a", .string "b"]
  let created : Answer := .ok ⟨201, "\x7b\"id\":\"1\",\"hasMore\":true,\"result\":[\"a\"]\x7d"⟩
  let counted : Answer :=
    .ok ⟨201, "\x7b\"id\":\"2\",\"hasMore\":true,\"count\":2,\"result\":[\"a\"]\x7d"⟩
  let deleted : Answer := .ok ⟨202, ""⟩
  let advanced : Answer := .ok ⟨200, "\x7b\"hasMore\":false,\"result\":[\"b\"]\x7d"⟩
  let single : Answer := .ok ⟨201, "\x7b\"hasMore\":false,\"result\":[\"b\"]\x7d"⟩
  let opened : Held := Held.empty.set "1" [[.string "b"]]
  let beside : Held := opened.set "2" [[.string "b"]]
  let alone : Held := beside.set "2" []
  let done : Held := alone.set "1" []
  have hexchanges : ((raw s.cursor).journal w
      [.next, .length, .next, .last, .next, .close, .isEmpty]).exchanges =
      [(.create s.query false none, created), (.create s.query true (some 1), counted),
        (.delete "2", deleted), (.advance "1", advanced),
        (.create (s.queryAt 1) false (some 1), single)] := by
    decide +kernel
  have hcreated := @page_of_strings created (some "1") true none ["a"] (by decide +kernel)
  have hcounted := @page_of_strings counted (some "2") true (some 2) ["a"] (by decide +kernel)
  have hadvanced := @page_of_strings advanced none false none ["b"] (by decide +kernel)
  have hsingle := @page_of_strings single none false none ["b"] (by decide +kernel)
  have hother : ∀ k, s.query ≠ s.queryAt k := fun k => (s.queryAt_ne k).symm
  have hcreate : Answers s rows Held.empty created opened (.create s.query false none) :=
    ⟨fun _ => ⟨_, hcreated, .cut rfl rfl rfl (by simp) rfl rfl⟩, fun k hk => absurd hk (hother k)⟩
  have hcount : Answers s rows opened counted beside (.create s.query true (some 1)) :=
    ⟨fun _ => ⟨_, hcounted, .cut rfl rfl rfl (by simp) rfl rfl⟩, fun k hk => absurd hk (hother k)⟩
  have hdelete : Answers s rows beside deleted alone (.delete "2") := ⟨rfl, rfl⟩
  have hadvance : Answers s rows alone advanced done (.advance "1") := by
    intro batch rest hheld
    obtain ⟨rfl, rfl⟩ := List.cons.inj hheld
    exact ⟨_, hadvanced, rfl, rfl, .inl rfl, .inl rfl, rfl⟩
  have hrow : Answers s rows done single done (.create (s.queryAt 1) false (some 1)) := by
    refine ⟨fun h => absurd h.symm (hother 1), fun k hk => ?_⟩
    obtain rfl := s.queryAt_injective hk
    exact ⟨_, hsingle, rfl, .whole rfl rfl rfl⟩
  have hs : Serves s rows Held.empty ((raw s.cursor).journal w
      [.next, .length, .next, .last, .next, .close, .isEmpty]).exchanges done := by
    rw [hexchanges]
    exact ⟨_, hcreate, _, hcount, _, hdelete, _, hadvance, _, hrow, rfl⟩
  exact session_like_list s rows w _ (by simp) (by simp) hs

end Reader

end Pagewise
