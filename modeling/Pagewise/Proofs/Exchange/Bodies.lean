import Pagewise.Exchange.Page
import Pagewise.Proofs.Json.Records

/-!
# The bodies of answers

A page and a refusal are records. Each of their fields is read from the node that is given for it,
and has a value of its own when there is none; a body in which one field cannot be read is neither.

* `Page.WrittenAs`, `Refusal.WrittenAs`: what a body says.
* **`Page.ofText?_eq_some_iff`**, **`Refusal.ofText?_eq_some_iff`**: that is what is read from it.
* `Page.writtenAs_of_perm`, `Refusal.writtenAs_of_perm`: the order of the members and members with
  other names do not matter.
-/

namespace Pagewise

open Json (Node)

variable {text text' : String} {members members' extra : List (Option String × Node)}

namespace Page

/-- **What a page is read from.** A missing field is no id, no more rows, no count or no rows. -/
structure Spelled (given : String → Option Node) (p : Page) : Prop where
  id : Node.Reads (given "id") none (Node.nullable? Node.string?) p.id
  hasMore : Node.Reads (given "hasMore") false Node.bool? p.hasMore
  count : Node.Reads (given "count") none
    (Node.nullable? (Node.intWithin? 0 (maxUnsigned 64))) (p.count.map Int.ofNat)
  rows : Node.Reads (given "result") [] rows? p.rows

/-- A text says what a page is. -/
def WrittenAs (p : Page) (text : String) : Prop :=
  ∃ node given, Node.ofText? text = some node ∧ node.Gives fieldNames given ∧ p.Spelled given

/-- **A page is read from a text that it is written as.** -/
theorem ofText?_eq_some_iff {p : Page} : ofText? text = some p ↔ p.WrittenAs text := by
  constructor
  · intro h
    simp only [ofText?, Option.bind_eq_bind, Option.bind_eq_some_iff, Node.field?_eq_some_iff,
      Option.pure_def, Option.some.injEq] at h
    obtain ⟨node, hnode, fields, hfields, id, hid, more, hmore, number, hnumber, rows, hrows,
      rfl⟩ := h
    have hcount : (number.map Int.toNat).map Int.ofNat = number := by
      have hnonneg := Node.nonneg_of_reads hnumber
      cases number with
      | none => rfl
      | some n => exact congrArg some (Int.toNat_of_nonneg (hnonneg n rfl))
    refine ⟨node, (Keyed.get? · fields), hnode, ?_, hid, hmore, ?_, hrows⟩
    · exact (Node.gives_iff (by decide)).mpr ⟨fields, hfields, fun _ _ => rfl⟩
    · exact hcount.symm ▸ hnumber
  · rintro ⟨node, given, hnode, hgives, hp⟩
    obtain ⟨fields, hfields, hget⟩ := (Node.gives_iff (by decide)).mp hgives
    simp only [ofText?, Option.bind_eq_bind, Option.bind_eq_some_iff, Node.field?_eq_some_iff,
      Option.pure_def, Option.some.injEq]
    refine ⟨node, hnode, fields, hfields, p.id, ?_, p.hasMore, ?_, p.count.map Int.ofNat, ?_,
      p.rows, ?_, ?_⟩
    · rw [hget "id" (by decide)]
      exact hp.id
    · rw [hget "hasMore" (by decide)]
      exact hp.hasMore
    · rw [hget "count" (by decide)]
      exact hp.count
    · rw [hget "result" (by decide)]
      exact hp.rows
    · have hcount : (p.count.map Int.ofNat).map Int.toNat = p.count := by
        cases p.count <;> rfl
      rw [hcount]

theorem ofText?_eq_none_iff : ofText? text = none ↔ ∀ p : Page, ¬ p.WrittenAs text := by
  simp only [← ofText?_eq_some_iff, Option.eq_none_iff_forall_ne_some, ne_eq]

/-- **The order of the members of a page, and members with other names, do not matter.** -/
theorem writtenAs_of_perm (hnode : Node.ofText? text = some (.object members))
    (hnode' : Node.ofText? text' = some (.object members'))
    (hperm : members'.Perm (members ++ extra)) (hextra : ∀ m ∈ extra, Node.Skipped fieldNames m)
    (p : Page) : p.WrittenAs text' ↔ p.WrittenAs text := by
  simp only [WrittenAs, hnode, hnode', Option.some.injEq, exists_and_left, exists_eq_left',
    Node.gives_iff_of_perm hperm hextra]

end Page

namespace Refusal

/-- **What a refusal is read from.** -/
structure Spelled (given : String → Option Node) (r : Refusal) : Prop where
  message : Node.Reads (given "errorMessage") none (Node.nullable? Node.string?) r.message
  number : Node.Reads (given "errorNum") none
    (Node.nullable? (Node.intWithin? (minSigned 64) (maxSigned 64))) r.number

/-- A text says what a refusal is. -/
def WrittenAs (r : Refusal) (text : String) : Prop :=
  ∃ node given, Node.ofText? text = some node ∧ node.Gives fieldNames given ∧ r.Spelled given

/-- **A refusal is read from a text that it is written as.** -/
theorem ofText?_eq_some_iff {r : Refusal} : ofText? text = some r ↔ r.WrittenAs text := by
  constructor
  · intro h
    simp only [ofText?, Option.bind_eq_bind, Option.bind_eq_some_iff, Node.field?_eq_some_iff,
      Option.pure_def, Option.some.injEq] at h
    obtain ⟨node, hnode, fields, hfields, message, hmessage, number, hnumber, rfl⟩ := h
    refine ⟨node, (Keyed.get? · fields), hnode, ?_, hmessage, hnumber⟩
    exact (Node.gives_iff (by decide)).mpr ⟨fields, hfields, fun _ _ => rfl⟩
  · rintro ⟨node, given, hnode, hgives, hmessage, hnumber⟩
    obtain ⟨fields, hfields, hget⟩ := (Node.gives_iff (by decide)).mp hgives
    simp only [ofText?, Option.bind_eq_bind, Option.bind_eq_some_iff, Node.field?_eq_some_iff,
      Option.pure_def, Option.some.injEq]
    refine ⟨node, hnode, fields, hfields, r.message, ?_, r.number, ?_, rfl⟩
    · rwa [hget "errorMessage" (by decide)]
    · rwa [hget "errorNum" (by decide)]

theorem ofText?_eq_none_iff : ofText? text = none ↔ ∀ r : Refusal, ¬ r.WrittenAs text := by
  simp only [← ofText?_eq_some_iff, Option.eq_none_iff_forall_ne_some, ne_eq]

/-- **The order of the members of a refusal, and members with other names, do not matter.** -/
theorem writtenAs_of_perm (hnode : Node.ofText? text = some (.object members))
    (hnode' : Node.ofText? text' = some (.object members'))
    (hperm : members'.Perm (members ++ extra)) (hextra : ∀ m ∈ extra, Node.Skipped fieldNames m)
    (r : Refusal) : r.WrittenAs text' ↔ r.WrittenAs text := by
  simp only [WrittenAs, hnode, hnode', Option.some.injEq, exists_and_left, exists_eq_left',
    Node.gives_iff_of_perm hperm hextra]

end Refusal

end Pagewise
