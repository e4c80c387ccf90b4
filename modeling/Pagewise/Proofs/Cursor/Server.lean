import Pagewise.Proofs.Cursor.Journal

/-!
# Honest servers

A server that has a list of rows for a query. It cuts the rows into batches as it likes, holds the
batches that were not fetched yet under the name of their cursor, and gives the next one when it is
asked by that name. `Server.Answers` is what it promises for one demand, and `Server.Serves` for
one demand after the other. About demands that are not listed it promises nothing.

The size of a batch is never promised, so whatever holds with such a server holds for every cut.
-/

namespace Pagewise

/-! ## Queries for one row -/

namespace Statement

/-- No query is the query for one of its own rows. -/
theorem queryAt_ne (s : Statement) (k : Nat) : s.queryAt k ≠ s.query := by
  intro h
  delta queryAt at h
  have hlength := congrArg String.length h
  rw [String.length_append, String.length_append, String.length_append,
    String.length_append] at hlength
  have hprefix : "FOR row IN (".length = 12 := rfl
  omega

/-- Rows at different positions are asked for by different queries. -/
theorem queryAt_injective (s : Statement) {k k' : Nat} (h : s.queryAt k = s.queryAt k') :
    k = k' := by
  delta queryAt at h
  have hrepr := (String.append_right_inj _).mp ((String.append_left_inj _).mp h)
  exact Decimal.repr_injective hrepr

end Statement

namespace Server

/-! ## What a server holds -/

/-- The batches that are still to come, under the names of their cursors. -/
abbrev Held := String → List (List Json)

/-- A server that holds nothing. -/
def Held.empty : Held := fun _ => []

/-- Other batches under one name. -/
def Held.set (held : Held) (id : String) (batches : List (List Json)) : Held := fun other =>
  if other = id then batches else held other

@[simp]
theorem Held.set_self (held : Held) (id : String) (batches : List (List Json)) :
    held.set id batches id = batches :=
  if_pos rfl

theorem Held.set_of_ne {held : Held} {id other : String} {batches : List (List Json)}
    (h : other ≠ id) : held.set id batches other = held other :=
  if_neg h

/-! ## What a server answers -/

/-- **The first page of a cursor over some rows**: all of them, or the first batch of a cut. What is
left of a cut is held under a name that no other cursor has. The rows are counted if that was asked
for. -/
inductive Opens (rows : List Json) (count : Bool) (held : Held) (p : Page) : Held → Prop
  | whole (hcount : p.count = if count then some rows.length else none) (hmore : p.hasMore = false)
      (hrows : p.rows = rows) : Opens rows count held p held
  | cut {id : String} {rest : List (List Json)}
      (hcount : p.count = if count then some rows.length else none) (hmore : p.hasMore = true)
      (hrows : p.rows ++ rest.flatten = rows) (hrest : rest ≠ []) (hid : p.id = some id)
      (hfresh : held id = []) : Opens rows count held p (held.set id rest)

/-- **What an honest server answers** that has these rows for a query, and what it holds then. -/
def Answers (s : Statement) (rows : List Json) (held : Held) (answer : Answer) (held' : Held) :
    Demand → Prop
  | .create query count _ =>
    (query = s.query → ∃ p, answer.page = .ok p ∧ Opens rows count held p held') ∧
      ∀ k, query = s.queryAt k →
        ∃ p, answer.page = .ok p ∧ p.rows = rows[k]?.toList ∧ Opens p.rows count held p held'
  | .advance id =>
    ∀ batch rest, held id = batch :: rest →
      ∃ p, answer.page = .ok p ∧ p.rows = batch ∧ p.hasMore = !rest.isEmpty ∧
        (p.id = none ∨ p.id = some id) ∧ (p.count = none ∨ p.count = some rows.length) ∧
        held' = held.set id rest
  | .delete id => answer.check = .ok () ∧ held' = held.set id []

/-- What was asked and answered, one after the other, is what an honest server answers. -/
def Serves (s : Statement) (rows : List Json) (held : Held) :
    List (Demand × Answer) → Held → Prop
  | [], held' => held' = held
  | x :: xs, held' => ∃ m, Answers s rows held x.2 m x.1 ∧ Serves s rows m xs held'

variable {s : Statement} {rows : List Json} {held held' : Held}

theorem serves_append {xs ys : List (Demand × Answer)} :
    Serves s rows held (xs ++ ys) held' ↔
      ∃ m, Serves s rows held xs m ∧ Serves s rows m ys held' := by
  induction xs generalizing held with
  | nil =>
    constructor
    · exact fun h => ⟨held, rfl, h⟩
    · rintro ⟨m, rfl, h⟩
      exact h
  | cons x xs ih =>
    constructor
    · rintro ⟨m, hx, h⟩
      obtain ⟨n, hxs, hys⟩ := ih.mp h
      exact ⟨n, ⟨m, hx, hxs⟩, hys⟩
    · rintro ⟨n, ⟨m, hx, hxs⟩, hys⟩
      exact ⟨m, hx, ih.mpr ⟨n, hxs, hys⟩⟩

theorem serves_single {x : Demand × Answer} :
    Serves s rows held [x] held' ↔ Answers s rows held x.2 held' x.1 := by
  constructor
  · rintro ⟨m, hx, rfl⟩
    exact hx
  · exact fun h => ⟨held', h, rfl⟩

theorem Opens.count_eq {count : Bool} {p : Page} (h : Opens rows count held p held') :
    p.count = if count then some rows.length else none := by
  cases h with
  | whole hcount | cut hcount => exact hcount

end Server

end Pagewise
