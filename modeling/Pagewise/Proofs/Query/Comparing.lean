import Pagewise.Query.Equality
import Pagewise.Proofs.Query.Swapping

/-!
# Queries that compare equal

Expressions are compared part by part, and queries in all that they hold (`Expr.equals`,
`Query.equals`). Only bind values are compared by what they mean, with the zeros of both signs
equal, and no text depends on them. So what compares equal has the same texts.

* `Expr.render_eq_of_equals` and the lemmas beside it: one case for each constructor.
* **`Query.interchangeable_of_equals`**: queries that compare equal cannot be told apart.
* `Expr.entriesEqual_of_get?`: mappings compare equal when their values at every key do.
-/

namespace Pagewise

/-! ## Texts -/

mutual

theorem Expr.render_eq_of_equals (place : Place) {a b : Expr} (h : a.equals b = true) :
    a.render place = b.render place := by
  cases a with
  | raw text =>
    obtain rfl := Expr.equals_raw_iff.mp h
    rfl
  | var v =>
    obtain rfl := Expr.equals_var_iff.mp h
    rfl
  | call f args =>
    obtain ⟨args', rfl, hargs⟩ := Expr.equals_call_iff.mp h
    rw [Expr.render, Expr.render, Expr.renderAll_eq_of_allEqual .clause hargs]
  | subquery q =>
    obtain ⟨q', rfl, hquery⟩ := Expr.equals_subquery_iff.mp h
    rw [Expr.render, Expr.render, Query.text_eq_of_equals hquery]
  | object members =>
    obtain ⟨members', rfl, hmembers⟩ := Expr.equals_object_iff.mp h
    rw [Expr.render, Expr.render, Expr.renderEntries_eq_of_entriesEqual .member hmembers]
  | list items =>
    obtain ⟨items', rfl, hitems⟩ := Expr.equals_list_iff.mp h
    rw [Expr.render, Expr.render, Expr.renderAll_eq_of_allEqual .member hitems,
      Expr.renderAll_eq_of_allEqual .clause hitems]
termination_by structural a

theorem Expr.renderAll_eq_of_allEqual (place : Place) {as bs : List Expr}
    (h : Expr.allEqual as bs = true) : Expr.renderAll place as = Expr.renderAll place bs := by
  cases as with
  | nil =>
    obtain rfl := Expr.allEqual_nil_iff.mp h
    rfl
  | cons a as =>
    obtain ⟨b, bs, rfl, hhead, htail⟩ := Expr.allEqual_cons_iff.mp h
    rw [Expr.renderAll, Expr.renderAll, Expr.render_eq_of_equals place hhead,
      Expr.renderAll_eq_of_allEqual place htail]
termination_by structural as

theorem Expr.renderEntries_eq_of_entriesEqual (place : Place) {as bs : List (String × Expr)}
    (h : Expr.entriesEqual as bs = true) :
    Expr.renderEntries place as = Expr.renderEntries place bs := by
  cases as with
  | nil =>
    obtain rfl := Expr.entriesEqual_nil_iff.mp h
    rfl
  | cons e as =>
    obtain ⟨key, a⟩ := e
    obtain ⟨b, bs, rfl, hhead, htail⟩ := Expr.entriesEqual_cons_iff.mp h
    rw [Expr.renderEntries, Expr.renderEntries, Expr.render_eq_of_equals place hhead,
      Expr.renderEntries_eq_of_entriesEqual place htail]
termination_by structural as

theorem Query.renderLets_eq_of_entriesEqual {as bs : List (String × Expr)}
    (h : Expr.entriesEqual as bs = true) : Query.renderLets as = Query.renderLets bs := by
  cases as with
  | nil =>
    obtain rfl := Expr.entriesEqual_nil_iff.mp h
    rfl
  | cons e as =>
    obtain ⟨name, a⟩ := e
    obtain ⟨b, bs, rfl, hhead, htail⟩ := Expr.entriesEqual_cons_iff.mp h
    rw [Query.renderLets, Query.renderLets, Expr.render_eq_of_equals .clause hhead,
      Query.renderLets_eq_of_entriesEqual htail]
termination_by structural as

theorem Grouping.renderPairs_eq_of_pairsEqual {ps qs : List (Expr × Expr)}
    (h : Grouping.pairsEqual ps qs = true) : Grouping.renderPairs ps = Grouping.renderPairs qs := by
  cases ps with
  | nil =>
    obtain rfl := Grouping.pairsEqual_nil_iff.mp h
    rfl
  | cons p ps =>
    obtain ⟨name, a⟩ := p
    obtain ⟨name', b, rest, rfl, hname, hvalue, htail⟩ := Grouping.pairsEqual_cons_iff.mp h
    rw [Grouping.renderPairs, Grouping.renderPairs, Expr.render_eq_of_equals .clause hname,
      Expr.render_eq_of_equals .clause hvalue, Grouping.renderPairs_eq_of_pairsEqual htail]
termination_by structural ps

theorem Grouping.renderAll_eq_of_allEqual {as bs : List Grouping}
    (h : Grouping.allEqual as bs = true) : Grouping.renderAll as = Grouping.renderAll bs := by
  cases as with
  | nil =>
    obtain rfl := Grouping.allEqual_nil_iff.mp h
    rfl
  | cons g as =>
    obtain ⟨pairs, into⟩ := g
    obtain ⟨pairs', bs, rfl, hpairs, htail⟩ := Grouping.allEqual_cons_iff.mp h
    rw [Grouping.renderAll, Grouping.renderAll, Grouping.renderPairs_eq_of_pairsEqual hpairs,
      Grouping.renderAll_eq_of_allEqual htail]
termination_by structural as

theorem Yield.render_eq_of_equals (rowVar : String) {a b : Yield} (h : a.equals b = true) :
    a.render rowVar = b.render rowVar := by
  cases a with
  | rowVar =>
    obtain rfl := Yield.equals_rowVar_iff.mp h
    rfl
  | single value =>
    obtain ⟨value', rfl, hvalue⟩ := Yield.equals_single_iff.mp h
    exact Expr.render_eq_of_equals .clause hvalue
  | mapping fields =>
    obtain ⟨fields', rfl, hfields⟩ := Yield.equals_mapping_iff.mp h
    rw [Yield.render, Yield.render, Expr.renderEntries_eq_of_entriesEqual .field hfields]
termination_by structural a

theorem Query.renderSource_eq_of_optionsEqual (collection : Option String) {a b : Option Expr}
    (h : Expr.optionsEqual a b = true) :
    Query.renderSource collection a = Query.renderSource collection b := by
  cases a with
  | none =>
    obtain rfl := Expr.optionsEqual_none_iff.mp h
    rfl
  | some a =>
    obtain ⟨b, rfl, hsource⟩ := Expr.optionsEqual_some_iff.mp h
    rw [Query.renderSource, Query.renderSource, Expr.render_eq_of_equals .source hsource]
termination_by structural a

theorem Query.nestedText_eq_of_equals (position : Nat) {q r : Query} (h : q.equals r = true) :
    q.nestedText position = r.nestedText position := by
  obtain ⟨hrowVar, hcollection, hsource, -⟩ := Query.equals_iff.mp h
  cases q
  cases r
  dsimp only at *
  rw [Query.nestedText, Query.nestedText, hrowVar, hcollection,
    Query.renderSource_eq_of_optionsEqual _ hsource]
termination_by structural q

/-- Of the further `FOR` only queries have a text, and only a query compares equal to one. -/
theorem Query.renderNested_eq_of_allEqual (position : Nat) {as bs : List Expr}
    (h : Expr.allEqual as bs = true) :
    Query.renderNested position as = Query.renderNested position bs := by
  cases as with
  | nil =>
    obtain rfl := Expr.allEqual_nil_iff.mp h
    rfl
  | cons a as =>
    obtain ⟨b, bs, rfl, hhead, htail⟩ := Expr.allEqual_cons_iff.mp h
    cases a with
    | subquery q =>
      obtain ⟨q', rfl, hquery⟩ := Expr.equals_subquery_iff.mp hhead
      simp only [Query.renderNested]
      rw [Query.nestedText_eq_of_equals position hquery,
        Query.renderNested_eq_of_allEqual (position + 1) htail]
    | raw =>
      obtain rfl := Expr.equals_raw_iff.mp hhead
      rfl
    | var =>
      obtain rfl := Expr.equals_var_iff.mp hhead
      rfl
    | call =>
      obtain ⟨_, rfl, -⟩ := Expr.equals_call_iff.mp hhead
      rfl
    | object =>
      obtain ⟨_, rfl, -⟩ := Expr.equals_object_iff.mp hhead
      rfl
    | list =>
      obtain ⟨_, rfl, -⟩ := Expr.equals_list_iff.mp hhead
      rfl
termination_by structural as

theorem Query.text_eq_of_equals {q r : Query} (h : q.equals r = true) : q.text = r.text := by
  obtain ⟨hrowVar, hcollection, hsource, hnested, hlets, hfilters, hgroupings, hsortKeys, hlimit,
    hyield, -, -, -, hfrozen, hsnapshot⟩ := Query.equals_iff.mp h
  cases q
  cases r
  dsimp only at *
  rw [Query.text_eq, Query.text_eq, Query.compose, Query.compose, Query.frozenText?,
    Query.frozenText?, hfrozen, hsnapshot, Query.renderSource_eq_of_optionsEqual _ hsource,
    Query.renderNested_eq_of_allEqual 1 hnested, Query.renderLets_eq_of_entriesEqual hlets,
    Grouping.renderAll_eq_of_allEqual hgroupings, Yield.render_eq_of_equals _ hyield, hrowVar,
    hcollection, hfilters, hsortKeys, hlimit]
termination_by structural q

end

/-- **Queries that compare equal cannot be told apart.** -/
theorem Query.interchangeable_of_equals {q r : Query} (h : q.equals r = true) :
    q.Interchangeable r :=
  ⟨Query.text_eq_of_equals h, fun position => Query.nestedText_eq_of_equals position h⟩

/-! ## Mappings -/

/-- **Mappings compare equal when their values at every key do.** -/
theorem Expr.entriesEqual_of_get? {m m' : List (String × Expr)} (h : Keyed.Sorted m)
    (h' : Keyed.Sorted m')
    (hget : ∀ k, Option.Rel (fun a b => a.equals b = true) (Keyed.get? k m) (Keyed.get? k m')) :
    Expr.entriesEqual m m' = true := by
  induction m generalizing m' with
  | nil =>
    cases m' with
    | nil => exact Expr.entriesEqual_nil_iff.mpr rfl
    | cons b rest' =>
      have hhead := hget b.1
      rw [Keyed.get?_head] at hhead
      cases hhead
  | cons a rest ih =>
    cases m' with
    | nil =>
      have hhead := hget a.1
      rw [Keyed.get?_head] at hhead
      cases hhead
    | cons b rest' =>
      have hkeys (k : String) :
          Keyed.get? k (a :: rest) = none ↔ Keyed.get? k (b :: rest') = none := by
        have hrel := hget k
        generalize Keyed.get? k (a :: rest) = o, Keyed.get? k (b :: rest') = o' at hrel ⊢
        cases hrel <;> simp
      have hkey : a.1 = b.1 := h.head_eq h' hkeys
      have hvalue : a.2.equals b.2 = true := by
        have hhead := hget a.1
        rw [Keyed.get?_head, hkey, Keyed.get?_head] at hhead
        cases hhead
        assumption
      have hrest : Expr.entriesEqual rest rest' = true := by
        refine ih (List.pairwise_cons.mp h).2 (List.pairwise_cons.mp h').2 fun k => ?_
        rw [h.get?_tail, h'.get?_tail, hkey]
        split
        · exact .none
        · exact hget k
      obtain ⟨key, value⟩ := a
      obtain ⟨key', value'⟩ := b
      obtain rfl : key = key' := hkey
      exact Expr.entriesEqual_cons_iff.mpr ⟨value', rest', rfl, hvalue, hrest⟩

end Pagewise
