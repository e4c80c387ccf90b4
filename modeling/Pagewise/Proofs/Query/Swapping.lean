import Pagewise.Proofs.Query.Freezing

/-!
# Sub-queries that were rendered before

A query that is rendered keeps its text, and is then used by that text where it stands in a query
around it. As a further `FOR` it is used by its variable and its source all the same. Both ways it
has the text that it had before, so nothing around it can tell whether a sub-query was rendered
before it was put in.

* `Query.Swapped`, `Expr.Swapped`: trees that are the same but for some queries in them, at any
  depth.
* `Query.Interchangeable`: what of a query can be told from outside.
* `Query.Swapped.interchangeable`: trees with interchangeable queries have the same texts.
* **`Query.rendered_unnoticed`**: rendering sub-queries beforehand changes no text and no error.
-/

namespace Pagewise

variable {R : Query → Query → Prop}

/-! ## Swapping queries -/

mutual

/-- The same expression, but for some queries in it that were swapped for related ones. -/
inductive Expr.Swapped (R : Query → Query → Prop) : Expr → Expr → Prop
  | same (e : Expr) : Expr.Swapped R e e
  | call (function : String) {args args' : List Expr} (hargs : Expr.AllSwapped R args args') :
      Expr.Swapped R (.call function args) (.call function args')
  | subquery {q q' : Query} (hquery : Query.Swapped R q q') :
      Expr.Swapped R (.subquery q) (.subquery q')
  | object {members members' : List (String × Expr)}
      (hmembers : Expr.EntriesSwapped R members members') :
      Expr.Swapped R (.object members) (.object members')
  | list {items items' : List Expr} (hitems : Expr.AllSwapped R items items') :
      Expr.Swapped R (.list items) (.list items')

/-- The same expressions one after the other. -/
inductive Expr.AllSwapped (R : Query → Query → Prop) : List Expr → List Expr → Prop
  | nil : Expr.AllSwapped R [] []
  | cons {e e' : Expr} {rest rest' : List Expr} (head : Expr.Swapped R e e')
      (tail : Expr.AllSwapped R rest rest') : Expr.AllSwapped R (e :: rest) (e' :: rest')

/-- The same expressions by the same names. -/
inductive Expr.EntriesSwapped (R : Query → Query → Prop) :
    List (String × Expr) → List (String × Expr) → Prop
  | nil : Expr.EntriesSwapped R [] []
  | cons (name : String) {e e' : Expr} {rest rest' : List (String × Expr)}
      (head : Expr.Swapped R e e') (tail : Expr.EntriesSwapped R rest rest') :
      Expr.EntriesSwapped R ((name, e) :: rest) ((name, e') :: rest')

/-- The same pairs of a `COLLECT`. -/
inductive Grouping.PairsSwapped (R : Query → Query → Prop) :
    List (Expr × Expr) → List (Expr × Expr) → Prop
  | nil : Grouping.PairsSwapped R [] []
  | cons {name name' e e' : Expr} {rest rest' : List (Expr × Expr)}
      (left : Expr.Swapped R name name') (right : Expr.Swapped R e e')
      (tail : Grouping.PairsSwapped R rest rest') :
      Grouping.PairsSwapped R ((name, e) :: rest) ((name', e') :: rest')

/-- The same `COLLECT` clauses. -/
inductive Grouping.AllSwapped (R : Query → Query → Prop) : List Grouping → List Grouping → Prop
  | nil : Grouping.AllSwapped R [] []
  | cons (into : Option String) {pairs pairs' : List (Expr × Expr)} {rest rest' : List Grouping}
      (head : Grouping.PairsSwapped R pairs pairs') (tail : Grouping.AllSwapped R rest rest') :
      Grouping.AllSwapped R (⟨pairs, into⟩ :: rest) (⟨pairs', into⟩ :: rest')

/-- The same behind `RETURN`. -/
inductive Yield.Swapped (R : Query → Query → Prop) : Yield → Yield → Prop
  | rowVar : Yield.Swapped R .rowVar .rowVar
  | single {e e' : Expr} (hvalue : Expr.Swapped R e e') : Yield.Swapped R (.single e) (.single e')
  | mapping {fields fields' : List (String × Expr)}
      (hfields : Expr.EntriesSwapped R fields fields') :
      Yield.Swapped R (.mapping fields) (.mapping fields')

/-- The same source, if there is one. -/
inductive Query.SourceSwapped (R : Query → Query → Prop) : Option Expr → Option Expr → Prop
  | none : Query.SourceSwapped R none none
  | some {e e' : Expr} (hsource : Expr.Swapped R e e') :
      Query.SourceSwapped R (some e) (some e')

/-- A query that was swapped as a whole, or the same but for some queries in its clauses. -/
inductive Query.Swapped (R : Query → Query → Prop) : Query → Query → Prop
  | whole {q q' : Query} (hswap : R q q') : Query.Swapped R q q'
  | clauses (q : Query) {source : Option Expr} {nested : List Expr} {lets : List (String × Expr)}
      {groupings : List Grouping} {yield : Yield}
      (hsource : Query.SourceSwapped R q.source source)
      (hnested : Expr.AllSwapped R q.nested nested)
      (hlets : Expr.EntriesSwapped R q.lets lets)
      (hgroupings : Grouping.AllSwapped R q.groupings groupings)
      (hyield : Yield.Swapped R q.yield yield) :
      Query.Swapped R q { q with source, nested, lets, groupings, yield }

end

/-- **What of a query can be told from outside**: its text where it stands in an expression, and its
variable and source where it is a further `FOR`. -/
structure Query.Interchangeable (q q' : Query) : Prop where
  text : q.text = q'.text
  nestedText : ∀ position, q.nestedText position = q'.nestedText position

theorem Query.Interchangeable.render_eq {q q' : Query} (h : q.Interchangeable q') :
    q.render.1 = q'.render.1 := by
  rw [q.renders.text_eq, q'.renders.text_eq, h.text]

/-! ## What swapped queries do to the text -/

mutual

theorem Expr.Swapped.render_eq (hR : ∀ q q', R q q' → q.Interchangeable q') {e e' : Expr}
    (h : Expr.Swapped R e e') (place : Place) : e.render place = e'.render place := by
  cases h with
  | same => rfl
  | call function hargs => rw [Expr.render, Expr.render, hargs.render_eq hR]
  | subquery hquery => rw [Expr.render, Expr.render, (hquery.interchangeable hR).text]
  | object hmembers => rw [Expr.render, Expr.render, hmembers.render_eq hR]
  | list hitems => rw [Expr.render, Expr.render, hitems.render_eq hR, hitems.render_eq hR]

theorem Expr.AllSwapped.render_eq (hR : ∀ q q', R q q' → q.Interchangeable q')
    {es es' : List Expr} (h : Expr.AllSwapped R es es') (place : Place) :
    Expr.renderAll place es = Expr.renderAll place es' := by
  cases h with
  | nil => rfl
  | cons head tail =>
    rw [Expr.renderAll, Expr.renderAll, head.render_eq hR, tail.render_eq hR]

/-- Of the further `FOR` only queries have a text, swapped or not. -/
theorem Expr.AllSwapped.renderNested_eq (hR : ∀ q q', R q q' → q.Interchangeable q')
    {es es' : List Expr} (h : Expr.AllSwapped R es es') (position : Nat) :
    Query.renderNested position es = Query.renderNested position es' := by
  cases h with
  | nil => rfl
  | @cons e _ _ _ head tail =>
    cases head with
    | subquery hquery =>
      simp only [Query.renderNested]
      rw [(hquery.interchangeable hR).nestedText, tail.renderNested_eq hR]
    | same =>
      cases e with
      | subquery q =>
        simp only [Query.renderNested]
        rw [tail.renderNested_eq hR]
      | _ => rfl
    | call | object | list => rfl

theorem Expr.EntriesSwapped.render_eq (hR : ∀ q q', R q q' → q.Interchangeable q')
    {es es' : List (String × Expr)} (h : Expr.EntriesSwapped R es es') (place : Place) :
    Expr.renderEntries place es = Expr.renderEntries place es' := by
  cases h with
  | nil => rfl
  | cons name head tail =>
    rw [Expr.renderEntries, Expr.renderEntries, head.render_eq hR, tail.render_eq hR]

theorem Expr.EntriesSwapped.renderLets_eq (hR : ∀ q q', R q q' → q.Interchangeable q')
    {ls ls' : List (String × Expr)} (h : Expr.EntriesSwapped R ls ls') :
    Query.renderLets ls = Query.renderLets ls' := by
  cases h with
  | nil => rfl
  | cons name head tail =>
    rw [Query.renderLets, Query.renderLets, head.render_eq hR, tail.renderLets_eq hR]

theorem Grouping.PairsSwapped.render_eq (hR : ∀ q q', R q q' → q.Interchangeable q')
    {ps ps' : List (Expr × Expr)} (h : Grouping.PairsSwapped R ps ps') :
    Grouping.renderPairs ps = Grouping.renderPairs ps' := by
  cases h with
  | nil => rfl
  | cons left right tail =>
    rw [Grouping.renderPairs, Grouping.renderPairs, left.render_eq hR, right.render_eq hR,
      tail.render_eq hR]

theorem Grouping.AllSwapped.render_eq (hR : ∀ q q', R q q' → q.Interchangeable q')
    {gs gs' : List Grouping} (h : Grouping.AllSwapped R gs gs') :
    Grouping.renderAll gs = Grouping.renderAll gs' := by
  cases h with
  | nil => rfl
  | cons into head tail =>
    rw [Grouping.renderAll, Grouping.renderAll, head.render_eq hR, tail.render_eq hR]

theorem Yield.Swapped.render_eq (hR : ∀ q q', R q q' → q.Interchangeable q') {y y' : Yield}
    (h : Yield.Swapped R y y') (rowVar : String) : y.render rowVar = y'.render rowVar := by
  cases h with
  | rowVar => rfl
  | single hvalue => rw [Yield.render, Yield.render, hvalue.render_eq hR]
  | mapping hfields => rw [Yield.render, Yield.render, hfields.render_eq hR]

theorem Query.SourceSwapped.render_eq (hR : ∀ q q', R q q' → q.Interchangeable q')
    {s s' : Option Expr} (h : Query.SourceSwapped R s s') (collection : Option String) :
    Query.renderSource collection s = Query.renderSource collection s' := by
  cases h with
  | none => rfl
  | some hsource => rw [Query.renderSource, Query.renderSource, hsource.render_eq hR]

/-- **Trees with interchangeable queries are interchangeable**, at any depth. -/
theorem Query.Swapped.interchangeable (hR : ∀ q q', R q q' → q.Interchangeable q') {q q' : Query}
    (h : Query.Swapped R q q') : q.Interchangeable q' := by
  cases h with
  | whole hswap => exact hR _ _ hswap
  | clauses q hsource hnested hlets hgroupings hyield =>
    refine ⟨?_, fun position => ?_⟩
    · rw [Query.text_eq, Query.text_eq, Query.compose, Query.compose, hsource.render_eq hR,
        hnested.renderNested_eq hR, hlets.renderLets_eq hR, hgroupings.render_eq hR,
        hyield.render_eq hR]
      rfl
    · rw [Query.nestedText_eq, Query.nestedText_eq, hsource.render_eq hR]

end

namespace Query

/-! ## Queries that were rendered -/

/-- A query that has a text, and the same query once that was rendered. -/
def Rendered (q q' : Query) : Prop :=
  ∃ text, q.render = (.ok text, q')

/-- A query that was rendered cannot be told from what it was. -/
theorem Rendered.interchangeable {q q' : Query} (h : q.Rendered q') : q.Interchangeable q' := by
  obtain ⟨text, hrender⟩ := h
  have hrenders := q.renders
  have hkept := @frozenText?_render q text
  rw [hrender] at hrenders hkept
  constructor
  · have htext : q.text = .ok text := hrenders.text_eq.symm
    by_cases henabled : q.cacheEnabled = true
    · rw [htext, (gives_of_frozenText? (hkept henabled rfl)).preview]
    · cases hrenders with
      | again => rfl
      | anew => rw [freeze, if_neg henabled]
  · -- what a further `FOR` is made of is not touched by a rendering
    intro position
    have hthawed : q'.thawed = q.thawed := hrenders.thawed_eq
    have hrowVar : q'.rowVar = q.rowVar := congrArg (fun r => r.rowVar) hthawed
    have hcollection : q'.collection = q.collection := congrArg (fun r => r.collection) hthawed
    have hsource : q'.source = q.source := congrArg (fun r => r.source) hthawed
    rw [nestedText_eq, nestedText_eq, hrowVar, hcollection, hsource]

/-- **Rendering sub-queries beforehand goes unnoticed.** Take an expression or a query, and put the
same query as it is after a rendering that succeeded in the place of any queries in it: as a source
or a further `FOR`, or in an expression of any clause, call, list, object or mapping, at any depth.
Then an expression has the same text wherever it stands, or fails with the same error, and so does a
query where it is rendered, where it is used and where it is a further `FOR`. -/
theorem rendered_unnoticed :
    (∀ e e', Expr.Swapped Rendered e e' → ∀ place, e'.render place = e.render place) ∧
      ∀ q q', Query.Swapped Rendered q q' →
        q'.render.1 = q.render.1 ∧ q'.text = q.text ∧
          ∀ position, q'.nestedText position = q.nestedText position := by
  have hR : ∀ q q' : Query, q.Rendered q' → q.Interchangeable q' := fun _ _ h => h.interchangeable
  refine ⟨fun e e' h place => (h.render_eq hR place).symm, fun q q' h => ?_⟩
  obtain ⟨htext, hnested⟩ := h.interchangeable hR
  refine ⟨?_, htext.symm, fun position => (hnested position).symm⟩
  rw [q.renders.text_eq, q'.renders.text_eq, htext]

/-- One sub-query in three places, of which two take it as it is after a rendering. -/
theorem rendered_unnoticed_friends :
    let friends : Query := (ofCollection "friends").iterateAs "f"
    let kept : Query := friends.render.2
    let host (q₁ q₂ q₃ : Query) : Query := ((ofCollection "user").nest [.subquery q₁]).letVar "n"
      (.call "N" [.list [.subquery q₂], .subquery q₃])
    friends.isFrozen = false ∧ kept.isFrozen = true ∧
      (host kept friends kept).render.1 = (host friends friends friends).render.1 ∧
      (host kept friends kept).render.1 = .ok ("FOR obj IN user FOR f IN friends LET n = " ++
        "N((FOR f IN friends RETURN f), (FOR f IN friends RETURN f)) RETURN obj") := by
  intro friends kept host
  have hhost (q q' : Query) (h : Expr.Swapped Rendered (.subquery q) (.subquery q')) :
      Query.Swapped Rendered (host q q q) (host q' q q') :=
    .clauses (host q q q) .none (.cons h .nil)
      (.cons "n" (.call "N" (.cons (.same _) (.cons h .nil))) .nil) .nil .rowVar
  have hkept : Query.Swapped Rendered (host friends friends friends) (host kept friends kept) :=
    hhost friends kept (.subquery (.whole ⟨_, rfl⟩))
  exact ⟨rfl, rfl, (rendered_unnoticed.2 _ _ hkept).1, rfl⟩

end Query

end Pagewise
