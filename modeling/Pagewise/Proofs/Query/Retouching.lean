import Pagewise.Proofs.Query.Swapping

/-!
# Changes all over a tree

A change can be made at every variable of a tree, by the place that the variable stands in, and to
the bind variables and options of every query in it, at any depth (`Retouch`). When it keeps the
text that each variable has in its place, the tree keeps its text, as nothing else of a tree depends
on what was changed.

* `Expr.retouch`, `Query.retouch`: a tree with a change made all over it.
* `Expr.render_retouch` and the lemmas beside it: one case for each constructor.
* **`Query.retouch_interchangeable`**, `Query.render_retouch`: a query cannot be told from what it
  was, and freezes alike.
* `Expr.retouchAll_eq` and the lemmas at the end: a change is made to each part of a clause.
-/

namespace Pagewise

/-- Where the items of a list stand that stands somewhere itself. -/
def Place.ofItems : Place → Place
  | .member => .member
  | .source | .clause | .field => .clause

/-- A change to make all over a tree. -/
structure Retouch where
  /-- What becomes of a variable that stands in some place. -/
  var : Place → Var → Var
  binds : List (String × Json) → List (String × Json)
  options : CursorOptions → CursorOptions

/-- A change that keeps the text of each variable. -/
def Retouch.KeepsText (t : Retouch) : Prop :=
  ∀ place v, (t.var place v).render place = v.render place

/-! ## Making a change -/

mutual

/-- An expression in some place, with a change made all over it. -/
def Expr.retouch (t : Retouch) (place : Place) : Expr → Expr
  | .raw text => .raw text
  | .var v => .var (t.var place v)
  | .call function args => .call function (Expr.retouchAll t .clause args)
  | .subquery q => .subquery (q.retouch t)
  | .object members => .object (Expr.retouchEntries t .member members)
  | .list items => .list (Expr.retouchAll t place.ofItems items)

/-- Expressions that all stand in one kind of place. -/
def Expr.retouchAll (t : Retouch) (place : Place) : List Expr → List Expr
  | [] => []
  | e :: rest => e.retouch t place :: Expr.retouchAll t place rest

/-- Named expressions. -/
def Expr.retouchEntries (t : Retouch) (place : Place) :
    List (String × Expr) → List (String × Expr)
  | [] => []
  | (name, e) :: rest => (name, e.retouch t place) :: Expr.retouchEntries t place rest

/-- The pairs of a `COLLECT`. -/
def Grouping.retouchPairs (t : Retouch) : List (Expr × Expr) → List (Expr × Expr)
  | [] => []
  | (name, e) :: rest =>
    (name.retouch t .clause, e.retouch t .clause) :: Grouping.retouchPairs t rest

/-- The `COLLECT` clauses. -/
def Grouping.retouchAll (t : Retouch) : List Grouping → List Grouping
  | [] => []
  | ⟨pairs, into⟩ :: rest => ⟨Grouping.retouchPairs t pairs, into⟩ :: Grouping.retouchAll t rest

/-- What stands behind `RETURN`. -/
def Yield.retouch (t : Retouch) : Yield → Yield
  | .rowVar => .rowVar
  | .single value => .single (value.retouch t .clause)
  | .mapping fields => .mapping (Expr.retouchEntries t .field fields)

/-- The source, if there is one. -/
def Query.retouchSource (t : Retouch) : Option Expr → Option Expr
  | none => none
  | some source => some (source.retouch t .source)

/-- A query with a change made all over it. What is frozen stays as it is. -/
def Query.retouch (t : Retouch) : Query → Query
  | ⟨rowVar, collection, source, nested, lets, filters, groupings, sortKeys, limit, yield, binds,
      options, cacheEnabled, frozen, snapshot⟩ =>
    ⟨rowVar, collection, Query.retouchSource t source, Expr.retouchAll t .clause nested,
      Expr.retouchEntries t .clause lets, filters, Grouping.retouchAll t groupings, sortKeys, limit,
      yield.retouch t, t.binds binds, t.options options, cacheEnabled, frozen, snapshot⟩

end

variable {t : Retouch}

/-! ## Texts -/

mutual

theorem Expr.render_retouch (ht : t.KeepsText) (place : Place) :
    ∀ e : Expr, (e.retouch t place).render place = e.render place
  | .raw _ => rfl
  | .var v => congrArg Except.ok (ht place v)
  | .call _ args => by
    rw [Expr.retouch, Expr.render, Expr.render, Expr.renderAll_retouch ht]
  | .subquery q => by
    rw [Expr.retouch, Expr.render, Expr.render, Query.text_retouch ht]
  | .object members => by
    rw [Expr.retouch, Expr.render, Expr.render, Expr.renderEntries_retouch ht]
  | .list items => by
    rw [Expr.retouch, Expr.render, Expr.render]
    cases place <;> simp only [Place.ofItems, reduceCtorEq, if_false, if_true] <;>
      rw [Expr.renderAll_retouch ht]

theorem Expr.renderAll_retouch (ht : t.KeepsText) (place : Place) :
    ∀ es : List Expr,
      Expr.renderAll place (Expr.retouchAll t place es) = Expr.renderAll place es
  | [] => rfl
  | e :: rest => by
    rw [Expr.retouchAll, Expr.renderAll, Expr.renderAll, Expr.render_retouch ht,
      Expr.renderAll_retouch ht]

theorem Expr.renderEntries_retouch (ht : t.KeepsText) (place : Place) :
    ∀ es : List (String × Expr),
      Expr.renderEntries place (Expr.retouchEntries t place es) = Expr.renderEntries place es
  | [] => rfl
  | (name, e) :: rest => by
    rw [Expr.retouchEntries, Expr.renderEntries, Expr.renderEntries, Expr.render_retouch ht,
      Expr.renderEntries_retouch ht]

theorem Query.renderLets_retouch (ht : t.KeepsText) :
    ∀ ls : List (String × Expr),
      Query.renderLets (Expr.retouchEntries t .clause ls) = Query.renderLets ls
  | [] => rfl
  | (name, e) :: rest => by
    rw [Expr.retouchEntries, Query.renderLets, Query.renderLets, Expr.render_retouch ht,
      Query.renderLets_retouch ht]

theorem Grouping.renderPairs_retouch (ht : t.KeepsText) :
    ∀ ps : List (Expr × Expr),
      Grouping.renderPairs (Grouping.retouchPairs t ps) = Grouping.renderPairs ps
  | [] => rfl
  | (name, e) :: rest => by
    rw [Grouping.retouchPairs, Grouping.renderPairs, Grouping.renderPairs, Expr.render_retouch ht,
      Expr.render_retouch ht, Grouping.renderPairs_retouch ht]

theorem Grouping.renderAll_retouch (ht : t.KeepsText) :
    ∀ gs : List Grouping, Grouping.renderAll (Grouping.retouchAll t gs) = Grouping.renderAll gs
  | [] => rfl
  | ⟨pairs, into⟩ :: rest => by
    rw [Grouping.retouchAll, Grouping.renderAll, Grouping.renderAll,
      Grouping.renderPairs_retouch ht, Grouping.renderAll_retouch ht]

theorem Yield.render_retouch (ht : t.KeepsText) (rowVar : String) :
    ∀ y : Yield, (y.retouch t).render rowVar = y.render rowVar
  | .rowVar => rfl
  | .single value => by
    rw [Yield.retouch, Yield.render, Yield.render, Expr.render_retouch ht]
  | .mapping fields => by
    rw [Yield.retouch, Yield.render, Yield.render, Expr.renderEntries_retouch ht]

theorem Query.renderSource_retouch (ht : t.KeepsText) (collection : Option String) :
    ∀ source : Option Expr,
      Query.renderSource collection (Query.retouchSource t source) =
        Query.renderSource collection source
  | none => rfl
  | some source => by
    rw [Query.retouchSource, Query.renderSource, Query.renderSource, Expr.render_retouch ht]

theorem Query.nestedText_retouch (ht : t.KeepsText) (position : Nat) :
    ∀ q : Query, (q.retouch t).nestedText position = q.nestedText position
  | ⟨_, collection, source, _, _, _, _, _, _, _, _, _, _, _, _⟩ => by
    rw [Query.retouch, Query.nestedText, Query.nestedText, Query.renderSource_retouch ht]

/-- Whether something can be a further `FOR` is not changed. -/
theorem Query.renderNested_retouch (ht : t.KeepsText) (position : Nat) :
    ∀ es : List Expr,
      Query.renderNested position (Expr.retouchAll t .clause es) = Query.renderNested position es
  | [] => rfl
  | .subquery q :: rest => by
    simp only [Expr.retouchAll, Expr.retouch, Query.renderNested]
    rw [Query.nestedText_retouch ht, Query.renderNested_retouch ht]
  | .raw _ :: _ | .var _ :: _ | .call _ _ :: _ | .object _ :: _ | .list _ :: _ => rfl

theorem Query.text_retouch (ht : t.KeepsText) : ∀ q : Query, (q.retouch t).text = q.text
  | ⟨rowVar, collection, source, nested, lets, filters, groupings, sortKeys, limit, yield, binds,
      options, cacheEnabled, frozen, snapshot⟩ => by
    rw [Query.retouch, Query.text_eq, Query.text_eq, Query.compose, Query.compose,
      Query.renderSource_retouch ht, Query.renderNested_retouch ht, Query.renderLets_retouch ht,
      Grouping.renderAll_retouch ht, Yield.render_retouch ht]
    rfl

end

namespace Query

/-- **A query cannot be told from what it was** before a change that keeps texts. -/
theorem retouch_interchangeable (ht : t.KeepsText) (q : Query) : (q.retouch t).Interchangeable q :=
  ⟨text_retouch ht q, fun position => nestedText_retouch ht position q⟩

/-- Queries that are the same after a change that keeps texts cannot be told apart. -/
theorem interchangeable_of_retouch (ht : t.KeepsText) {q q' : Query}
    (h : q.retouch t = q'.retouch t) : q.Interchangeable q' := by
  obtain ⟨htext, hnested⟩ := retouch_interchangeable ht q
  obtain ⟨htext', hnested'⟩ := retouch_interchangeable ht q'
  refine ⟨?_, fun position => ?_⟩
  · rw [← htext, h, htext']
  · rw [← hnested, h, hnested']

/-! ## Renderings -/

/-- What is frozen, and all that is no expression, stays as it is. -/
theorem retouch_eq (t : Retouch) (q : Query) : q.retouch t =
    { q with
      source := retouchSource t q.source
      nested := Expr.retouchAll t .clause q.nested
      lets := Expr.retouchEntries t .clause q.lets
      groupings := Grouping.retouchAll t q.groupings
      yield := q.yield.retouch t
      binds := t.binds q.binds
      options := t.options q.options } := by
  cases q
  rfl

/-- The clauses have the text that the query has without a frozen one. -/
theorem compose_eq_text (q : Query) : q.compose = q.thawed.text := by
  rw [text_eq]
  rfl

theorem compose_retouch (ht : t.KeepsText) (q : Query) : (q.retouch t).compose = q.compose := by
  have hthawed : (q.retouch t).thawed = q.thawed.retouch t := by
    rw [retouch_eq, retouch_eq]
    rfl
  rw [compose_eq_text, hthawed, text_retouch ht, compose_eq_text]

theorem freeze_retouch (t : Retouch) (text : String) (q : Query) :
    (q.retouch t).freeze text = (q.freeze text).retouch t := by
  have henabled : (q.retouch t).cacheEnabled = q.cacheEnabled := by rw [retouch_eq]
  unfold freeze
  rw [henabled]
  split
  · rw [retouch_eq, retouch_eq]
  · rfl

theorem renderAnew_retouch (ht : t.KeepsText) (q : Query) :
    (q.retouch t).renderAnew = (q.renderAnew.1, q.renderAnew.2.retouch t) := by
  unfold renderAnew
  rw [compose_retouch ht]
  cases q.compose with
  | error e => rfl
  | ok text => exact congrArg (Prod.mk (Except.ok text)) (freeze_retouch t text q)

/-- **A query is rendered and frozen alike** before and after a change that keeps texts. -/
theorem render_retouch (ht : t.KeepsText) (q : Query) :
    (q.retouch t).render = (q.render.1, q.render.2.retouch t) := by
  have hfrozen : (q.retouch t).frozen = q.frozen := by rw [retouch_eq]
  have hsnapshot : (q.retouch t).snapshot = q.snapshot := by rw [retouch_eq]
  unfold render
  rw [hfrozen, hsnapshot, renderAnew_retouch ht]
  cases q.frozen <;> cases q.snapshot <;> rfl

end Query

/-! ## Lists of parts -/

theorem Expr.retouchAll_eq (t : Retouch) (place : Place) (es : List Expr) :
    Expr.retouchAll t place es = es.map (·.retouch t place) := by
  induction es with
  | nil => rfl
  | cons e rest ih => rw [Expr.retouchAll, ih, List.map_cons]

theorem Expr.retouchEntries_eq (t : Retouch) (place : Place) (es : List (String × Expr)) :
    Expr.retouchEntries t place es = es.map fun e => (e.1, e.2.retouch t place) := by
  induction es with
  | nil => rfl
  | cons e rest ih => rw [Expr.retouchEntries, ih, List.map_cons]

theorem Grouping.retouchAll_append (t : Retouch) (gs later : List Grouping) :
    Grouping.retouchAll t (gs ++ later) = Grouping.retouchAll t gs ++ Grouping.retouchAll t later := by
  induction gs with
  | nil => rfl
  | cons g gs ih =>
    obtain ⟨pairs, into⟩ := g
    rw [List.cons_append, Grouping.retouchAll, ih, Grouping.retouchAll, List.cons_append]

end Pagewise
