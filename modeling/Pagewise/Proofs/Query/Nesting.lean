import Pagewise.Proofs.Query.Swapping

/-!
# Nested queries and sources

A query is put into another one in two ways that have little to do with each other. As a further
`FOR` it stands for its variable and its source: the rest of it may be anything, be frozen or not,
and need not even have a text. As the source behind `IN` it stands for the whole of its text, which
is the frozen one if there is one.

* `Query.SameFor`: what of a query counts where it is a further `FOR`.
* `Query.Exchanged.interchangeable`: queries cannot be told apart when only a further `FOR` of theirs
  was exchanged for one that counts as the same.
* **`Query.nested_by_source`**: what a nested query contributes, and what a source does, to queries
  and expressions of any depth around them.
-/

namespace Pagewise.Query

/-- Queries that are the same as a further `FOR`, whatever else is in them. -/
structure SameFor (n n' : Query) : Prop where
  rowVar : n.rowVar = n'.rowVar
  collection : n.collection = n'.collection
  source : n.source = n'.source

/-- Nested queries, of which any number, at any positions, were exchanged for others that are the
same as a further `FOR`. -/
inductive NestedAlike : List Expr → List Expr → Prop
  | nil : NestedAlike [] []
  | keep (e : Expr) {es es' : List Expr} (htail : NestedAlike es es') :
    NestedAlike (e :: es) (e :: es')
  | exchange {n n' : Query} (hsame : n.SameFor n') {es es' : List Expr}
    (htail : NestedAlike es es') : NestedAlike (.subquery n :: es) (.subquery n' :: es')

/-- A query of which nested queries were exchanged. -/
inductive Exchanged : Query → Query → Prop
  | nested (host : Query) {nested : List Expr} (hnested : NestedAlike host.nested nested) :
    Exchanged host { host with nested }

theorem SameFor.nestedText_eq {n n' : Query} (h : n.SameFor n') (position : Nat) :
    n.nestedText position = n'.nestedText position := by
  rw [Query.nestedText_eq, Query.nestedText_eq, h.rowVar, h.collection, h.source]

theorem NestedAlike.renderNested_eq {es es' : List Expr} (h : NestedAlike es es')
    (position : Nat) : renderNested position es = renderNested position es' := by
  induction h generalizing position with
  | nil => rfl
  | keep e htail ih =>
    cases e with
    | subquery q =>
      simp only [renderNested]
      rw [ih]
    | _ => rfl
  | exchange hsame htail ih =>
    simp only [renderNested]
    rw [hsame.nestedText_eq, ih]

/-- Nothing else of a nested query is ever looked at. -/
theorem Exchanged.interchangeable {q q' : Query} (h : q.Exchanged q') : q.Interchangeable q' := by
  cases h with
  | nested hnested =>
    refine ⟨?_, fun position => ?_⟩
    · rw [text_eq, text_eq, compose, compose, hnested.renderNested_eq]
      rfl
    · rw [nestedText_eq, nestedText_eq]

/-! ## Sources -/

/-- A query over a query fails with the error of that, and else has the text of a query over the
text of that. -/
theorem compose_over_subquery (host s : Query) :
    (host.iterateOver (.subquery s)).compose =
      s.text >>= fun text => (host.iterateOver (.raw text)).compose := by
  have hsource : renderSource host.collection (some (.subquery s)) = s.text := by
    rw [renderSource, Expr.render]
    cases s.text <;> rfl
  rw [compose, iterateOver, hsource]
  cases s.text <;> rfl

theorem nestedText_over_subquery (host s : Query) (position : Nat) :
    (host.iterateOver (.subquery s)).nestedText position =
      forClause (nestedVariable position host.rowVar) <$> s.text := by
  rw [nestedText_eq, iterateOver, renderSource, Expr.render]
  cases s.text <;> rfl

/-- **What a nested query contributes, and what a source does.** Take an expression or a query, and
exchange nested queries of any query in it, at any depth and at any positions, for others with the
same variables, collections and sources. However else these differ, and whether or not they have a
text, an expression keeps its text or its error wherever it stands, and so does a query where it is
rendered, where it is used and where it is a further `FOR`. A query that is the source of another
one contributes the whole of its text, or its error: its frozen text if it has one, and else that of
its clauses. -/
theorem nested_by_source :
    (∀ q q', Swapped Exchanged q q' → q'.render.1 = q.render.1 ∧ q'.text = q.text ∧
      ∀ position, q'.nestedText position = q.nestedText position) ∧
      (∀ e e', Expr.Swapped Exchanged e e' → ∀ place, e'.render place = e.render place) ∧
      ∀ host s : Query,
        (host.iterateOver (.subquery s)).compose =
            s.text >>= (fun text => (host.iterateOver (.raw text)).compose) ∧
          (∀ position, (host.iterateOver (.subquery s)).nestedText position =
            (fun text => "FOR " ++ nestedVariable position host.rowVar ++ " IN " ++ text) <$>
              s.text) ∧
          (∀ text, s.frozenText? = some text → s.text = .ok text) ∧
          (s.frozenText? = none → s.text = s.compose) := by
  have hR : ∀ q q' : Query, q.Exchanged q' → q.Interchangeable q' :=
    fun _ _ h => h.interchangeable
  refine ⟨fun q q' h => ?_, fun e e' h place => (h.render_eq hR place).symm, fun host s => ?_⟩
  · have hsame := h.interchangeable hR
    exact ⟨hsame.render_eq.symm, hsame.text.symm, fun position => (hsame.nestedText position).symm⟩
  · refine ⟨compose_over_subquery host s, nestedText_over_subquery host s, fun text h => ?_,
      fun h => ?_⟩
    · rw [text_eq, h]
    · rw [text_eq, h]

/-- A nested query is exchanged for one that has no text itself and for one that is frozen. -/
theorem nested_by_source_members :
    let members : Query := (ofCollection "members").iterateAs "m"
    let broken : Query := (members.filter "m.a").letVar "x" (.subquery .blank)
    let kept : Query := (members.bind [("a", .null)]).render.2
    let host (n : Query) : Query := (ofCollection "user").nest [.subquery n]
    broken.text = .error .missingSource ∧ kept.isFrozen = true ∧
      (host broken).render.1 = (host members).render.1 ∧
      (host kept).render.1 = (host members).render.1 ∧
      (host members).render.1 = .ok "FOR obj IN user FOR m IN members RETURN obj" := by
  intro members broken kept host
  have hhost {n : Query} (h : members.SameFor n) : Swapped Exchanged (host members) (host n) :=
    .whole (.nested (host members) (.exchange h .nil))
  have hbroken : members.SameFor broken := ⟨rfl, rfl, rfl⟩
  have hkept : members.SameFor kept := ⟨rfl, rfl, rfl⟩
  exact ⟨rfl, rfl, (nested_by_source.1 _ _ (hhost hbroken)).1,
    (nested_by_source.1 _ _ (hhost hkept)).1, rfl⟩

end Pagewise.Query
