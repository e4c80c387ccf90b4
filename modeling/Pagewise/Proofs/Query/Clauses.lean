import Pagewise.Proofs.Query.History

/-!
# The clauses of a query and the order of edits

Each edit is about one clause (`Edit.clause`), and what a query holds in a clause is read off the
edits of that clause alone. So edits of different clauses can be made in any order.

* `declared_eq_of_about`: what edits declare depends on the edits of each clause only.
* `compose_eq`: the text of a query is that of its clauses (`clauseTexts`), with single blanks
  between them; a clause without text fails the whole, and of several the first does.
* **`edits_in_any_order`**: edits that agree clause by clause make the same query, which has the
  text of the clauses that the edits declare.
-/

namespace Pagewise.Query

/-! ## Edits clause by clause -/

/-- What an edit can be about. The cache is counted as a clause, as `alwaysRender` is about it. -/
inductive Clause where
  | rowVar
  | source
  | nested
  | lets
  | filters
  | groupings
  | sortKeys
  | limit
  | yield
  | binds
  | options
  | cache
deriving DecidableEq, Repr

/-- The clause that an edit is about. -/
def Edit.clause : Edit → Clause
  | .iterateAs _ => .rowVar
  | .iterateOver _ => .source
  | .nest _ => .nested
  | .letVar _ _ => .lets
  | .filter _ => .filters
  | .collect _ _ => .groupings
  | .sort _ => .sortKeys
  | .limitTo _ => .limit
  | .result _ | .resultField _ _ => .yield
  | .bind _ => .binds
  | .fetchWith _ => .options
  | .alwaysRender => .cache

/-- The edits of one clause, in their order. -/
def about (c : Clause) (es : List Edit) : List Edit :=
  es.filter fun e => e.clause = c

variable {es es' : List Edit}

/-- What edits say of one clause is said by the edits about it. -/
theorem filterMap_about {β : Type} {read : Edit → Option β} {c : Clause}
    (hread : ∀ e, e.clause ≠ c → read e = none) (es : List Edit) :
    (about c es).filterMap read = es.filterMap read := by
  rw [about, List.filterMap_filter]
  congr 1
  funext e
  by_cases he : e.clause = c
  · simp [he]
  · simp [he, hread e he]

theorem filterMap_eq_of_about (h : ∀ c, about c es = about c es') {β : Type}
    (read : Edit → Option β) (c : Clause) (hread : ∀ e, e.clause ≠ c → read e = none) :
    es.filterMap read = es'.filterMap read := by
  rw [← filterMap_about hread es, h c, filterMap_about hread es']

/-- **What edits declare depends on the edits of each clause only.** -/
theorem declared_eq_of_about (h : ∀ c, about c es = about c es') (o : Origin) :
    declared o es = declared o es' := by
  unfold declared
  rw [filterMap_eq_of_about h Edit.rowVar? .rowVar, filterMap_eq_of_about h Edit.source? .source,
    filterMap_eq_of_about h Edit.nested? .nested, filterMap_eq_of_about h Edit.let? .lets,
    filterMap_eq_of_about h Edit.filter? .filters,
    filterMap_eq_of_about h Edit.grouping? .groupings,
    filterMap_eq_of_about h Edit.sortKeys? .sortKeys, filterMap_eq_of_about h Edit.limit? .limit,
    filterMap_eq_of_about h Edit.yield? .yield, filterMap_eq_of_about h Edit.binds? .binds,
    filterMap_eq_of_about h Edit.options? .options,
    filterMap_eq_of_about h Edit.alwaysRender? .cache]
  -- What is left for each reading: an edit of another clause says nothing of this one.
  all_goals
    intro e he
    cases e <;> first | rfl | exact absurd rfl he

/-- Edits that agree clause by clause fail alike. -/
theorem fault_eq_of_about (h : ∀ c, about c es = about c es') :
    es.filterMap Edit.fault? = es'.filterMap Edit.fault? := by
  refine filterMap_eq_of_about h Edit.fault? .groupings fun e he => ?_
  cases e <;> first | rfl | exact absurd rfl he

/-! ## The texts of clauses -/

/-- A nested query stands for its `FOR`, and anything else in its place is an error. -/
def nestedText? (e : Expr) (position : Nat) : Except QueryError String :=
  match e with
  | .subquery q => q.nestedText position
  | _ => .error (.nestedNotQuery position)

/-- One name with its value in a `LET`. -/
def letText? (l : String × Expr) : Except QueryError String :=
  ("LET " ++ l.1 ++ " = " ++ ·) <$> l.2.render .clause

/-- One group name with its expression. -/
def pairText? (pair : Expr × Expr) : Except QueryError String := do
  return (← pair.1.render .clause) ++ " = " ++ (← pair.2.render .clause)

/-- Whether a `COLLECT` is written at all. -/
def isShown (g : Grouping) : Bool :=
  !g.pairs.isEmpty || g.into.isSome

/-- One `COLLECT`, with its pairs if it has any and the name of the group if it has one. -/
def groupingText? (g : Grouping) : Except QueryError String := do
  let pairs ← (g.pairs.map pairText?).mapM id
  return "COLLECT" ++ (if pairs = [] then "" else " " ++ ", ".intercalate pairs)
    ++ g.into.elim "" (" INTO " ++ ·)

/-- One `LIMIT`, with the offset if there is one. -/
def limitText (bound : Limit) : String :=
  "LIMIT " ++ bound.offset.elim "" (Nat.repr · ++ ", ") ++ Nat.repr bound.count

/-- **The clauses of a query**, in the order in which they are written, each with its text or with
the error in place of it. -/
def clauseTexts (q : Query) : List (Except QueryError String) :=
  [("FOR " ++ q.rowVar ++ " IN " ++ ·) <$> renderSource q.collection q.source]
    ++ (q.nested.zipIdx 1).map (fun e => nestedText? e.1 e.2)
    ++ q.lets.map letText?
    ++ (q.filters.map ("FILTER " ++ ·)).map .ok
    ++ (q.groupings.filter isShown).map groupingText?
    ++ (if q.sortKeys = [] then [] else ["SORT " ++ ", ".intercalate q.sortKeys]).map .ok
    ++ (q.limit.toList.map limitText).map .ok
    ++ [("RETURN " ++ ·) <$> q.yield.render q.rowVar]

theorem mapM_ok (texts : List String) :
    (texts.map Except.ok).mapM id = (pure texts : Except QueryError (List String)) := by
  induction texts with
  | nil => rfl
  | cons text texts ih => rw [List.map_cons, List.mapM_cons, ih]; rfl

theorem renderNested_eq (position : Nat) (es : List Expr) :
    renderNested position es =
      ((es.zipIdx position).map fun e => nestedText? e.1 e.2).mapM id := by
  induction es generalizing position with
  | nil => rfl
  | cons e es ih =>
    rw [List.zipIdx_cons, List.map_cons, List.mapM_cons, ← ih]
    cases e <;> rfl

theorem renderLets_eq (ls : List (String × Expr)) :
    renderLets ls = (ls.map letText?).mapM id := by
  induction ls with
  | nil => rfl
  | cons l ls ih =>
    rw [List.map_cons, List.mapM_cons, ← ih, renderLets, id, letText?]
    cases l.2.render .clause <;> rfl

theorem renderPairs_eq (pairs : List (Expr × Expr)) :
    Grouping.renderPairs pairs = (pairs.map pairText?).mapM id := by
  induction pairs with
  | nil => rfl
  | cons pair pairs ih =>
    rw [List.map_cons, List.mapM_cons, ← ih, Grouping.renderPairs]
    simp only [id, pairText?, bind_assoc, pure_bind]
    rfl

theorem renderAll_eq (gs : List Grouping) :
    Grouping.renderAll gs = ((gs.filter isShown).map groupingText?).mapM id := by
  induction gs with
  | nil => rfl
  | cons g gs ih =>
    obtain ⟨pairs, into⟩ := g
    rw [Grouping.renderAll, ih, renderPairs_eq]
    by_cases hshown : isShown ⟨pairs, into⟩ = true
    · rw [List.filter_cons_of_pos hshown, List.map_cons, List.mapM_cons]
      -- Whether there are pairs is known before their texts are.
      cases pairs with
      | nil =>
        cases into with
        | none => cases hshown
        | some name => rfl
      | cons pair pairs =>
        simp only [id, groupingText?, List.map_cons, List.mapM_cons, bind_assoc, pure_bind]
        cases into <;> rfl
    · obtain ⟨rfl, rfl⟩ : pairs = [] ∧ into = none := by simpa [isShown] using hshown
      rw [List.filter_cons_of_neg hshown]
      simp only [List.map_nil, List.mapM_nil, pure_bind, collectClauses, List.nil_append, bind_pure]

theorem sortClauses_eq (keys : List String) :
    sortClauses keys = if keys = [] then [] else ["SORT " ++ ", ".intercalate keys] := by
  cases keys <;> rfl

theorem limitClauses_eq (limit : Option Limit) :
    limitClauses limit = limit.toList.map limitText := by
  obtain _ | ⟨count, _ | offset⟩ := limit
  · rfl
  · rfl
  · simp [limitClauses, limitText, String.append_assoc]

/-- **The text of a query** is that of its clauses, with single blanks between them. -/
theorem compose_eq (q : Query) :
    q.compose = (" ".intercalate ·) <$> q.clauseTexts.mapM id := by
  unfold compose assemble clauseTexts
  rw [renderNested_eq, renderLets_eq, renderAll_eq, sortClauses_eq, limitClauses_eq]
  simp only [List.mapM_append, List.mapM_cons, List.mapM_nil, mapM_ok, id, bind_assoc, pure_bind,
    map_bind, bind_map_left, map_pure]
  simp only [List.append_assoc, List.cons_append, List.nil_append]
  rfl

/-- Texts come out of results when all of them are there. -/
theorem mapM_eq_ok {results : List (Except QueryError String)} {texts : List String} :
    results.mapM id = .ok texts ↔ results = texts.map .ok := by
  constructor
  · intro h
    induction results generalizing texts with
    | nil =>
      obtain rfl := Except.ok.inj h
      rfl
    | cons r rs ih =>
      rw [List.mapM_cons] at h
      cases r with
      | error e => cases h
      | ok text =>
        cases hrest : rs.mapM id with
        | error e => rw [hrest] at h; cases h
        | ok rest =>
          rw [hrest] at h
          obtain rfl := Except.ok.inj h
          rw [ih hrest, List.map_cons]
  · rintro rfl
    exact mapM_ok texts

/-- A query has a text when all of its clauses have. -/
theorem compose_eq_ok {q : Query} {text : String} :
    q.compose = .ok text ↔
      ∃ texts, q.clauseTexts = texts.map .ok ∧ text = " ".intercalate texts := by
  rw [compose_eq]
  constructor
  · intro h
    cases htexts : q.clauseTexts.mapM id with
    | error e => rw [htexts] at h; cases h
    | ok texts =>
      rw [htexts] at h
      exact ⟨texts, mapM_eq_ok.mp htexts, (Except.ok.inj h).symm⟩
  · rintro ⟨texts, htexts, rfl⟩
    rw [mapM_eq_ok.mpr htexts]
    rfl

/-! ## The order of edits -/

/-- **Edits of different clauses can be made in any order.** Edits that agree clause by clause, each
clause with its edits in the same order, fail alike or make the same query. When none of them has a
fault, they make the query that they declare; and that has a text when all of its clauses have one,
which is then theirs with single blanks between them. -/
theorem edits_in_any_order (o : Origin) (es es' : List Edit)
    (h : ∀ c, about c es = about c es') :
    o.query.run (es.map .edit) = o.query.run (es'.map .edit) ∧
      ((∀ e ∈ es, e.fault? = none) → o.query.run (es.map .edit) = .ok (declared o es)) ∧
      ∀ q, o.query.run (es.map .edit) = .ok q →
        q = declared o es ∧
          ∀ text, q.render.1 = .ok text ↔
            ∃ texts, (declared o es).clauseTexts = texts.map .ok ∧
              text = " ".intercalate texts := by
  have hrun (es : List Edit) := run_edits o [] es
  simp only [declared_nil, List.nil_append] at hrun
  refine ⟨?_, fun hgood => run_edits_eq_ok.mpr ⟨hgood, rfl⟩, fun q hq => ?_⟩
  · rw [hrun, hrun, fault_eq_of_about h, declared_eq_of_about h]
  · obtain ⟨-, rfl⟩ := run_edits_eq_ok.mp hq
    refine ⟨rfl, fun text => ?_⟩
    have hfresh : (declared o es).frozenText? = none := rfl
    rw [← compose_eq_ok, (declared o es).renders.text_eq, text_eq, hfresh]

/-- A limit, two filters and a key of the order, added in two orders. -/
theorem edits_in_any_order_filtered :
    let es : List Edit := [.limitTo ⟨10, some 5⟩, .filter "obj.a", .sort ["obj.b"], .filter "obj.c"]
    let es' : List Edit := [.filter "obj.a", .filter "obj.c", .sort ["obj.b"], .limitTo ⟨10, some 5⟩]
    (∀ c, about c es = about c es') ∧
      (Origin.collection "user").query.run (es'.map .edit) = .ok (declared (.collection "user") es) ∧
      (declared (.collection "user") es).render.1 =
        .ok "FOR obj IN user FILTER obj.a FILTER obj.c SORT obj.b LIMIT 5, 10 RETURN obj" := by
  intro es es'
  have hsame : ∀ c, about c es = about c es' := by
    intro c
    cases c <;> rfl
  obtain ⟨heq, hgood, htext⟩ := edits_in_any_order (.collection "user") es es' hsame
  have hrun := hgood (by simp [es, Edit.fault?])
  refine ⟨hsame, heq.symm.trans hrun, ?_⟩
  refine ((htext _ hrun).2 _).mpr ⟨["FOR obj IN user", "FILTER obj.a", "FILTER obj.c", "SORT obj.b",
    "LIMIT 5, 10", "RETURN obj"], by rfl, by rfl⟩

end Pagewise.Query
