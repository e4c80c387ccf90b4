import Pagewise.Connection
import Pagewise.Query.Edit

/-!
# The life of a query

A query begins in one of three ways (`Origin`). From then on it is edited, rendered and executed in
any order (`Call`), up to the first edit that fails, after which there is no query any more
(`Query.run`).

What an edit says of a clause is read off the edit alone (`Edit.source?` and its like), so the
edits of a query declare what it holds: `declared` puts together what was said of each clause.

* `Renders`: what a rendering does. It changes nothing but the frozen text
  (`Renders.thawed_eq`).
* **`thawed_of_run`**: but for the frozen text, a query is what its edits declare, however often it
  was rendered and executed in between.
* **`run_edits`**: edits alone fail by the first edit that has a fault, and else make the query that
  they declare.
-/

namespace Pagewise.Query

/-! ## Calls -/

/-- How a query begins. -/
inductive Origin where
  /-- Over nothing yet. -/
  | blank
  /-- Over a collection. -/
  | collection (name : String)
  /-- Over a collection, with every text composed anew. -/
  | uncached (name : String)

/-- The query that a life begins with. -/
def Origin.query : Origin → Query
  | .blank => Query.blank
  | .collection name => ofCollection name
  | .uncached name => Query.uncached name

/-- What is done with a query. -/
inductive Call where
  | edit (edit : Edit)
  | render
  | execute (connection : Connection)

/-- The query after a call. A rendering or an execution may fail and leave a query; a failed edit
leaves none. -/
def Call.apply (q : Query) : Call → Except QueryError Query
  | .edit e => e.apply q
  | .render => .ok q.render.2
  | .execute c => .ok (q.execute c).2

/-- The query after calls, one after the other. -/
def run (q : Query) (calls : List Call) : Except QueryError Query :=
  calls.foldlM Call.apply q

/-- The edit that is made by a call. -/
def Call.edit? : Call → Option Edit
  | .edit e => some e
  | .render | .execute _ => none

theorem run_cons (q : Query) (call : Call) (calls : List Call) :
    q.run (call :: calls) = (call.apply q).bind (run · calls) :=
  List.foldlM_cons

/-- The calls of a life were made one after the other. -/
theorem run_cons_eq_ok {q q' : Query} {call : Call} {calls : List Call} :
    q.run (call :: calls) = .ok q' ↔ ∃ m, call.apply q = .ok m ∧ m.run calls = .ok q' := by
  rw [run_cons]
  cases call.apply q with
  | error _ => simp [Except.bind]
  | ok m => simp [Except.bind]

/-- **What every call of a life keeps, the life keeps.** -/
theorem run_induction {P : Query → Prop} {calls : List Call}
    (step : ∀ {q q' call}, call ∈ calls → P q → Call.apply q call = .ok q' → P q') {q q' : Query}
    (hq : P q) (h : q.run calls = .ok q') : P q' := by
  induction calls generalizing q with
  | nil =>
    obtain rfl : q = q' := Except.ok.inj h
    exact hq
  | cons call calls ih =>
    obtain ⟨m, hm, hrest⟩ := run_cons_eq_ok.mp h
    have hm' : P m := step List.mem_cons_self hq hm
    exact ih (fun hmem => step (List.mem_cons_of_mem _ hmem)) hm' hrest

/-! ## What an edit says -/

namespace Edit

/-- Why an edit fails, whatever the query is. -/
def fault? : Edit → Option QueryError
  | .collect args _ =>
    if args.length % 2 = 0 then none else some (.oddCollectArguments args.length)
  | _ => none

@[simp]
def rowVar? : Edit → Option String
  | .iterateAs name => some name
  | _ => none

@[simp]
def source? : Edit → Option Expr
  | .iterateOver source => some source
  | _ => none

@[simp]
def nested? : Edit → Option (List Expr)
  | .nest queries => some queries
  | _ => none

@[simp]
def let? : Edit → Option (String × Expr)
  | .letVar name value => some (name, value)
  | _ => none

@[simp]
def filter? : Edit → Option String
  | .filter condition => some condition
  | _ => none

@[simp]
def grouping? : Edit → Option Grouping
  | .collect args into => some ⟨pairUp args, into⟩
  | _ => none

@[simp]
def sortKeys? : Edit → Option (List String)
  | .sort keys => some keys
  | _ => none

@[simp]
def limit? : Edit → Option Limit
  | .limitTo bound => some bound
  | _ => none

/-- What an edit makes of that which is returned: `result` replaces it, `resultField` adds a key. -/
@[simp]
def yield? : Edit → Option (Yield → Yield)
  | .result yield => some fun _ => yield
  | .resultField name value => some fun yield => .mapping (Keyed.insert name value yield.fields)
  | _ => none

@[simp]
def binds? : Edit → Option (List (String × Json))
  | .bind vars => some vars
  | _ => none

@[simp]
def options? : Edit → Option CursorOptions
  | .fetchWith options => some options
  | _ => none

@[simp]
def alwaysRender? : Edit → Option Unit
  | .alwaysRender => some ()
  | _ => none

end Edit

/-- **The query that edits declare**: of what was said of a clause the last word counts, or all
words in their order. -/
def declared (o : Origin) (es : List Edit) : Query where
  rowVar := (es.filterMap Edit.rowVar?).getLast?.getD defaultVariable
  collection := o.query.collection
  source := (es.filterMap Edit.source?).getLast?
  nested := (es.filterMap Edit.nested?).flatten
  lets := es.filterMap Edit.let?
  filters := es.filterMap Edit.filter?
  groupings := es.filterMap Edit.grouping?
  sortKeys := (es.filterMap Edit.sortKeys?).flatten
  limit := (es.filterMap Edit.limit?).getLast?
  yield := (es.filterMap Edit.yield?).foldl (fun yield change => change yield) .rowVar
  binds := Keyed.ofList (es.filterMap Edit.binds?).flatten
  options := (es.filterMap Edit.options?).getLast?.getD .unset
  cacheEnabled := o.query.cacheEnabled && (es.filterMap Edit.alwaysRender?).isEmpty
  frozen := false
  snapshot := none

theorem declared_nil (o : Origin) : declared o [] = o.query := by
  cases o <;> rfl

/-- An edit fails by itself, or the query holds what it said too. -/
theorem apply_declared (o : Origin) (es : List Edit) (e : Edit) :
    e.apply (declared o es) =
      match e.fault? with
      | some err => .error err
      | none => .ok (declared o (es ++ [e])) := by
  cases e with
  | collect args into =>
    by_cases heven : args.length % 2 = 0
    · simp [Edit.apply, Edit.fault?, declared, collect, heven, List.filterMap_cons]
    · simp [Edit.apply, Edit.fault?, collect, heven]
  | bind vars =>
    simp [Edit.apply, Edit.fault?, declared, Query.bind, List.filterMap_cons, Keyed.ofList_append]
  | _ =>
    simp [Edit.apply, Edit.fault?, declared, alwaysRender, iterateAs, iterateOver, nest, letVar,
      filter, sort, limitTo, result, resultField, fetchWith, List.filterMap_cons]

/-- **What edits alone make of a query.** They fail by the first of them that has a fault, and else
the query holds what they said too. -/
theorem run_edits (o : Origin) (said es : List Edit) :
    (declared o said).run (es.map .edit) =
      match (es.filterMap Edit.fault?).head? with
      | some err => .error err
      | none => .ok (declared o (said ++ es)) := by
  induction es generalizing said with
  | nil => rw [List.append_nil]; rfl
  | cons e es ih =>
    rw [List.map_cons, run_cons, Call.apply, apply_declared, List.filterMap_cons]
    cases e.fault? with
    | some err => rfl
    | none =>
      have hrest := ih (said ++ [e])
      rwa [List.append_assoc, List.singleton_append] at hrest

/-- Edits of which none has a fault make the query that they declare. -/
theorem run_edits_eq_ok {o : Origin} {es : List Edit} {q : Query} :
    o.query.run (es.map .edit) = .ok q ↔ (∀ e ∈ es, e.fault? = none) ∧ q = declared o es := by
  have hrun := run_edits o [] es
  rw [declared_nil, List.nil_append] at hrun
  rw [hrun, ← List.filterMap_eq_nil_iff]
  cases es.filterMap Edit.fault? with
  | nil => simp [eq_comm]
  | cons err errs => simp

/-! ## Renderings in between -/

/-- A query without its frozen text. -/
def thawed (q : Query) : Query :=
  { q with frozen := false, snapshot := none }

/-- **What a rendering does**: its text, and the query afterwards. -/
inductive Renders (q : Query) : Except QueryError String × Query → Prop
  /-- The frozen text is given again. -/
  | again {text : String} (hfrozen : q.frozenText? = some text) : Renders q (.ok text, q)
  /-- The clauses have a text, which is frozen if the query keeps texts. -/
  | anew {text : String} (hfrozen : q.frozenText? = none) (hcompose : q.compose = .ok text) :
    Renders q (.ok text, q.freeze text)
  /-- The clauses have no text, and the query is as it was. -/
  | failed {e : QueryError} (hfrozen : q.frozenText? = none) (hcompose : q.compose = .error e) :
    Renders q (.error e, q)

theorem renders (q : Query) : q.Renders q.render := by
  have hanew (hfrozen : q.frozenText? = none) : q.Renders q.renderAnew := by
    unfold renderAnew
    cases hcompose : q.compose with
    | ok text => exact .anew hfrozen hcompose
    | error e => exact .failed hfrozen hcompose
  unfold render
  by_cases hfrozen : q.frozen = true
  · rw [if_pos hfrozen]
    have hkept : q.frozenText? = q.snapshot := if_pos hfrozen
    cases hsnapshot : q.snapshot with
    | some text => exact .again (hkept.trans hsnapshot)
    | none => exact hanew (hkept.trans hsnapshot)
  · rw [if_neg hfrozen]
    exact hanew (if_neg hfrozen)

namespace Renders

variable {q : Query} {o : Except QueryError String × Query}

/-- A rendering gives the text that the query has where it is used, although the two look at the
cache each in its own way. -/
theorem text_eq (h : q.Renders o) : o.1 = q.text := by
  rw [Query.text_eq]
  cases h with
  | again hfrozen => rw [hfrozen]
  | anew hfrozen hcompose => rw [hfrozen, ← hcompose]
  | failed hfrozen hcompose => rw [hfrozen, ← hcompose]

/-- A rendering that fails leaves the query as it was, without a frozen text. -/
theorem of_error {e : QueryError} (h : q.Renders o) (he : o.1 = .error e) :
    q.frozenText? = none ∧ o = (.error e, q) := by
  cases h with
  | again | anew => cases he
  | failed hfrozen =>
    obtain rfl := Except.error.inj he
    exact ⟨hfrozen, rfl⟩

/-- A rendering changes nothing but the frozen text. -/
theorem thawed_eq (h : q.Renders o) : o.2.thawed = q.thawed := by
  cases h with
  | again | failed => rfl
  | anew =>
    unfold freeze
    split <;> rfl

end Renders

/-- An execution is a rendering, and what it hands over is taken from the query as it is. -/
theorem execute_eq (q : Query) (c : Connection) :
    q.execute c =
      (match q.render.1 with
        | .ok text => .ok (c.cursor text q.binds q.options)
        | .error e => .error (.build e),
      q.render.2) := by
  have hthawed := q.renders.thawed_eq
  have hbinds : q.render.2.binds = q.binds := congrArg (fun r => r.thawed.binds) hthawed
  have hoptions : q.render.2.options = q.options := congrArg (fun r => r.thawed.options) hthawed
  unfold execute
  rcases hrender : q.render with ⟨e | text, r⟩
  · rfl
  · rw [hrender] at hbinds hoptions
    simp only
    rw [hbinds, hoptions]

/-- An edit does the same without the frozen text. -/
theorem apply_thawed {q q' : Query} {e : Edit} (h : e.apply q = .ok q') :
    e.apply q.thawed = .ok q'.thawed := by
  cases e with
  | collect args into =>
    obtain ⟨heven, rfl⟩ := collect_eq_ok.mp h
    exact collect_eq_ok.mpr ⟨heven, rfl⟩
  | _ =>
    obtain rfl := Except.ok.inj h
    rfl

/-- **A query is what its edits declare**, but for the frozen text, however often it was rendered
and executed in between. -/
theorem thawed_of_run {o : Origin} {said : List Edit} {calls : List Call} {q q' : Query}
    (hq : q.thawed = declared o said) (h : q.run calls = .ok q') :
    q'.thawed = declared o (said ++ calls.filterMap Call.edit?) := by
  induction calls generalizing q said with
  | nil =>
    obtain rfl : q = q' := Except.ok.inj h
    rwa [List.filterMap_nil, List.append_nil]
  | cons call calls ih =>
    obtain ⟨m, hm, hrest⟩ := run_cons_eq_ok.mp h
    cases call with
    | edit e =>
      have hthawed := apply_thawed hm
      rw [hq, apply_declared] at hthawed
      cases hfault : e.fault? with
      | some err =>
        rw [hfault] at hthawed
        cases hthawed
      | none =>
        rw [hfault] at hthawed
        have hlater := ih (Except.ok.inj hthawed).symm hrest
        rwa [List.append_assoc] at hlater
    | render =>
      obtain rfl := Except.ok.inj hm
      exact ih (q.renders.thawed_eq.trans hq) hrest
    | execute c =>
      obtain rfl := Except.ok.inj hm
      have hthawed : (q.execute c).2.thawed = q.thawed := by
        rw [execute_eq]
        exact q.renders.thawed_eq
      exact ih (hthawed.trans hq) hrest

/-- A query is what the edits of its life declare, but for the frozen text. -/
theorem thawed_eq_declared {o : Origin} {calls : List Call} {q : Query}
    (h : o.query.run calls = .ok q) : q.thawed = declared o (calls.filterMap Call.edit?) := by
  have hquery : o.query.thawed = declared o [] := by
    rw [declared_nil]
    cases o <;> rfl
  exact thawed_of_run hquery h

end Pagewise.Query
