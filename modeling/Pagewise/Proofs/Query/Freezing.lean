import Pagewise.Proofs.Query.History

/-!
# Frozen texts

The render cache of a query is two flags and a snapshot, which renderings and previews test each in
their own way. `Touches` says once what a call can do to it: `alwaysRender` drops it for good, a
rendering that succeeds may fill it, and nothing else touches it.

* `Consistent`: the flags and the snapshot agree. Every call keeps that.
* `Gives`: whatever reads a query gives one text and leaves the query as it is.
* **`history_freezes`**: when the text of a query is frozen, over its whole life.
-/

namespace Pagewise.Query

/-! ## The cache -/

/-- The render cache: whether it is enabled, whether it is frozen, and the snapshot. -/
def cache (q : Query) : Bool × Bool × Option String :=
  (q.cacheEnabled, q.frozen, q.snapshot)

/-- **The flags of the cache and the snapshot agree.** -/
structure Consistent (q : Query) : Prop where
  frozen_iff : q.frozen = true ↔ q.snapshot ≠ none
  enabled : q.frozen = true → q.cacheEnabled = true

/-- **What a call can do to the cache.** -/
inductive Touches (q : Query) (call : Call) (q' : Query) : Prop
  /-- The cache is disabled and emptied. -/
  | dropped (hcall : call = .edit .alwaysRender) (hcache : q'.cache = (false, false, none))
  /-- An enabled cache takes in the text that was rendered. -/
  | filled {text : String} (hcall : call ≠ .edit .alwaysRender) (henabled : q.cacheEnabled = true)
      (hfrozen : q.frozenText? = none) (hcache : q'.cache = (true, true, some text))
  /-- The cache is as it was. -/
  | kept (hcall : call ≠ .edit .alwaysRender) (hcache : q'.cache = q.cache)

variable {q q' : Query} {call : Call} {calls : List Call} {text : String}

theorem cache_eq_iff {enabled frozen : Bool} {snapshot : Option String} :
    q.cache = (enabled, frozen, snapshot) ↔
      q.cacheEnabled = enabled ∧ q.frozen = frozen ∧ q.snapshot = snapshot := by
  rw [cache, Prod.mk.injEq, Prod.mk.injEq]

theorem cache_freeze (text : String) (q : Query) :
    (q.freeze text).cache = if q.cacheEnabled then (true, true, some text) else q.cache := by
  unfold freeze
  by_cases henabled : q.cacheEnabled = true
  · rw [if_pos henabled, if_pos henabled, cache, henabled]
  · rw [if_neg henabled, if_neg henabled]

theorem Renders.touches {o : Except QueryError String × Query} (h : q.Renders o)
    (hcall : call ≠ .edit .alwaysRender) : q.Touches call o.2 := by
  cases h with
  | again | failed => exact .kept hcall rfl
  | @anew text hfrozen =>
    have hcache := cache_freeze text q
    by_cases henabled : q.cacheEnabled = true
    · rw [if_pos henabled] at hcache
      exact .filled hcall henabled hfrozen hcache
    · rw [if_neg henabled] at hcache
      exact .kept hcall hcache

theorem Edit.cache_eq {e : Edit} (h : e.apply q = .ok q') (he : e ≠ .alwaysRender) :
    q'.cache = q.cache := by
  cases e with
  | alwaysRender => exact absurd rfl he
  | collect args into =>
    obtain ⟨-, rfl⟩ := collect_eq_ok.mp h
    rfl
  | _ =>
    obtain rfl := Except.ok.inj h
    rfl

theorem touches (h : call.apply q = .ok q') : q.Touches call q' := by
  cases call with
  | edit e =>
    by_cases he : e = .alwaysRender
    · subst he
      obtain rfl := Except.ok.inj h
      exact .dropped rfl rfl
    · exact .kept (fun hcall => he (Call.edit.inj hcall)) (Edit.cache_eq h he)
  | render =>
    obtain rfl := Except.ok.inj h
    exact q.renders.touches (by simp)
  | execute c =>
    obtain rfl := Except.ok.inj h
    rw [execute_eq]
    exact q.renders.touches (by simp)

/-! ## What every call keeps -/

namespace Touches

/-- Every call keeps the flags and the snapshot in agreement. -/
theorem consistent (h : q.Touches call q') (hq : q.Consistent) : q'.Consistent := by
  cases h with
  | dropped _ hcache =>
    obtain ⟨-, hfrozen, hsnapshot⟩ := cache_eq_iff.mp hcache
    exact ⟨by simp [hfrozen, hsnapshot], by simp [hfrozen]⟩
  | filled _ _ _ hcache =>
    obtain ⟨henabled, hfrozen, hsnapshot⟩ := cache_eq_iff.mp hcache
    exact ⟨by simp [hfrozen, hsnapshot], fun _ => henabled⟩
  | kept _ hcache =>
    obtain ⟨henabled, hfrozen, hsnapshot⟩ := cache_eq_iff.mp hcache
    refine ⟨?_, ?_⟩
    · rw [hfrozen, hsnapshot]
      exact hq.frozen_iff
    · rw [hfrozen, henabled]
      exact hq.enabled

/-- A frozen text stays until the cache is dropped. -/
theorem frozenText?_eq (h : q.Touches call q') (hcall : call ≠ .edit .alwaysRender)
    (hq : q.frozenText? = some text) : q'.frozenText? = some text := by
  cases h with
  | dropped hdropped => exact absurd hdropped hcall
  | filled _ _ hfrozen => cases hq.symm.trans hfrozen
  | kept _ hcache =>
    obtain ⟨-, hfrozen, hsnapshot⟩ := cache_eq_iff.mp hcache
    rw [frozenText?, hfrozen, hsnapshot]
    exact hq

end Touches

theorem consistent_query (o : Origin) : o.query.Consistent := by
  have hcache : o.query.frozen = false ∧ o.query.snapshot = none := by cases o <;> exact ⟨rfl, rfl⟩
  exact ⟨by simp [hcache.1, hcache.2], by simp [hcache.1]⟩

/-- The flags and the snapshot agree in every life. -/
theorem consistent_run {o : Origin} (h : o.query.run calls = .ok q) : q.Consistent :=
  run_induction (fun _ hq hcall => (touches hcall).consistent hq) (consistent_query o) h

theorem frozenText?_run (hcalls : .edit .alwaysRender ∉ calls) (hq : q.frozenText? = some text)
    (h : q.run calls = .ok q') : q'.frozenText? = some text := by
  refine run_induction (P := fun r => r.frozenText? = some text) (fun hmem hq hcall => ?_) hq h
  have hother : _ ≠ Call.edit .alwaysRender := fun heq => hcalls (heq ▸ hmem)
  exact (touches hcall).frozenText?_eq hother hq

/-! ## What a frozen query gives -/

/-- **Whatever reads a query gives one text** and leaves the query as it is. -/
structure Gives (q : Query) (text : String) : Prop where
  /-- Where the query is looked at or used. -/
  preview : q.text = .ok text
  render : q.render = (.ok text, q)
  /-- The bind variables and options are those of the query as it is. -/
  execute : ∀ c : Connection, q.execute c = (.ok (c.cursor text q.binds q.options), q)
  /-- As an expression in a query around it. -/
  subquery : ∀ place, (Expr.subquery q).render place =
    .ok (if place = .source then text else "(" ++ text ++ ")")

theorem gives_of_frozenText? (h : q.frozenText? = some text) : q.Gives text := by
  have hrenders := q.renders
  have hrender : q.render = (.ok text, q) := by
    generalize q.render = o at hrenders
    cases hrenders with
    | again hfrozen =>
      obtain rfl := Option.some.inj (h.symm.trans hfrozen)
      rfl
    | anew hfrozen | failed hfrozen => cases h.symm.trans hfrozen
  have htext : q.text = .ok text := by
    rw [← hrenders.text_eq, hrender]
  refine ⟨htext, hrender, fun c => ?_, fun place => ?_⟩
  · rw [execute_eq, hrender]
  · rw [Expr.render, htext]
    rfl

/-- A query whose cache is enabled keeps the first text that is rendered. -/
theorem frozenText?_render (henabled : q.cacheEnabled = true) (htext : q.render.1 = .ok text) :
    q.render.2.frozenText? = some text := by
  have hrenders := q.renders
  generalize q.render = o at hrenders htext ⊢
  cases hrenders with
  | again hfrozen =>
    obtain rfl := Except.ok.inj htext
    exact hfrozen
  | anew =>
    cases htext
    have hcache := cache_freeze text q
    rw [if_pos henabled] at hcache
    obtain ⟨-, hfrozen, hsnapshot⟩ := cache_eq_iff.mp hcache
    rw [frozenText?, if_pos hfrozen, hsnapshot]
  | failed => cases htext

/-- A query whose cache is disabled is not frozen and composes its text anew. -/
theorem render_of_disabled (hq : q.Consistent) (hdisabled : q.cacheEnabled = false) :
    q.frozen = false ∧ q.render = (q.compose, q) := by
  have hfrozen : q.frozen = false := by
    cases hfrozen : q.frozen with
    | false => rfl
    | true => cases hdisabled.symm.trans (hq.enabled hfrozen)
  refine ⟨hfrozen, ?_⟩
  have hrenders := q.renders
  generalize q.render = o at hrenders
  cases hrenders with
  | again hkept =>
    rw [frozenText?, hfrozen] at hkept
    cases hkept
  | anew _ hcompose =>
    rw [hcompose, freeze, hdisabled]
    rfl
  | failed _ hcompose => rw [hcompose]

/-- A rendering that fails leaves the query as it was, and that is not frozen. -/
theorem render_of_error {e : QueryError} (hq : q.Consistent) (he : q.render.1 = .error e) :
    q.frozen = false ∧ q.render.2 = q := by
  obtain ⟨hnone, hrender⟩ := q.renders.of_error he
  refine ⟨?_, congrArg (·.2) hrender⟩
  cases hfrozen : q.frozen with
  | false => rfl
  | true =>
    rw [frozenText?, if_pos hfrozen] at hnone
    exact absurd hnone (hq.frozen_iff.mp hfrozen)

/-! ## Whole lives -/

/-- The cache is enabled from the start on, unless the query begins without, until it is dropped. -/
theorem cacheEnabled_iff {o : Origin} (h : o.query.run calls = .ok q) :
    q.cacheEnabled = true ↔ (∀ name, o ≠ .uncached name) ∧ .edit .alwaysRender ∉ calls := by
  have hthawed := thawed_eq_declared h
  have hdeclared : q.cacheEnabled = (o.query.cacheEnabled &&
      ((calls.filterMap Call.edit?).filterMap Edit.alwaysRender?).isEmpty) :=
    congrArg (fun r => r.cacheEnabled) hthawed
  have horigin : o.query.cacheEnabled = true ↔ ∀ name, o ≠ .uncached name := by
    cases o <;> simp [Origin.query, Query.blank, ofCollection, Query.uncached, alwaysRender]
  have hedits : ((calls.filterMap Call.edit?).filterMap Edit.alwaysRender?).isEmpty = true ↔
      .edit .alwaysRender ∉ calls := by
    rw [List.isEmpty_iff, List.filterMap_eq_nil_iff]
    constructor
    · intro hnone hmem
      have hedit : Edit.alwaysRender ∈ calls.filterMap Call.edit? :=
        List.mem_filterMap.mpr ⟨_, hmem, rfl⟩
      cases hnone _ hedit
    · intro hcalls e he
      obtain ⟨call, hmem, hcall⟩ := List.mem_filterMap.mp he
      cases e with
      | alwaysRender =>
        cases call <;> cases hcall
        exact absurd hmem hcalls
      | _ => rfl
  rw [hdeclared, Bool.and_eq_true, horigin, hedits]

/-- **When the text of a query is frozen**, at any point of its life. The flags of its cache and the
snapshot agree, and the cache is enabled unless the query began without or dropped it. Rendering
gives the text that the query has where it is used. A rendering or an execution that fails leaves
the query as it is, and not frozen. When the cache is enabled, the text of a rendering or an
execution is what everything gives from then on, whatever is done, until the cache is dropped. From
then on, as with a query that began without, nothing is ever frozen, and each rendering composes the
clauses as they are. The clauses, and what an execution hands over, are at any time what the edits
so far declare, also when the text is frozen. -/
theorem history_freezes (o : Origin) (calls : List Call) {q : Query}
    (h : o.query.run calls = .ok q) :
    ((q.frozen = true ↔ q.snapshot ≠ none) ∧ (q.frozen = true → q.cacheEnabled = true)) ∧
      (q.cacheEnabled = true ↔ (∀ name, o ≠ .uncached name) ∧ .edit .alwaysRender ∉ calls) ∧
      q.render.1 = q.text ∧
      (∀ e, q.render.1 = .error e → q.frozen = false ∧ q.render.2 = q ∧
        ∀ c, q.execute c = (.error (.build e), q)) ∧
      (∀ text, q.cacheEnabled = true → q.render.1 = .ok text → ∀ c later q',
        .edit .alwaysRender ∉ later →
          q.render.2.run later = .ok q' ∨ (q.execute c).2.run later = .ok q' → q'.Gives text) ∧
      ((.edit .alwaysRender ∈ calls ∨ ∃ name, o = .uncached name) →
        q.frozen = false ∧ q.render = (q.compose, q)) ∧
      (q.thawed = declared o (calls.filterMap Call.edit?) ∧
        ∀ c text, q.render.1 = .ok text → (q.execute c).1 = .ok (c.cursor text
          (declared o (calls.filterMap Call.edit?)).binds
          (declared o (calls.filterMap Call.edit?)).options)) := by
  have hconsistent := consistent_run h
  have henabled := cacheEnabled_iff h
  have hthawed := thawed_eq_declared h
  refine ⟨⟨hconsistent.frozen_iff, hconsistent.enabled⟩, henabled, q.renders.text_eq, ?_, ?_, ?_,
    hthawed, ?_⟩
  · intro e he
    obtain ⟨hfrozen, hsame⟩ := render_of_error hconsistent he
    refine ⟨hfrozen, hsame, fun c => ?_⟩
    rw [execute_eq, he, hsame]
  · intro text hcache htext c later q' hlater hrun
    have hrest : q.render.2.run later = .ok q' := by
      rcases hrun with hrun | hrun
      · exact hrun
      · rwa [execute_eq] at hrun
    have hfrozen := frozenText?_render hcache htext
    exact gives_of_frozenText? (frozenText?_run hlater hfrozen hrest)
  · intro hdropped
    refine render_of_disabled hconsistent (Bool.eq_false_iff.mpr fun hcache => ?_)
    obtain ⟨horigin, hcalls⟩ := henabled.mp hcache
    rcases hdropped with hmem | ⟨name, hname⟩
    · exact hcalls hmem
    · exact horigin name hname
  · intro c text htext
    rw [← hthawed, execute_eq, htext]
    rfl

/-- A text is rendered, and stays when a filter and a bind variable are added. -/
theorem history_freezes_filtered :
    let calls : List Call := [.edit (.filter "obj.a == 1")]
    let later : List Call := [.edit (.filter "obj.b == 2"), .render, .edit (.bind [("a", .null)])]
    ∃ q q', (Origin.collection "user").query.run calls = .ok q ∧ q.cacheEnabled = true ∧
      q.render.1 = .ok "FOR obj IN user FILTER obj.a == 1 RETURN obj" ∧
      q.render.2.run later = .ok q' ∧ q'.Gives "FOR obj IN user FILTER obj.a == 1 RETURN obj" := by
  intro calls later
  have htext : ((Origin.collection "user").query.filter "obj.a == 1").render.1 =
      .ok "FOR obj IN user FILTER obj.a == 1 RETURN obj" := by rfl
  refine ⟨_, _, rfl, rfl, htext, rfl, ?_⟩
  obtain ⟨-, -, -, -, hkept, -⟩ := history_freezes (.collection "user") calls rfl
  exact hkept _ rfl htext ⟨"", ⟨true, none⟩⟩ later _ (by simp [later]) (.inl rfl)

end Pagewise.Query
