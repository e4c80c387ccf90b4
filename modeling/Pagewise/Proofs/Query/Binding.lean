import Pagewise.Proofs.Query.Handoff
import Pagewise.Proofs.Query.Retouching

/-!
# Bind variables, options and the text

The text of a query depends neither on its bind variables and options nor on those of the queries in
it. Two lives of a query that differ in them alone are compared by leaving them out of both
(`Call.unbound?`), which takes calls away and changes the expressions of others.

* `Query.unbound`: a query without bind variables and options, at any depth.
* `Edit.apply_retouch`: edits and changes all over a tree do not see each other.
* `Query.run_unbound`: one step for each call, and from it a whole life.
* **`Query.binds_unnoticed`**: lives that are the same but for bind variables and options have the
  same texts and errors, and are frozen at the same points.
-/

namespace Pagewise

namespace Query

/-! ## Edits without binds -/

/-- Takes the bind variables and options off all queries of a tree. -/
def unbinding : Retouch where
  var _ v := v
  binds _ := []
  options _ := .unset

/-- A query without its bind variables and options, and without those of the queries in it. -/
def unbound (q : Query) : Query := q.retouch unbinding

theorem keepsText_unbinding : unbinding.KeepsText :=
  fun _ _ => rfl

/-- An edit with a change made all over the expressions that it brings in. -/
def Edit.retouch (t : Retouch) : Edit → Edit
  | .iterateOver source => .iterateOver (source.retouch t .source)
  | .nest queries => .nest (Expr.retouchAll t .clause queries)
  | .letVar name value => .letVar name (value.retouch t .clause)
  | .collect args into => .collect (Expr.retouchAll t .clause args) into
  | .result yield => .result (yield.retouch t)
  | .resultField name value => .resultField name (value.retouch t .field)
  | e => e

/-- An edit, unless it binds variables or sets options, without the bind variables and options of
the queries that it brings in. -/
def Edit.unbound? : Edit → Option Edit
  | .bind _ | .fetchWith _ => none
  | e => some (e.retouch unbinding)

/-- A call, unless it binds variables or sets options, without the bind variables and options of the
queries that it brings in. -/
def Call.unbound? : Call → Option Call
  | .edit e => e.unbound?.map .edit
  | .render => some .render
  | .execute c => some (.execute c)

variable {q : Query}

theorem pairUp_retouch (t : Retouch) (args : List Expr) :
    pairUp (Expr.retouchAll t .clause args) = Grouping.retouchPairs t (pairUp args) := by
  fun_induction pairUp args with
  | case1 name value rest ih =>
    rw [Expr.retouchAll, Expr.retouchAll, pairUp, ih, Grouping.retouchPairs]
  | case2 args short =>
    cases args with
    | nil => rfl
    | cons a rest =>
      cases rest with
      | nil => rfl
      | cons b rest => exact absurd rfl (short a b rest)

theorem fields_retouch (t : Retouch) (y : Yield) :
    (y.retouch t).fields = Expr.retouchEntries t .field y.fields := by
  cases y <;> rfl

/-- An edit does the same to a query with a change made all over both, unless it binds variables or
sets options. -/
theorem Edit.apply_retouch (t : Retouch) (e : Edit) (hbinds : e.binds? = none)
    (hoptions : e.options? = none) :
    (e.retouch t).apply (q.retouch t) = Query.retouch t <$> e.apply q := by
  cases e with
  | bind vars => cases hbinds
  | fetchWith options => cases hoptions
  | collect args into =>
    have hlength : (Expr.retouchAll t .clause args).length = args.length := by
      rw [Expr.retouchAll_eq, List.length_map]
    simp only [Edit.retouch, Edit.apply]
    unfold Query.collect
    rw [hlength]
    split
    · refine congrArg Except.ok ?_
      rw [retouch_eq, retouch_eq, pairUp_retouch, Grouping.retouchAll_append]
      rfl
    · rfl
  | nest queries =>
    refine congrArg Except.ok ?_
    rw [retouch_eq, retouch_eq]
    simp only [Query.nest, Expr.retouchAll_eq, List.map_append]
  | letVar name value =>
    refine congrArg Except.ok ?_
    rw [retouch_eq, retouch_eq]
    simp only [Query.letVar, Expr.retouchEntries_eq, List.map_append, List.map_cons, List.map_nil]
  | resultField name value =>
    refine congrArg Except.ok ?_
    rw [retouch_eq, retouch_eq]
    simp only [Query.resultField, fields_retouch, Yield.retouch, Expr.retouchEntries_eq,
      Keyed.insert_map (fun e : Expr => e.retouch t .field)]
  | alwaysRender | iterateAs | iterateOver | filter | sort | limitTo | result =>
    refine congrArg Except.ok ?_
    rw [retouch_eq, retouch_eq]
    rfl

/-! ## Calls without binds -/

/-- An edit that binds variables or sets options leaves the rest of the query as it is. -/
theorem Edit.apply_of_unbound?_eq_none {e : Edit} (h : e.unbound? = none) :
    ∃ q', e.apply q = .ok q' ∧ q'.unbound = q.unbound := by
  cases e with
  | bind | fetchWith =>
    refine ⟨_, rfl, ?_⟩
    rw [Query.unbound, Query.unbound, retouch_eq, retouch_eq]
    rfl
  | _ => cases h

/-- Any other edit does the same without bind variables and options. -/
theorem Edit.apply_unbound {e e' : Edit} (h : e.unbound? = some e') :
    e'.apply q.unbound = Query.unbound <$> e.apply q := by
  cases e with
  | bind | fetchWith => cases h
  | _ =>
    obtain rfl := Option.some.inj h
    exact Edit.apply_retouch unbinding _ rfl rfl

theorem render_unbound (q : Query) : q.unbound.render = (q.render.1, q.render.2.unbound) :=
  render_retouch keepsText_unbinding q

theorem Call.apply_of_unbound?_eq_none {call : Call} (h : call.unbound? = none) :
    ∃ q', call.apply q = .ok q' ∧ q'.unbound = q.unbound := by
  cases call with
  | edit e => exact Edit.apply_of_unbound?_eq_none (Option.map_eq_none_iff.mp h)
  | render | execute => cases h

theorem Call.apply_unbound {call call' : Call} (h : call.unbound? = some call') :
    call'.apply q.unbound = Query.unbound <$> call.apply q := by
  cases call with
  | edit e =>
    obtain ⟨e', he, rfl⟩ := Option.map_eq_some_iff.mp h
    exact Edit.apply_unbound he
  | render =>
    obtain rfl := Option.some.inj h
    exact congrArg (fun o => Except.ok o.2) (render_unbound q)
  | execute c =>
    obtain rfl := Option.some.inj h
    rw [Call.apply, Call.apply, execute_eq, execute_eq, render_unbound]
    rfl

/-- **A life without bind variables and options** makes the query without them. -/
theorem run_unbound (q : Query) (calls : List Call) :
    q.unbound.run (calls.filterMap Call.unbound?) = Query.unbound <$> q.run calls := by
  induction calls generalizing q with
  | nil => rfl
  | cons call calls ih =>
    rw [run_cons, List.filterMap_cons]
    cases hcall : call.unbound? with
    | none =>
      -- The call is left out, and has changed nothing that is left.
      obtain ⟨m, hm, hsame⟩ := Call.apply_of_unbound?_eq_none (q := q) hcall
      rw [hm, ← hsame]
      exact ih m
    | some call' =>
      simp only
      rw [run_cons, Call.apply_unbound hcall]
      cases call.apply q with
      | error e => rfl
      | ok m => exact ih m

/-! ## Texts of queries that are the same but for binds -/

variable {q' : Query}

theorem frozen_of_unbound (h : q.unbound = q'.unbound) : q.frozen = q'.frozen := by
  have hfrozen := congrArg Query.frozen h
  rwa [unbound, unbound, retouch_eq, retouch_eq] at hfrozen

/-- The text that an execution hands over, or its error. -/
theorem execute_query (q : Query) (c : Connection) :
    (fun cursor : Cursor => cursor.query) <$> (q.execute c).1 =
      match q.text with
      | .ok text => .ok text
      | .error e => .error (.build e) := by
  rw [execute_eq, q.renders.text_eq]
  cases q.text <;> rfl

/-- **Bind variables and options never reach the text.** Take two lives of a query, each up to some
point, in which the same calls were made in the same order, but for calls that bind variables or set
options, which either may have anywhere, and but for the bind variables and options of the queries
that were brought in, at any depth. Then both have failed with the same error, or the queries are the
same but for bind variables and options, so that they can be brought into such lives themselves.
Both are frozen or neither is, and both have the same text or the same error, where they are
rendered, where they are used, where they are a further `FOR` and where they are executed. What an
execution hands over as bind variables are those that the calls of that life itself have bound, each
with the value that it was bound to last. -/
theorem binds_unnoticed :
    (∀ (o : Origin) (calls calls' : List Call),
      calls.filterMap Call.unbound? = calls'.filterMap Call.unbound? →
        (∀ err, o.query.run calls = .error err ↔ o.query.run calls' = .error err) ∧
          ∀ q q', o.query.run calls = .ok q → o.query.run calls' = .ok q' →
            q.unbound = q'.unbound ∧ q.frozen = q'.frozen ∧ q.render.1 = q'.render.1 ∧
              q.text = q'.text ∧ (∀ position, q.nestedText position = q'.nestedText position) ∧
              ∀ c, (fun cursor : Cursor => cursor.query) <$> (q.execute c).1 =
                (fun cursor : Cursor => cursor.query) <$> (q'.execute c).1) ∧
      ∀ (o : Origin) (calls : List Call) (q : Query), o.query.run calls = .ok q →
        ∀ (c : Connection) (cursor : Cursor), (q.execute c).1 = .ok cursor →
          cursor.binds = Keyed.ofList (bound calls) ∧
            ∀ name, Keyed.get? name cursor.binds = Keyed.get? name (bound calls).reverse := by
  refine ⟨fun o calls calls' hcalls => ?_, fun o calls q hrun c cursor hcursor => ?_⟩
  · have hruns : unbound <$> o.query.run calls = unbound <$> o.query.run calls' := by
      rw [← run_unbound, ← run_unbound, hcalls]
    refine ⟨fun err => ?_, fun q q' hq hq' => ?_⟩
    · have herror (r : Except QueryError Query) : r = .error err ↔ unbound <$> r = .error err := by
        cases r with
        | error e => exact Iff.rfl
        | ok q => exact iff_of_false nofun nofun
      rw [herror, hruns, ← herror]
    · rw [hq, hq'] at hruns
      have hsame : q.unbound = q'.unbound := Except.ok.inj hruns
      have htexts := interchangeable_of_retouch keepsText_unbinding hsame
      refine ⟨hsame, frozen_of_unbound hsame, htexts.render_eq, htexts.text, htexts.nestedText,
        fun c => ?_⟩
      rw [execute_query, execute_query, htexts.text]
  · obtain ⟨text, -, rfl⟩ := (execute_eq_ok hrun).mp hcursor
    exact ⟨rfl, fun name => Keyed.get?_ofList _ _⟩

/-- Two lives that bind different variables, one of them also in a sub-query and before a rendering,
the other behind it. -/
theorem binds_unnoticed_friends :
    let friends : Query := (ofCollection "friends").iterateAs "f"
    let calls : List Call := [.edit (.bind [("a", .null)]),
      .edit (.letVar "n" (.subquery (friends.bind [("b", .null)]))), .render,
      .edit (.filter "obj.a")]
    let calls' : List Call := [.edit (.letVar "n" (.subquery friends)), .render,
      .edit (.fetchWith ⟨some true, none⟩), .edit (.filter "obj.a"), .edit (.bind [("a", .bool true)])]
    calls.filterMap Call.unbound? = calls'.filterMap Call.unbound? ∧
      ∃ q q', (Origin.collection "user").query.run calls = .ok q ∧
        (Origin.collection "user").query.run calls' = .ok q' ∧ q.frozen = q'.frozen ∧
        q.render.1 = q'.render.1 ∧
        q.render.1 = .ok "FOR obj IN user LET n = (FOR f IN friends RETURN f) RETURN obj" ∧
        ∀ c cursor, (q'.execute c).1 = .ok cursor → cursor.binds = [("a", .bool true)] := by
  intro friends calls calls'
  have hcalls : calls.filterMap Call.unbound? = calls'.filterMap Call.unbound? := rfl
  have hq : (Origin.collection "user").query.run calls = .ok _ := rfl
  have hq' : (Origin.collection "user").query.run calls' = .ok _ := rfl
  obtain ⟨-, hsame⟩ := binds_unnoticed.1 (.collection "user") calls calls' hcalls
  obtain ⟨-, hfrozen, hrender, -⟩ := hsame _ _ hq hq'
  refine ⟨hcalls, _, _, hq, hq', hfrozen, hrender, rfl, fun c cursor hcursor => ?_⟩
  exact (binds_unnoticed.2 _ _ _ hq' c cursor hcursor).1

end Query

end Pagewise
