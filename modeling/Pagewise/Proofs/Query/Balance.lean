import Pagewise.Proofs.Query.Entries
import Pagewise.Proofs.Text.Balance

/-!
# Balanced queries

No text that a caller gives is escaped, so what is written can only be as well-formed as the texts
that it is made from. But nothing else spoils it: whatever is written of an expression or a query
that is built from balanced texts is balanced.

* `Expr.MadeOf`, `Query.MadeOf`: expressions and queries built from texts with some property, each
  query over a life of its own, with renderings in between.
* `Expr.WrittenBalanced`: an expression is balanced wherever it is written. One lemma for each kind
  of expression says when it is.
* `HoldsBalanced`: a query holds balanced texts only, the frozen one among them. Then its clauses
  are balanced (`HoldsBalanced.clause`), and every call keeps that (`HoldsBalanced.apply`).
* **`rendering_balanced`**: what is written of expressions and queries made of balanced texts is
  balanced.
-/

namespace Pagewise

open Text (Balanced)

/-! ## What is given -/

/-- The keys of what is returned. -/
def Yield.keys (y : Yield) : List String :=
  y.fields.map (·.1)

/-- The expressions in what is returned. -/
def Yield.exprs : Yield → List Expr
  | .rowVar => []
  | .single value => [value]
  | .mapping fields => fields.map (·.2)

/-- The value of each key is one of them. -/
theorem Yield.mem_exprs (y : Yield) {f : String × Expr} (h : f ∈ y.fields) : f.2 ∈ y.exprs := by
  cases y with
  | mapping fields => exact List.mem_map_of_mem h
  | _ => cases h

namespace Query

/-- The texts that are given with an edit and can be written. -/
def Edit.texts : Edit → List String
  | .iterateAs name => [name]
  | .letVar name _ => [name]
  | .filter condition => [condition]
  | .collect _ into => into.toList
  | .sort keys => keys
  | .result yield => yield.keys
  | .resultField name _ => [name]
  | .alwaysRender | .iterateOver _ | .nest _ | .limitTo _ | .bind _ | .fetchWith _ => []

/-- The expressions that are given with an edit. -/
def Edit.exprs : Edit → List Expr
  | .iterateOver source => [source]
  | .nest queries => queries
  | .letVar _ value => [value]
  | .collect args _ => args
  | .result yield => yield.exprs
  | .resultField _ value => [value]
  | .alwaysRender | .iterateAs _ | .filter _ | .sort _ | .limitTo _ | .bind _ | .fetchWith _ => []

/-- The texts that are given with a call. -/
def Call.texts (call : Call) : List String :=
  call.edit?.elim [] Edit.texts

/-- The expressions that are given with a call. -/
def Call.exprs (call : Call) : List Expr :=
  call.edit?.elim [] Edit.exprs

end Query

/-! ## What is built from texts -/

/-- **Expressions built from texts with some property**, each sub-query over a life of its own. -/
inductive Expr.MadeOf (P : String → Prop) : Expr → Prop
  | raw {text : String} (h : P text) : MadeOf P (.raw text)
  | var {v : Var} (h : P v.name) : MadeOf P (.var v)
  | call {function : String} {args : List Expr} (hfunction : P function)
      (hargs : ∀ e ∈ args, MadeOf P e) : MadeOf P (.call function args)
  | object {members : List (String × Expr)} (hkeys : ∀ m ∈ members, P m.1)
      (hvalues : ∀ m ∈ members, MadeOf P m.2) : MadeOf P (.object members)
  | list {items : List Expr} (hitems : ∀ e ∈ items, MadeOf P e) : MadeOf P (.list items)
  /-- The query begins over a collection or over nothing, and then calls are made. -/
  | subquery {o : Query.Origin} {calls : List Query.Call} {q : Query}
      (hcollection : ∀ name ∈ o.query.collection, P name)
      (htexts : ∀ t ∈ calls.flatMap Query.Call.texts, P t)
      (hexprs : ∀ e ∈ calls.flatMap Query.Call.exprs, MadeOf P e)
      (hrun : o.query.run calls = .ok q) : MadeOf P (.subquery q)

/-- **Queries built from texts with some property**, each over its life. -/
def Query.MadeOf (P : String → Prop) (q : Query) : Prop :=
  (Expr.subquery q).MadeOf P

/-! ## Balanced results -/

/-- A result that is balanced if it is a text. -/
def WritesBalanced (r : Except QueryError String) : Prop :=
  ∀ text, r = .ok text → Balanced text

theorem writesBalanced_ok {text : String} (h : Balanced text) : WritesBalanced (.ok text) := by
  rintro _ ⟨⟩
  exact h

theorem WritesBalanced.bind {α : Type} {r : Except QueryError α} {f : α → Except QueryError String}
    (hf : ∀ a, r = .ok a → WritesBalanced (f a)) : WritesBalanced (r >>= f) := by
  cases r with
  | error err => nofun
  | ok a => exact hf a rfl

theorem WritesBalanced.map {α : Type} {r : Except QueryError α} {f : α → String}
    (hf : ∀ a, r = .ok a → Balanced (f a)) : WritesBalanced (f <$> r) := by
  cases r with
  | error err => nofun
  | ok a => exact writesBalanced_ok (hf a rfl)

/-- Texts of which each is written balanced are balanced. -/
theorem balanced_of_map_ok {results : List (Except QueryError String)} {texts : List String}
    (h : ∀ r ∈ results, WritesBalanced r) (htexts : results = texts.map .ok) :
    ∀ t ∈ texts, Balanced t := by
  intro t ht
  have hmem : Except.ok t ∈ results := htexts ▸ List.mem_map_of_mem ht
  exact h _ hmem t rfl

/-- Balanced texts one after the other. -/
theorem listed_balanced {texts : List String} (h : ∀ t ∈ texts, Balanced t) :
    Balanced (listed texts) :=
  Balanced.intercalate (by decide) h

/-! ## Balanced expressions -/

/-- Wherever an expression is written, its text is balanced. -/
structure Expr.WrittenBalanced (e : Expr) : Prop where
  render : ∀ place, WritesBalanced (e.render place)
  nested : ∀ position, WritesBalanced (Query.nestedText? e position)

namespace Expr

variable {es : List Expr} {m : List (String × Expr)} {place : Place} {texts : List String}

/-- Expressions have texts when each of them has. -/
theorem renderAll_eq_ok :
    renderAll place es = .ok texts ↔ es.map (render place) = texts.map .ok := by
  have hmap : renderAll place es = (es.map (render place)).mapM id := by
    induction es with
    | nil => rfl
    | cons e es ih => rw [List.map_cons, List.mapM_cons, renderAll, ih, id]
  rw [hmap, Query.mapM_eq_ok]

theorem renderAll_balanced (hes : ∀ e ∈ es, e.WrittenBalanced)
    (h : renderAll place es = .ok texts) : Balanced (listed texts) := by
  refine listed_balanced (balanced_of_map_ok ?_ (renderAll_eq_ok.mp h))
  intro r hr
  obtain ⟨e, he, rfl⟩ := List.mem_map.mp hr
  exact (hes e he).render place

theorem renderEntries_balanced (hkeys : ∀ f ∈ m, Balanced f.1)
    (hvalues : ∀ f ∈ m, f.2.WrittenBalanced) (h : renderEntries place m = .ok texts) :
    Balanced (braced texts) := by
  obtain ⟨values, hvalues', rfl⟩ := renderEntries_eq_ok.mp h
  have hbalanced : ∀ t ∈ values, Balanced t := by
    refine balanced_of_map_ok ?_ hvalues'
    intro r hr
    obtain ⟨f, hf, rfl⟩ := List.mem_map.mp hr
    exact (hvalues f hf).render place
  refine (listed_balanced ?_).wrap rfl rfl rfl
  intro line hline
  rw [← List.map_uncurry_zip_eq_zipWith] at hline
  obtain ⟨⟨key, value⟩, hmem, rfl⟩ := List.mem_map.mp hline
  obtain ⟨hkey, hvalue⟩ := List.of_mem_zip hmem
  obtain ⟨f, hf, rfl⟩ := List.mem_map.mp hkey
  exact ((hkeys f hf).quoted.append (by decide)).append (hbalanced value hvalue)

/-- Only a sub-query can be nested. -/
theorem writtenBalanced_of_render {e : Expr} (hquery : ∀ q, e ≠ .subquery q)
    (h : ∀ place, WritesBalanced (e.render place)) : e.WrittenBalanced where
  render := h
  nested position := by
    cases e with
    | subquery q => exact absurd rfl (hquery q)
    | _ => nofun

theorem raw_balanced {text : String} (h : Balanced text) : (raw text).WrittenBalanced := by
  refine writtenBalanced_of_render nofun fun place => ?_
  rw [render]
  split
  · exact writesBalanced_ok h.quoted
  · exact writesBalanced_ok h

theorem var_balanced {v : Var} (h : Balanced v.name) : (var v).WrittenBalanced := by
  refine writtenBalanced_of_render nofun fun place => ?_
  have hquoted : Balanced (if v.inverted then quotedText v.name else v.name) := by
    split
    · exact h.quoted
    · exact h
  rw [render]
  cases place with
  | source | clause => exact writesBalanced_ok h
  | field | member => exact writesBalanced_ok hquoted

theorem call_balanced {function : String} {args : List Expr} (hfunction : Balanced function)
    (hargs : ∀ e ∈ args, e.WrittenBalanced) : (call function args).WrittenBalanced := by
  refine writtenBalanced_of_render nofun fun place => ?_
  rw [render]
  refine .bind fun texts htexts => writesBalanced_ok ?_
  have hgroup : function ++ "(" ++ listed texts ++ ")" =
      function ++ ("(" ++ listed texts ++ ")") := by
    simp only [String.append_assoc]
  rw [hgroup]
  exact hfunction.append ((renderAll_balanced hargs htexts).wrap rfl rfl rfl)

theorem object_balanced (hkeys : ∀ f ∈ m, Balanced f.1) (hvalues : ∀ f ∈ m, f.2.WrittenBalanced) :
    (object m).WrittenBalanced := by
  refine writtenBalanced_of_render nofun fun place => ?_
  rw [render]
  exact .bind fun texts htexts => writesBalanced_ok (renderEntries_balanced hkeys hvalues htexts)

theorem list_balanced {items : List Expr} (hitems : ∀ e ∈ items, e.WrittenBalanced) :
    (list items).WrittenBalanced := by
  refine writtenBalanced_of_render nofun fun place => ?_
  rw [render]
  split
  · refine .bind fun texts htexts => writesBalanced_ok ?_
    exact (renderAll_balanced hitems htexts).wrap rfl rfl rfl
  · exact .bind fun texts htexts => writesBalanced_ok (renderAll_balanced hitems htexts)

end Expr

namespace Query

/-! ## Balanced queries -/

/-- **A query that holds balanced texts only**, the frozen one among them. -/
structure HoldsBalanced (q : Query) : Prop where
  rowVar : Balanced q.rowVar
  collection : ∀ name ∈ q.collection, Balanced name
  source : ∀ e ∈ q.source, e.WrittenBalanced
  nested : ∀ e ∈ q.nested, e.WrittenBalanced
  lets : ∀ l ∈ q.lets, Balanced l.1 ∧ l.2.WrittenBalanced
  filters : ∀ condition ∈ q.filters, Balanced condition
  groupings : ∀ g ∈ q.groupings, (∀ name ∈ g.into, Balanced name) ∧
    ∀ pair ∈ g.pairs, pair.1.WrittenBalanced ∧ pair.2.WrittenBalanced
  sortKeys : ∀ key ∈ q.sortKeys, Balanced key
  yieldKeys : ∀ key ∈ q.yield.keys, Balanced key
  yieldExprs : ∀ e ∈ q.yield.exprs, e.WrittenBalanced
  snapshot : ∀ text ∈ q.snapshot, Balanced text

variable {q q' : Query} {edit : Edit} {call : Call} {calls : List Call}

theorem HoldsBalanced.sourceText (h : q.HoldsBalanced) :
    WritesBalanced (renderSource q.collection q.source) := by
  cases hsource : q.source with
  | some source =>
    rw [renderSource]
    exact (h.source source hsource).render .source
  | none =>
    cases hcollection : q.collection with
    | some name => exact writesBalanced_ok (h.collection name hcollection)
    | none => nofun

/-- A `FOR` over a balanced source is balanced. -/
theorem forClause_balanced {name source : String} (hname : Balanced name)
    (hsource : Balanced source) : Balanced (forClause name source) :=
  ((Balanced.append (by decide) hname).append (by decide)).append hsource

theorem let_balanced {l : String × Expr} (hname : Balanced l.1) (hvalue : l.2.WrittenBalanced) :
    WritesBalanced (letText? l) := by
  refine .map fun value hvalue' => ?_
  exact ((Balanced.append (by decide) hname).append (by decide)).append
    (hvalue.render .clause value hvalue')

theorem pair_balanced {pair : Expr × Expr} (hname : pair.1.WrittenBalanced)
    (hvalue : pair.2.WrittenBalanced) : WritesBalanced (pairText? pair) := by
  refine .bind fun name hname' => .bind fun value hvalue' => writesBalanced_ok ?_
  exact ((hname.render .clause name hname').append (by decide)).append
    (hvalue.render .clause value hvalue')

theorem grouping_balanced {g : Grouping} (hinto : ∀ name ∈ g.into, Balanced name)
    (hpairs : ∀ pair ∈ g.pairs, pair.1.WrittenBalanced ∧ pair.2.WrittenBalanced) :
    WritesBalanced (groupingText? g) := by
  refine .bind fun texts htexts => writesBalanced_ok ?_
  have hlisted : Balanced (listed texts) := by
    refine listed_balanced (balanced_of_map_ok ?_ (mapM_eq_ok.mp htexts))
    intro r hr
    obtain ⟨pair, hpair, rfl⟩ := List.mem_map.mp hr
    exact pair_balanced (hpairs pair hpair).1 (hpairs pair hpair).2
  refine (Balanced.append (by decide) ?_).append ?_
  · split
    · decide
    · exact Balanced.append (by decide) hlisted
  · cases hname : g.into with
    | none => exact (by decide : Balanced "")
    | some name => exact Balanced.append (by decide) (hinto name hname)

theorem limit_balanced (bound : Limit) : Balanced (limitText bound) := by
  refine (Balanced.append (by decide) ?_).append (Text.balanced_repr _)
  cases bound.offset with
  | none => exact (by decide : Balanced "")
  | some offset => exact (Text.balanced_repr offset).append (by decide)

theorem HoldsBalanced.yieldText (h : q.HoldsBalanced) :
    WritesBalanced (q.yield.render q.rowVar) := by
  have hkeys := h.yieldKeys
  have hexprs := h.yieldExprs
  generalize q.yield = y at hkeys hexprs
  cases y with
  | rowVar => exact writesBalanced_ok h.rowVar
  | single value => exact (hexprs value List.mem_cons_self).render .clause
  | mapping fields =>
    rw [Yield.render]
    refine .bind fun texts htexts => writesBalanced_ok ?_
    exact Expr.renderEntries_balanced (fun f hf => hkeys _ (List.mem_map_of_mem hf))
      (fun f hf => hexprs _ (List.mem_map_of_mem hf)) htexts

/-- Every clause of a query that holds balanced texts is balanced. -/
theorem HoldsBalanced.clause (h : q.HoldsBalanced) : ∀ r ∈ q.clauseTexts, WritesBalanced r := by
  intro r hr
  simp only [clauseTexts, List.mem_append, List.mem_singleton, List.mem_map] at hr
  obtain ((((((rfl | ⟨⟨e, i⟩, he, rfl⟩) | ⟨l, hl, rfl⟩) | ⟨_, ⟨condition, hcondition, rfl⟩, rfl⟩) |
    ⟨g, hg, rfl⟩) | ⟨clause, hclause, rfl⟩) | ⟨_, ⟨bound, -, rfl⟩, rfl⟩) | rfl := hr
  · exact .map fun source hsource => forClause_balanced h.rowVar (h.sourceText source hsource)
  · exact (h.nested e (List.fst_mem_of_mem_zipIdx he)).nested i
  · exact let_balanced (h.lets l hl).1 (h.lets l hl).2
  · exact writesBalanced_ok (Balanced.append (by decide) (h.filters condition hcondition))
  · obtain ⟨hinto, hpairs⟩ := h.groupings g (List.mem_filter.mp hg).1
    exact grouping_balanced hinto hpairs
  · split at hclause
    · cases hclause
    · obtain rfl := List.mem_singleton.mp hclause
      exact writesBalanced_ok (Balanced.append (by decide) (listed_balanced h.sortKeys))
  · exact writesBalanced_ok (limit_balanced bound)
  · exact .map fun value hvalue => Balanced.append (by decide) (h.yieldText value hvalue)

theorem HoldsBalanced.compose (h : q.HoldsBalanced) : WritesBalanced q.compose := by
  intro text htext
  obtain ⟨texts, htexts, rfl⟩ := compose_eq_ok.mp htext
  exact Balanced.intercalate (by decide) (balanced_of_map_ok h.clause htexts)

theorem HoldsBalanced.text (h : q.HoldsBalanced) : WritesBalanced q.text := by
  rw [text_eq]
  cases hfrozen : q.frozenText? with
  | none => exact h.compose
  | some text =>
    unfold frozenText? at hfrozen
    split at hfrozen
    · exact writesBalanced_ok (h.snapshot text hfrozen)
    · cases hfrozen

theorem HoldsBalanced.nestedText (h : q.HoldsBalanced) (position : Nat) :
    WritesBalanced (q.nestedText position) := by
  have hvariable : Balanced (nestedVariable position q.rowVar) := by
    unfold nestedVariable
    split
    · exact Balanced.append (by decide) (Text.balanced_repr position)
    · exact h.rowVar
  rw [nestedText_eq]
  exact .map fun source hsource => forClause_balanced hvariable (h.sourceText source hsource)

/-- A sub-query is balanced wherever it is written. -/
theorem HoldsBalanced.subquery (h : q.HoldsBalanced) : (Expr.subquery q).WrittenBalanced where
  render place := by
    rw [Expr.render]
    refine .bind fun text htext => writesBalanced_ok ?_
    split
    · exact h.text text htext
    · exact (h.text text htext).wrap rfl rfl rfl
  nested position := h.nestedText position

/-! ## Balance over a life -/

/-- What a query begins with is balanced if the name of its collection is. -/
theorem holdsBalanced_query {o : Origin}
    (hcollection : ∀ name ∈ o.query.collection, Balanced name) : o.query.HoldsBalanced := by
  have hrowVar : Balanced defaultVariable := by decide
  cases o <;> exact {
    rowVar := hrowVar
    collection := hcollection
    source := nofun
    nested := nofun
    lets := nofun
    filters := nofun
    groupings := nofun
    sortKeys := nofun
    yieldKeys := nofun
    yieldExprs := nofun
    snapshot := nofun }

/-- The arguments of a `COLLECT` are what its pairs are made of. -/
theorem mem_args_of_mem_pairUp {args : List Expr} (heven : args.length % 2 = 0)
    {pair : Expr × Expr} (h : pair ∈ pairUp args) : pair.1 ∈ args ∧ pair.2 ∈ args := by
  rw [← flatten_pairUp heven]
  exact ⟨List.mem_flatMap.mpr ⟨pair, h, List.mem_cons_self⟩,
    List.mem_flatMap.mpr ⟨pair, h, List.mem_cons_of_mem _ List.mem_cons_self⟩⟩

/-- A key that is added goes with its value, and what was there stays or gives way. -/
theorem mem_fields_resultField {name : String} {value : Expr} {f : String × Expr}
    (h : f ∈ (q.resultField name value).yield.fields) : f = (name, value) ∨ f ∈ q.yield.fields :=
  Keyed.mem_insert h

/-- **Every edit keeps a query balanced** if it gives balanced texts only. -/
theorem HoldsBalanced.apply_edit (hq : q.HoldsBalanced) (htexts : ∀ t ∈ edit.texts, Balanced t)
    (hexprs : ∀ e ∈ edit.exprs, e.WrittenBalanced) (h : edit.apply q = .ok q') :
    q'.HoldsBalanced := by
  cases edit with
  | collect args into =>
    obtain ⟨heven, rfl⟩ := collect_eq_ok.mp h
    refine { hq with groupings := List.forall_mem_append.mpr ⟨hq.groupings, ?_⟩ }
    refine List.forall_mem_singleton.mpr ⟨fun name hname => ?_, fun pair hpair => ?_⟩
    · exact htexts name (Option.mem_toList.mpr hname)
    · obtain ⟨hname, hvalue⟩ := mem_args_of_mem_pairUp heven hpair
      exact ⟨hexprs _ hname, hexprs _ hvalue⟩
  | resultField name value =>
    obtain rfl := Except.ok.inj h
    refine { hq with yieldKeys := fun key hkey => ?_, yieldExprs := fun e he => ?_ }
    · obtain ⟨f, hf, rfl⟩ := List.mem_map.mp hkey
      obtain rfl | hold := mem_fields_resultField hf
      · exact htexts name List.mem_cons_self
      · exact hq.yieldKeys f.1 (List.mem_map_of_mem hold)
    · obtain ⟨f, hf, rfl⟩ := List.mem_map.mp he
      obtain rfl | hold := mem_fields_resultField hf
      · exact hexprs value List.mem_cons_self
      · exact hq.yieldExprs f.2 (q.yield.mem_exprs hold)
  | alwaysRender =>
    obtain rfl := Except.ok.inj h
    exact { hq with snapshot := nofun }
  | iterateAs name =>
    obtain rfl := Except.ok.inj h
    exact { hq with rowVar := htexts name List.mem_cons_self }
  | iterateOver source =>
    obtain rfl := Except.ok.inj h
    exact { hq with source := by rintro _ ⟨⟩; exact hexprs source List.mem_cons_self }
  | nest queries =>
    obtain rfl := Except.ok.inj h
    exact { hq with nested := List.forall_mem_append.mpr ⟨hq.nested, hexprs⟩ }
  | letVar name value =>
    obtain rfl := Except.ok.inj h
    have hlet : Balanced name ∧ value.WrittenBalanced :=
      ⟨htexts name List.mem_cons_self, hexprs value List.mem_cons_self⟩
    exact { hq with
      lets := List.forall_mem_append.mpr ⟨hq.lets, List.forall_mem_singleton.mpr hlet⟩ }
  | filter condition =>
    obtain rfl := Except.ok.inj h
    exact { hq with filters := List.forall_mem_append.mpr ⟨hq.filters, htexts⟩ }
  | sort keys =>
    obtain rfl := Except.ok.inj h
    exact { hq with sortKeys := List.forall_mem_append.mpr ⟨hq.sortKeys, htexts⟩ }
  | result yield =>
    obtain rfl := Except.ok.inj h
    exact { hq with yieldKeys := htexts, yieldExprs := hexprs }
  | limitTo bound | bind vars | fetchWith options =>
    obtain rfl := Except.ok.inj h
    exact { hq with }

theorem Renders.holdsBalanced {o : Except QueryError String × Query} (h : q.Renders o)
    (hq : q.HoldsBalanced) : o.2.HoldsBalanced := by
  cases h with
  | again | failed => exact hq
  | @anew text _ hcompose =>
    have htext : Balanced text := hq.compose text hcompose
    unfold freeze
    split
    · exact { hq with snapshot := by rintro _ ⟨⟩; exact htext }
    · exact hq

/-- **Every call keeps a query balanced** if it gives balanced texts only. -/
theorem HoldsBalanced.apply (hq : q.HoldsBalanced) (htexts : ∀ t ∈ call.texts, Balanced t)
    (hexprs : ∀ e ∈ call.exprs, e.WrittenBalanced) (h : call.apply q = .ok q') :
    q'.HoldsBalanced := by
  cases call with
  | edit edit => exact hq.apply_edit htexts hexprs h
  | render =>
    obtain rfl := Except.ok.inj h
    exact q.renders.holdsBalanced hq
  | execute c =>
    obtain rfl := Except.ok.inj h
    rw [execute_eq]
    exact q.renders.holdsBalanced hq

/-- A life in which balanced texts are given makes a query that holds balanced texts. -/
theorem holdsBalanced_run {o : Origin} (hcollection : ∀ name ∈ o.query.collection, Balanced name)
    (htexts : ∀ t ∈ calls.flatMap Call.texts, Balanced t)
    (hexprs : ∀ e ∈ calls.flatMap Call.exprs, e.WrittenBalanced)
    (hrun : o.query.run calls = .ok q) : q.HoldsBalanced := by
  refine run_induction (fun hmem hq hcall => hq.apply (fun t ht => ?_) (fun e he => ?_) hcall)
    (holdsBalanced_query hcollection) hrun
  · exact htexts t (List.mem_flatMap.mpr ⟨_, hmem, ht⟩)
  · exact hexprs e (List.mem_flatMap.mpr ⟨_, hmem, he⟩)

end Query

open Query in
/-- What is written of an expression made of balanced texts is balanced. -/
theorem Expr.MadeOf.writtenBalanced {e : Expr} (h : e.MadeOf Balanced) : e.WrittenBalanced := by
  induction h with
  | raw htext => exact raw_balanced htext
  | var hname => exact var_balanced hname
  | call hfunction _ hargs => exact call_balanced hfunction hargs
  | object hkeys _ hvalues => exact object_balanced hkeys hvalues
  | list _ hitems => exact list_balanced hitems
  | subquery hcollection htexts _ hrun hexprs =>
    exact (holdsBalanced_run hcollection htexts hexprs hrun).subquery

namespace Query

/-- The life of a query made of balanced texts leaves it with balanced texts. -/
theorem MadeOf.holdsBalanced {q : Query} (h : q.MadeOf Balanced) : q.HoldsBalanced := by
  cases h with
  | subquery hcollection htexts hexprs hrun =>
    exact holdsBalanced_run hcollection htexts (fun e he => (hexprs e he).writtenBalanced) hrun

/-- **Rendering keeps texts balanced.** Take expressions and queries that are built from balanced
texts to any depth, each query over a life in which edits, renderings and executions come in any
order. Wherever such an expression is written, with a sub-query in parentheses or without them, as
the value of a key or in a list, its text is balanced. So are all texts of such a query: what it is
rendered to, what it stands for in another query, its `FOR` in the list of nested ones at any
position, and the frozen text. -/
theorem rendering_balanced :
    (∀ e : Expr, e.MadeOf Balanced → ∀ place text, e.render place = .ok text → Balanced text) ∧
      ∀ q : Query, q.MadeOf Balanced →
        (∀ text, q.render.1 = .ok text → Balanced text) ∧
          (∀ text, q.text = .ok text → Balanced text) ∧
            (∀ position text, q.nestedText position = .ok text → Balanced text) ∧
              ∀ text, q.snapshot = some text → Balanced text := by
  refine ⟨fun e he place => he.writtenBalanced.render place, fun q hq => ?_⟩
  have hholds := hq.holdsBalanced
  refine ⟨fun text htext => ?_, hholds.text, hholds.nestedText, hholds.snapshot⟩
  rw [q.renders.text_eq] at htext
  exact hholds.text text htext

/-- The rows of a query that was rendered before are counted in another one. -/
theorem rendering_balanced_counted :
    let inner : Query := { ofCollection "post" with
      filters := ["obj.tags[0] == \"a\""]
      frozen := true
      snapshot := some "FOR obj IN post FILTER obj.tags[0] == \"a\" RETURN obj" }
    let outer : Query :=
      ((ofCollection "user").letVar "n" (.call "LENGTH" [.subquery inner])).resultField "n"
        (.raw "n")
    let text := "FOR obj IN user LET n = LENGTH((FOR obj IN post FILTER obj.tags[0] == \"a\""
      ++ " RETURN obj)) RETURN \x7b\"n\": n\x7d"
    (Expr.subquery inner).MadeOf Balanced ∧ outer.MadeOf Balanced ∧ outer.render.1 = .ok text ∧
      Balanced text := by
  intro inner outer text
  have hinner : (Expr.subquery inner).MadeOf Balanced := by
    refine @Expr.MadeOf.subquery Balanced (.collection "post")
      [.edit (.filter "obj.tags[0] == \"a\""), .render] inner ?_ ?_ nofun rfl
    · rintro _ ⟨⟩
      decide
    · decide
  have houter : outer.MadeOf Balanced := by
    refine @Expr.MadeOf.subquery Balanced (.collection "user")
      [.edit (.letVar "n" (.call "LENGTH" [.subquery inner])), .edit (.resultField "n" (.raw "n"))]
      outer ?_ ?_ ?_ rfl
    · rintro _ ⟨⟩
      decide
    · decide
    · refine List.forall_mem_cons.mpr ⟨.call (by decide) ?_, List.forall_mem_singleton.mpr ?_⟩
      · exact List.forall_mem_singleton.mpr hinner
      · exact .raw (by decide)
  have htext : outer.render.1 = .ok text := rfl
  exact ⟨hinner, houter, htext, (rendering_balanced.2 outer houter).1 text htext⟩

end Query

end Pagewise
