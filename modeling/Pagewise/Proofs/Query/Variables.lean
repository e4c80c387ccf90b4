import Pagewise.Decimal
import Pagewise.Proofs.Query.Clauses

/-!
# The variables of nested queries

A nested query that names no variable is given one: the default name with its position among the
nested queries. Positions are written in decimal, so variables that are given in this way never meet
each other, nor the default name itself. But the name that a caller gives to the outer variable is
taken as it is, and `obj1` is a name like any other: then it meets the variable of the first nested
query.

* `nestedVariables`: the variables of nested queries, numbered from a position on.
* `nested_eq_ok`: the `FOR` clauses of nested queries carry these variables.
* **`automatic_variables`**: which of the variables of a query meet, and that no others do.
-/

namespace Pagewise.Query

/-! ## Names with a number -/

/-- The name that a nested query without one is given. -/
theorem nestedVariable_default (position : Nat) :
    nestedVariable position defaultVariable = defaultVariable ++ Nat.repr position :=
  if_pos rfl

/-- Names that are given at different positions differ. -/
theorem numbered_injective {i j : Nat}
    (h : defaultVariable ++ Nat.repr i = defaultVariable ++ Nat.repr j) : i = j :=
  Decimal.repr_injective ((String.append_right_inj defaultVariable).mp h)

/-- No number is written without digits. -/
theorem numbered_ne_default (i : Nat) : defaultVariable ++ Nat.repr i ≠ defaultVariable := by
  intro h
  have hempty : defaultVariable = defaultVariable ++ "" := String.append_empty.symm
  exact Nat.repr_ne_empty ((String.append_right_inj defaultVariable).mp (h.trans hempty))

/-! ## The `FOR` clauses of nested queries -/

/-- The variables of nested queries, numbered from a position on. -/
def nestedVariables (position : Nat) (ns : List Query) : List String :=
  (ns.zipIdx position).map fun n => nestedVariable n.2 n.1.rowVar

variable {ns : List Query} {n : Query} {i position : Nat}

/-- A query that names no variable has the number of its place. -/
theorem nestedVariables_getElem? (h : ns[i]? = some n) (hname : n.rowVar = defaultVariable) :
    (nestedVariables position ns)[i]? = some (defaultVariable ++ Nat.repr (i + position)) := by
  rw [nestedVariables, List.getElem?_map, List.getElem?_zipIdx, h, Option.map_some, Option.map_some,
    hname, nestedVariable_default, Nat.add_comm]

/-- Nested queries are written when all of their sources have a text, and then the clauses carry
their variables. -/
theorem nested_eq_ok {texts : List String}
    (h : ((ns.map Expr.subquery).zipIdx position).map (fun e => nestedText? e.1 e.2) =
      texts.map .ok) :
    ∃ sources, ns.map (fun n => renderSource n.collection n.source) = sources.map .ok ∧
      texts = List.zipWith forClause (nestedVariables position ns) sources := by
  induction ns generalizing position texts with
  | nil =>
    obtain rfl := List.map_eq_nil_iff.mp h.symm
    exact ⟨[], rfl, rfl⟩
  | cons n ns ih =>
    cases texts with
    | nil => cases h
    | cons text texts =>
      obtain ⟨hhead, htail⟩ := List.cons.inj h
      obtain ⟨sources, hsources, rfl⟩ := ih htail
      have hn : n.nestedText position = .ok text := hhead
      rw [nestedText_eq] at hn
      cases hsource : renderSource n.collection n.source with
      | error err => rw [hsource] at hn; cases hn
      | ok source =>
        rw [hsource] at hn
        obtain rfl := Except.ok.inj hn
        exact ⟨source :: sources, by rw [List.map_cons, hsource, hsources]; rfl, rfl⟩

/-- **Which variables of a query meet.** A query that is rendered afresh has one `FOR` for itself
and one for each of its nested queries, in their order, each with its own source. Those of the
nested queries that name no variable are given one with the number of their place, so that no two of
them have the same. The outer variable is the same as that of one of them exactly when it is the default
name with just this number: never when it is the default name itself. -/
theorem automatic_variables (q : Query) (ns : List Query) (hns : q.nested = ns.map .subquery) :
    (∀ text, q.frozenText? = none → q.render.1 = .ok text →
      ∃ sources rest : List String,
        renderSource q.collection q.source ::
            ns.map (fun n => renderSource n.collection n.source) = sources.map .ok ∧
          text = " ".intercalate
            (List.zipWith (fun name source => "FOR " ++ name ++ " IN " ++ source)
              (q.rowVar :: nestedVariables 1 ns) sources ++ rest)) ∧
      (∀ (i j : Nat) (n m : Query), ns[i]? = some n → ns[j]? = some m →
        n.rowVar = defaultVariable → m.rowVar = defaultVariable → i ≠ j →
          (nestedVariables 1 ns)[i]? ≠ (nestedVariables 1 ns)[j]?) ∧
        ∀ (i : Nat) (n : Query), ns[i]? = some n → n.rowVar = defaultVariable →
          ((nestedVariables 1 ns)[i]? = some q.rowVar ↔ q.rowVar = "obj" ++ Nat.repr (i + 1)) ∧
            (q.rowVar = defaultVariable → (nestedVariables 1 ns)[i]? ≠ some q.rowVar) := by
  refine ⟨fun text hfrozen htext => ?_, fun i j n m hn hm hname hname' hne heq => ?_,
    fun i n hn hname => ?_⟩
  · rw [q.renders.text_eq, text_eq, hfrozen] at htext
    obtain ⟨texts, htexts, rfl⟩ := compose_eq_ok.mp htext
    unfold clauseTexts at htexts
    simp only [List.append_assoc, List.singleton_append] at htexts
    obtain ⟨outer, later, rfl, houter, hlater⟩ := List.map_eq_cons_iff.mp htexts.symm
    obtain ⟨nested, rest, rfl, hnested, -⟩ := List.map_eq_append_iff.mp hlater
    rw [hns] at hnested
    obtain ⟨sources, hsources, rfl⟩ := nested_eq_ok hnested.symm
    cases hsource : renderSource q.collection q.source with
    | error err => rw [hsource] at houter; cases houter
    | ok source =>
      rw [hsource] at houter
      obtain rfl := Except.ok.inj houter
      refine ⟨source :: sources, rest, ?_, rfl⟩
      rw [hsources]
      rfl
  · rw [nestedVariables_getElem? hn hname, nestedVariables_getElem? hm hname'] at heq
    have := numbered_injective (Option.some.inj heq)
    omega
  · rw [nestedVariables_getElem? hn hname]
    refine ⟨?_, fun houter hsame => ?_⟩
    · rw [Option.some.injEq, eq_comm]
      rfl
    · exact numbered_ne_default _ ((Option.some.inj hsame).trans houter)

/-- An outer variable that is called by the default name with a number meets the variable of a
nested query that names none. -/
theorem automatic_variable_met :
    let inner : Query := ofCollection "b"
    let outer : Query := ((ofCollection "a").iterateAs "obj1").nest [.subquery inner]
    inner.rowVar = defaultVariable ∧ nestedVariables 1 [inner] = [outer.rowVar] ∧
      outer.render.1 = .ok "FOR obj1 IN a FOR obj1 IN b RETURN obj1" := by
  exact ⟨rfl, rfl, rfl⟩

/-- The first and the third nested query name no variable, and the outer one has the name that the
second one would be given. -/
theorem automatic_variables_numbered :
    let ns : List Query := [ofCollection "b", (ofCollection "c").iterateAs "m", ofCollection "d"]
    let outer : Query := ((ofCollection "a").iterateAs "obj2").nest (ns.map .subquery)
    outer.render.1 =
        .ok "FOR obj2 IN a FOR obj1 IN b FOR m IN c FOR obj3 IN d RETURN obj2" ∧
      (nestedVariables 1 ns)[0]? ≠ (nestedVariables 1 ns)[2]? ∧
        (nestedVariables 1 ns)[2]? ≠ some outer.rowVar := by
  intro ns outer
  obtain ⟨-, hdiffer, hmeet⟩ := automatic_variables outer ns rfl
  refine ⟨rfl, hdiffer 0 2 _ _ rfl rfl rfl rfl (by decide), fun hsame => ?_⟩
  have houter : outer.rowVar = "obj" ++ Nat.repr 3 := (hmeet 2 _ rfl rfl).1.mp hsame
  exact absurd houter (by decide)

end Pagewise.Query
