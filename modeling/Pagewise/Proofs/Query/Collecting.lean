import Pagewise.Proofs.Query.Clauses

/-!
# `COLLECT` and its arguments

The names of a `COLLECT` and their expressions are given in one row, in turn. They are put together
two by two; an argument without a partner would be left out, so their number is looked at first, and
an odd one is refused.

* `inTurn`: pairs in one row. `pairUp` is the other way (`flatten_pairUp`).
* `collectText`: a `COLLECT` as it is written. `grouping_eq_collectText`: so the clause is written
  whose arguments have the texts.
* `clauseTexts_collect`: where the clause stands among those of the query.
* **`collect_keeps_arguments`**: what `collect` makes of its arguments, and what comes of it in the
  text.
-/

namespace Pagewise.Query

/-! ## Pairs in one row -/

/-- The parts of pairs in one row, both of a pair before the next one. -/
def inTurn {α : Type} (pairs : List (α × α)) : List α :=
  pairs.flatMap fun p => [p.1, p.2]

variable {args : List Expr} {texts : List (String × String)} {into : Option String}

/-- Arguments that have texts have them pair by pair. -/
theorem pairTexts_pairUp (h : args.map (·.render .clause) = (inTurn texts).map .ok) :
    (pairUp args).map pairText? = (texts.map fun p => p.1 ++ " = " ++ p.2).map .ok := by
  induction texts generalizing args with
  | nil =>
    obtain rfl := List.map_eq_nil_iff.mp h
    rfl
  | cons p texts ih =>
    obtain ⟨name, later, rfl, hname, hlater⟩ := List.map_eq_cons_iff.mp h
    obtain ⟨value, rest, rfl, hvalue, hrest⟩ := List.map_eq_cons_iff.mp hlater
    rw [pairUp, List.map_cons, ih hrest, pairText?, hname, hvalue]
    rfl

/-! ## The clause as it is written -/

/-- **A `COLLECT` as it is written**: its pairs with commas between them, and the name of the group,
each if there is one. With neither it is not written. -/
def collectText (texts : List (String × String)) (into : Option String) : Option String :=
  let pairs := ", ".intercalate (texts.map fun p => p.1 ++ " = " ++ p.2)
  match texts, into with
  | [], none => none
  | [], some group => some ("COLLECT INTO " ++ group)
  | _ :: _, none => some ("COLLECT " ++ pairs)
  | _ :: _, some group => some ("COLLECT " ++ pairs ++ " INTO " ++ group)

/-- A clause whose arguments have texts is written with them. -/
theorem grouping_eq_collectText (h : args.map (·.render .clause) = (inTurn texts).map .ok) :
    ([⟨pairUp args, into⟩].filter isShown).map groupingText? =
      (collectText texts into).toList.map .ok := by
  have hpairs := pairTexts_pairUp h
  cases texts with
  | nil =>
    have hnone : pairUp args = [] := List.map_eq_nil_iff.mp hpairs
    rw [hnone]
    cases into <;> rfl
  | cons p texts =>
    have hsome : pairUp args ≠ [] := fun hnone => by simp [hnone] at hpairs
    have hshown : isShown ⟨pairUp args, into⟩ = true := by simp [isShown, hsome]
    rw [List.filter_cons_of_pos hshown, List.filter_nil, List.map_singleton, groupingText?, hpairs,
      mapM_ok, pure_bind, List.map_cons, if_neg (List.cons_ne_nil _ _)]
    have hword (pairs : String) : "COLLECT" ++ (" " ++ pairs) = "COLLECT " ++ pairs :=
      (String.append_assoc ..).symm
    cases into with
    | none =>
      refine congrArg (fun text => [Except.ok text]) ?_
      rw [hword]
      exact String.append_empty
    | some group =>
      refine congrArg (fun text => [Except.ok text]) ?_
      rw [hword]
      exact (String.append_assoc ..).symm

/-! ## The clause among the others -/

/-- The clauses behind the last `COLLECT`. -/
def closingTexts (q : Query) : List (Except QueryError String) :=
  (if q.sortKeys = [] then [] else ["SORT " ++ ", ".intercalate q.sortKeys]).map .ok
    ++ (q.limit.toList.map limitText).map .ok
    ++ [("RETURN " ++ ·) <$> q.yield.render q.rowVar]

/-- A further `COLLECT` is written behind those that are there. -/
theorem clauseTexts_collect (q : Query) (g : Grouping) :
    ∃ before, q.clauseTexts = before ++ q.closingTexts ∧
      ({ q with groupings := q.groupings ++ [g] } : Query).clauseTexts =
        before ++ ([g].filter isShown).map groupingText? ++ q.closingTexts := by
  refine ⟨[("FOR " ++ q.rowVar ++ " IN " ++ ·) <$> renderSource q.collection q.source]
    ++ (q.nested.zipIdx 1).map (fun e => nestedText? e.1 e.2)
    ++ q.lets.map letText?
    ++ (q.filters.map ("FILTER " ++ ·)).map .ok
    ++ (q.groupings.filter isShown).map groupingText?, ?_, ?_⟩
  · simp only [clauseTexts, closingTexts, List.append_assoc]
  · simp only [clauseTexts, closingTexts, List.filter_append, List.map_append, List.append_assoc]

/-- A `COLLECT` with neither pairs nor a group leaves the text as it is, frozen or not. -/
theorem text_collect_nothing (q : Query) :
    ({ q with groupings := q.groupings ++ [⟨[], none⟩] } : Query).text = q.text := by
  have hcompose :
      ({ q with groupings := q.groupings ++ [⟨[], none⟩] } : Query).compose = q.compose := by
    obtain ⟨before, hbefore, hafter⟩ := clauseTexts_collect q ⟨[], none⟩
    rw [compose_eq, compose_eq, hbefore, hafter]
    simp [isShown]
  rw [text_eq, text_eq, hcompose]
  rfl

/-! ## What `collect` does -/

/-- **A `COLLECT` loses none of its arguments.** It is refused exactly when their number is odd, and
then with that number. Else the query has one clause more and is otherwise as it was; the pairs of
the clause are the arguments in their order, and its group is the one that was named. When the
arguments have texts, the clause is written with them, between what stood in front of `SORT`,
`LIMIT` and `RETURN` and these. A clause with neither arguments nor a group is not written and makes
no difference, wherever the query is used. -/
theorem collect_keeps_arguments (q : Query) (args : List Expr) (into : Option String) :
    (∀ e, q.collect args into = .error e ↔
      args.length % 2 = 1 ∧ e = .oddCollectArguments args.length) ∧
      (args.length % 2 = 0 → ∃ g : Grouping,
        q.collect args into = .ok { q with groupings := q.groupings ++ [g] } ∧
          inTurn g.pairs = args ∧ g.into = into) ∧
      (∀ q' texts, q.collect args into = .ok q' →
        args.map (·.render .clause) = (inTurn texts).map .ok →
          ∃ before, q.clauseTexts = before ++ q.closingTexts ∧
            q'.clauseTexts =
              before ++ (collectText texts into).toList.map .ok ++ q.closingTexts ∧
            q'.compose = (" ".intercalate ·) <$> q'.clauseTexts.mapM id) ∧
      ∀ q', q.collect [] none = .ok q' →
        q'.text = q.text ∧ q'.render.1 = q.render.1 ∧
          ∀ position, q'.nestedText position = q.nestedText position := by
  refine ⟨fun e => ?_, fun heven => ?_, fun q' texts hq htexts => ?_, fun q' hq => ?_⟩
  · unfold collect
    by_cases heven : args.length % 2 = 0
    · simp [heven]
    · have hodd : args.length % 2 = 1 := Nat.mod_two_ne_zero.mp heven
      rw [if_neg heven, Except.error.injEq, eq_comm]
      exact (and_iff_right hodd).symm
  · exact ⟨⟨pairUp args, into⟩, collect_eq_ok.mpr ⟨heven, rfl⟩, flatten_pairUp heven, rfl⟩
  · obtain ⟨-, rfl⟩ := collect_eq_ok.mp hq
    obtain ⟨before, hbefore, hafter⟩ := clauseTexts_collect q ⟨pairUp args, into⟩
    rw [grouping_eq_collectText htexts] at hafter
    exact ⟨before, hbefore, hafter, compose_eq _⟩
  · obtain ⟨-, rfl⟩ := collect_eq_ok.mp hq
    have htext := q.text_collect_nothing
    refine ⟨htext, ?_, fun position => ?_⟩
    · rw [(renders _).text_eq, q.renders.text_eq]
      exact htext
    · rw [nestedText_eq, nestedText_eq]

/-- Two pairs and a group in front of a `SORT`; without its last expression it is refused. -/
theorem collect_keeps_arguments_grouped :
    let q : Query := (ofCollection "user").sort ["a"]
    let args : List Expr := [.raw "a", .raw "obj.a", .raw "n", .call "LENGTH" [.raw "1"]]
    let texts : List (String × String) := [("a", "obj.a"), ("n", "LENGTH(1)")]
    args.length % 2 = 0 ∧ args.map (·.render .clause) = (inTurn texts).map .ok ∧
      (∃ g, q.collect args (some "g") = .ok { q with groupings := [g] } ∧ inTurn g.pairs = args ∧
        ({ q with groupings := [g] } : Query).compose =
          .ok "FOR obj IN user COLLECT a = obj.a, n = LENGTH(1) INTO g SORT a RETURN obj") ∧
      q.collect args.dropLast none = .error (.oddCollectArguments 3) := by
  intro q args texts
  have htexts : args.map (·.render .clause) = (inTurn texts).map .ok := rfl
  obtain ⟨-, hkeeps, hwritten, -⟩ := collect_keeps_arguments q args (some "g")
  obtain ⟨g, hcollect, hargs, -⟩ := hkeeps (by decide)
  obtain ⟨before, hbefore, hafter, hcompose⟩ := hwritten _ texts hcollect htexts
  have hfor : before = [.ok "FOR obj IN user"] := List.append_cancel_right hbefore.symm
  refine ⟨by decide, htexts, ⟨g, hcollect, hargs, ?_⟩, ?_⟩
  · rw [hafter, hfor] at hcompose
    exact hcompose
  · exact ((collect_keeps_arguments q args.dropLast none).1 _).mpr ⟨by decide, rfl⟩

end Pagewise.Query
