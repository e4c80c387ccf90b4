import Pagewise.Proofs.Query.History

/-!
# Where a rendering fails

A rendering walks through a query and stops at the first error. Its *error sites* are all errors
that stand in the way of the text, in the order of the walk, whether or not the walk gets there
(`Query.sites`). A sub-query with a frozen text has none, as nothing is walked through; but a query
that stands for a further `FOR` is used by its source only, whether its text is frozen or not.

* `Settles`: error sites decide about a result. Steps one after the other have their sites one
  after the other (`Settles.bind`).
* `Expr.settles` and the lemmas beside it: one case for each constructor, through expressions and
  queries of any depth.
* `Expr.sites_ofEntries`: the members of an object are visited in the order of their keys.
* **`fails_at_first_site`**: a query that is not frozen has a text when it has no error site, and
  fails with the first one else.
-/

namespace Pagewise

/-! ## Error sites -/

mutual

/-- The error sites in an expression, wherever it stands. -/
def Expr.sites : Expr → List QueryError
  | .raw _ | .var _ => []
  | .call _ args => Expr.sitesAll args
  | .subquery q => q.sites
  | .object members => Expr.sitesEntries members
  | .list items => Expr.sitesAll items

/-- The error sites in expressions, from left to right. -/
def Expr.sitesAll : List Expr → List QueryError
  | [] => []
  | e :: rest => e.sites ++ Expr.sitesAll rest

/-- The error sites in named expressions, in their order; that of entries is the order of keys. -/
def Expr.sitesEntries : List (String × Expr) → List QueryError
  | [] => []
  | (_, e) :: rest => e.sites ++ Expr.sitesEntries rest

/-- The error sites in pairs of a `COLLECT`, the name before the expression. -/
def Grouping.sitesPairs : List (Expr × Expr) → List QueryError
  | [] => []
  | (name, e) :: rest => name.sites ++ (e.sites ++ Grouping.sitesPairs rest)

/-- The error sites in all `COLLECT`. -/
def Grouping.sitesAll : List Grouping → List QueryError
  | [] => []
  | ⟨pairs, _⟩ :: rest => Grouping.sitesPairs pairs ++ Grouping.sitesAll rest

/-- The error sites behind `RETURN`. -/
def Yield.sites : Yield → List QueryError
  | .rowVar => []
  | .single value => value.sites
  | .mapping fields => Expr.sitesEntries fields

/-- The error sites in a source; it is one to have neither a source nor a collection. -/
def Query.sitesSource (collection : Option String) : Option Expr → List QueryError
  | some source => source.sites
  | none => if collection = none then [.missingSource] else []

/-- The error sites of a query that stands for a further `FOR`, frozen or not. -/
def Query.sitesFor : Query → List QueryError
  | ⟨_, collection, source, _, _, _, _, _, _, _, _, _, _, _, _⟩ =>
    Query.sitesSource collection source

/-- The error sites among further `FOR`, counted from a position on; anything that is no query is
one. -/
def Query.sitesNested (position : Nat) : List Expr → List QueryError
  | [] => []
  | e :: rest =>
    (match e with
      | .subquery q => q.sitesFor
      | _ => [.nestedNotQuery position]) ++ Query.sitesNested (position + 1) rest

/-- **The error sites in a query.** A frozen text has none. -/
def Query.sites : Query → List QueryError
  | ⟨_, collection, source, nested, lets, _, groupings, _, _, yield, _, _, _, frozen, snapshot⟩ =>
    match snapshot, frozen with
    | some _, true => []
    | _, _ => Query.sitesSource collection source ++ (Query.sitesNested 1 nested
        ++ (Expr.sitesEntries lets ++ (Grouping.sitesAll groupings ++ yield.sites)))

end

/-- Error sites that decide about a result: without any it is there, and else it is the error of the
first one. -/
def Settles {α : Type} (sites : List QueryError) (result : Except QueryError α) : Prop :=
  match sites with
  | [] => ∃ a, result = .ok a
  | e :: _ => result = .error e

namespace Settles

variable {α β : Type} {sites later : List QueryError} {x : Except QueryError α}

theorem ok (a : α) : Settles [] (.ok a) := ⟨a, rfl⟩

theorem error (e : QueryError) (rest : List QueryError) :
    Settles (e :: rest) (.error e : Except QueryError α) := rfl

/-- The sites of two steps are those of the first, and then those of the second. -/
theorem bind {f : α → Except QueryError β} (hx : Settles sites x)
    (hf : ∀ a, Settles later (f a)) : Settles (sites ++ later) (x >>= f) := by
  cases sites with
  | nil =>
    obtain ⟨a, rfl⟩ := hx
    exact hf a
  | cons e rest =>
    obtain rfl : x = .error e := hx
    exact error e _

/-- What is made of a result has no sites of its own. -/
theorem map (f : α → β) (hx : Settles sites x) : Settles sites (f <$> x) := by
  cases sites with
  | nil =>
    obtain ⟨a, rfl⟩ := hx
    exact ok (f a)
  | cons e rest =>
    obtain rfl : x = .error e := hx
    exact error e _

/-- A result is there when there is no site. -/
theorem exists_ok_iff (hx : Settles sites x) : (∃ a, x = .ok a) ↔ sites = [] := by
  cases sites with
  | nil => exact iff_of_true hx rfl
  | cons e rest =>
    obtain rfl : x = .error e := hx
    simp

/-- The parts of a query have their sites in the order in which they are put together. -/
theorem assemble (rowVar : String) (filters sortKeys : List String) (limit : Option Limit)
    {a b c d e : List QueryError} {source value : Except QueryError String}
    {nested lets groupings : Except QueryError (List String)} (hsource : Settles a source)
    (hnested : Settles b nested) (hlets : Settles c lets) (hgroupings : Settles d groupings)
    (hvalue : Settles e value) :
    Settles (a ++ (b ++ (c ++ (d ++ e))))
      (assemble rowVar filters sortKeys limit source nested lets groupings value) :=
  hsource.bind fun _ => hnested.bind fun _ => hlets.bind fun _ => hgroupings.bind fun _ =>
    hvalue.map _

end Settles

/-! ## Through expressions and queries of any depth -/

mutual

theorem Expr.settles (place : Place) : ∀ e : Expr, Settles e.sites (e.render place)
  | .raw _ => .ok _
  | .var _ => .ok _
  | .call _ args => (Expr.settlesAll .clause args).map _
  | .subquery q => (Query.settles q).map _
  | .object members => (Expr.settlesEntries .member members).map _
  | .list items => by
    unfold Expr.render
    split
    · exact (Expr.settlesAll .member items).map _
    · exact (Expr.settlesAll .clause items).map _

theorem Expr.settlesAll (place : Place) :
    ∀ es : List Expr, Settles (Expr.sitesAll es) (Expr.renderAll place es)
  | [] => .ok _
  | e :: rest => (Expr.settles place e).bind fun _ => (Expr.settlesAll place rest).map _

theorem Expr.settlesEntries (place : Place) :
    ∀ es : List (String × Expr), Settles (Expr.sitesEntries es) (Expr.renderEntries place es)
  | [] => .ok _
  | (_, e) :: rest => (Expr.settles place e).bind fun _ => (Expr.settlesEntries place rest).map _

theorem Query.settlesLets :
    ∀ ls : List (String × Expr), Settles (Expr.sitesEntries ls) (Query.renderLets ls)
  | [] => .ok _
  | (_, e) :: rest => (Expr.settles .clause e).bind fun _ => (Query.settlesLets rest).map _

theorem Grouping.settlesPairs :
    ∀ ps : List (Expr × Expr), Settles (Grouping.sitesPairs ps) (Grouping.renderPairs ps)
  | [] => .ok _
  | (name, e) :: rest =>
    (Expr.settles .clause name).bind fun _ =>
      (Expr.settles .clause e).bind fun _ => (Grouping.settlesPairs rest).map _

theorem Grouping.settlesAll :
    ∀ gs : List Grouping, Settles (Grouping.sitesAll gs) (Grouping.renderAll gs)
  | [] => .ok _
  | ⟨pairs, _⟩ :: rest =>
    (Grouping.settlesPairs pairs).bind fun _ => (Grouping.settlesAll rest).map _

theorem Yield.settles (rowVar : String) : ∀ y : Yield, Settles y.sites (y.render rowVar)
  | .rowVar => .ok _
  | .single value => Expr.settles .clause value
  | .mapping fields => (Expr.settlesEntries .field fields).map _

theorem Query.settlesSource (collection : Option String) : ∀ source : Option Expr,
    Settles (Query.sitesSource collection source) (Query.renderSource collection source)
  | some source => Expr.settles .source source
  | none => by cases collection <;> first | exact .ok _ | exact .error _ _

theorem Query.settlesFor (position : Nat) :
    ∀ q : Query, Settles q.sitesFor (q.nestedText position)
  | ⟨_, collection, source, _, _, _, _, _, _, _, _, _, _, _, _⟩ =>
    (Query.settlesSource collection source).map _

theorem Query.settlesNested (position : Nat) :
    ∀ es : List Expr, Settles (Query.sitesNested position es) (Query.renderNested position es)
  | [] => .ok _
  | .subquery q :: rest =>
    (Query.settlesFor position q).bind fun _ => (Query.settlesNested (position + 1) rest).map _
  | .raw _ :: _ | .var _ :: _ | .call _ _ :: _ | .object _ :: _ | .list _ :: _ => .error _ _

theorem Query.settles : ∀ q : Query, Settles q.sites q.text
  | ⟨rowVar, collection, source, nested, lets, _, groupings, _, _, yield, _, _, _, frozen,
      snapshot⟩ => by
    have hcompose := fun filters sortKeys limit => Settles.assemble rowVar filters sortKeys limit
      (Query.settlesSource collection source) (Query.settlesNested 1 nested)
      (Query.settlesLets lets) (Grouping.settlesAll groupings) (Yield.settles rowVar yield)
    cases snapshot with
    | none => exact hcompose _ _ _
    | some text =>
      cases frozen with
      | false => exact hcompose _ _ _
      | true => exact .ok text

end

/-! ## Queries -/

/-- Members of an object can be given in any order, and are visited in the order of their keys. -/
theorem Expr.sites_ofEntries (entries : List (String × Expr)) :
    (Expr.ofEntries entries).sites = (Keyed.ofList entries).flatMap (fun e => e.2.sites) ∧
      Keyed.Sorted (Keyed.ofList entries) := by
  have hvisited (members : List (String × Expr)) :
      Expr.sitesEntries members = members.flatMap fun e => e.2.sites := by
    induction members with
    | nil => rfl
    | cons e rest ih => rw [Expr.sitesEntries, ih, List.flatMap_cons]
  exact ⟨hvisited _, Keyed.sorted_ofList entries⟩

namespace Query

/-- **A rendering fails exactly on the first error site.** A query has a text, from a rendering, as
a preview and in an execution, when it has no error site. Else each of them fails with the error of
the first site, and the query stays as it is. -/
theorem fails_at_first_site (q : Query) :
    ((∃ text, q.render.1 = .ok text) ↔ q.sites = []) ∧
      ((∃ text, q.text = .ok text) ↔ q.sites = []) ∧
      (∀ c, (∃ cursor, (q.execute c).1 = .ok cursor) ↔ q.sites = []) ∧
      ∀ e rest, q.sites = e :: rest →
        q.text = .error e ∧ q.render = (.error e, q) ∧
          ∀ c, q.execute c = (.error (.build e), q) := by
  have hsettles : Settles q.sites q.text := settles q
  have hrender : q.render.1 = q.text := q.renders.text_eq
  refine ⟨?_, hsettles.exists_ok_iff, fun c => ?_, fun e rest hsites => ?_⟩
  · rw [hrender]
    exact hsettles.exists_ok_iff
  · rw [← hsettles.exists_ok_iff, execute_eq, hrender]
    cases q.text <;> simp
  · rw [hsites] at hsettles
    have htext : q.text = .error e := hsettles
    obtain ⟨-, hfailed⟩ := q.renders.of_error (hrender.trans htext)
    refine ⟨htext, hfailed, fun c => ?_⟩
    rw [execute_eq, hfailed]

/-- Both errors are sites; the one in the `FOR` is met first. -/
example :
    (((ofCollection "user").letVar "a" (.subquery .blank)).nest [.raw "b"]).sites =
      [.nestedNotQuery 1, .missingSource] := by
  rfl

end Query

end Pagewise
