import Pagewise.Query.Render

/-!
# Building a query

A query is built by edits, each of which touches one clause. Edits of different clauses can be
made in any order; edits of one clause either replace it or add to its end. `Edit.apply` fails
only for `COLLECT` with a name that has no expression, and then nothing is changed.

* `flatten_pairUp`: a `COLLECT` clause holds its arguments in order.
-/

namespace Pagewise

namespace Query

/-- Names the variable that runs over the rows. -/
def iterateAs (name : String) (q : Query) : Query :=
  { q with rowVar := name }

/-- Takes the rows of an expression in place of the collection. -/
def iterateOver (source : Expr) (q : Query) : Query :=
  { q with source := some source }

/-- Adds iterations within the first one. -/
def nest (queries : List Expr) (q : Query) : Query :=
  { q with nested := q.nested ++ queries }

/-- Adds a `LET`; one of the same name stays. -/
def letVar (name : String) (value : Expr) (q : Query) : Query :=
  { q with lets := q.lets ++ [(name, value)] }

/-- Adds a `FILTER`. -/
def filter (condition : String) (q : Query) : Query :=
  { q with filters := q.filters ++ [condition] }

/-- Arguments two by two; an argument without a partner is left out. -/
def pairUp : List Expr → List (Expr × Expr)
  | name :: value :: rest => (name, value) :: pairUp rest
  | _ => []

/-- Adds a `COLLECT` clause from names and expressions in turn. -/
def collect (args : List Expr) (into : Option String) (q : Query) : Except QueryError Query :=
  if args.length % 2 = 0 then
    .ok { q with groupings := q.groupings ++ [⟨pairUp args, into⟩] }
  else .error (.oddCollectArguments args.length)

theorem collect_eq_ok {args : List Expr} {into : Option String} {q q' : Query} :
    q.collect args into = .ok q' ↔
      args.length % 2 = 0 ∧ q' = { q with groupings := q.groupings ++ [⟨pairUp args, into⟩] } := by
  unfold collect
  by_cases heven : args.length % 2 = 0
  · rw [if_pos heven, Except.ok.injEq, eq_comm]
    exact (and_iff_right heven).symm
  · rw [if_neg heven]
    simp [heven]

/-- Adds keys to the one `SORT`. -/
def sort (keys : List String) (q : Query) : Query :=
  { q with sortKeys := q.sortKeys ++ keys }

/-- Limits the number of rows. -/
def limitTo (bound : Limit) (q : Query) : Query :=
  { q with limit := some bound }

/-- Binds variables; a later value of a variable counts. -/
def bind (vars : List (String × Json)) (q : Query) : Query :=
  { q with binds := Keyed.insertAll q.binds vars }

/-- Says what is returned of each row. -/
def result (yield : Yield) (q : Query) : Query :=
  { q with yield }

/-- Adds a key to what is returned; anything but a mapping gives way to one. -/
def resultField (name : String) (value : Expr) (q : Query) : Query :=
  { q with yield := .mapping (Keyed.insert name value q.yield.fields) }

/-- Says how the result is to be fetched, in place of what was said before. -/
def fetchWith (options : CursorOptions) (q : Query) : Query :=
  { q with options }

/-- One edit of a query. -/
inductive Edit where
  | alwaysRender
  | iterateAs (name : String)
  | iterateOver (source : Expr)
  | nest (queries : List Expr)
  | letVar (name : String) (value : Expr)
  | filter (condition : String)
  | collect (args : List Expr) (into : Option String)
  | sort (keys : List String)
  | limitTo (bound : Limit)
  | bind (vars : List (String × Json))
  | result (yield : Yield)
  | resultField (name : String) (value : Expr)
  | fetchWith (options : CursorOptions)

/-- Makes an edit. -/
def Edit.apply (q : Query) : Edit → Except QueryError Query
  | .alwaysRender => .ok q.alwaysRender
  | .iterateAs name => .ok (q.iterateAs name)
  | .iterateOver source => .ok (q.iterateOver source)
  | .nest queries => .ok (q.nest queries)
  | .letVar name value => .ok (q.letVar name value)
  | .filter condition => .ok (q.filter condition)
  | .collect args into => q.collect args into
  | .sort keys => .ok (q.sort keys)
  | .limitTo bound => .ok (q.limitTo bound)
  | .bind vars => .ok (q.bind vars)
  | .result yield => .ok (q.result yield)
  | .resultField name value => .ok (q.resultField name value)
  | .fetchWith options => .ok (q.fetchWith options)

/-! ## Arguments of `COLLECT` -/

theorem flatten_pairUp {args : List Expr} (h : args.length % 2 = 0) :
    ((pairUp args).flatMap fun p => [p.1, p.2]) = args := by
  fun_induction pairUp args with
  | case1 name value rest ih =>
    have := ih (by simp at h; omega)
    simp [this]
  | case2 args short =>
    match args, short, h with
    | [], _, _ => rfl
    | [_], _, h => simp at h
    | a :: b :: rest, short, _ => exact absurd rfl (short a b rest)

end Query

end Pagewise
