import Pagewise.Json.Basic
import Pagewise.Binary64.Layout
import Pagewise.Options

/-!
# Queries and their expressions

An AQL query is kept clause by clause, with the expressions of each clause as trees. A sub-query
is an expression, so expressions and queries are defined together. Object literals and `RETURN`
mappings hold their entries in the order of their keys (`Keyed.ofList`), so two of them with the
same entries are equal.

A query whose render cache is enabled is *frozen* by its first rendering: it then holds a snapshot
of its text, which stays whatever clauses are added later. That the flags and the snapshot agree is
a fact about the histories of queries (`Pagewise.Proofs.Query.Freezing`), not of the record.
-/

namespace Pagewise

/-- The variable of a query that names none. -/
def defaultVariable : String := "obj"

/-- A variable by its name. An inverted one is written in quotes where it is the value of a key. -/
structure Var where
  name : String
  inverted : Bool
deriving DecidableEq, Repr

/-- The other way of writing a variable. -/
def Var.flip (v : Var) : Var := { v with inverted := !v.inverted }

/-- At most `count` rows, behind the first `offset` ones if an offset is given. -/
structure Limit where
  count : Nat
  offset : Option Nat
deriving DecidableEq, Repr

mutual

/-- A value in a clause of a query. -/
inductive Expr where
  /-- Text that is taken over as it is. -/
  | raw (text : String)
  | var (var : Var)
  /-- A function applied to arguments. -/
  | call (function : String) (args : List Expr)
  | subquery (query : Query)
  /-- An object literal. -/
  | object (members : List (String × Expr))
  /-- Values one after the other; in brackets where it is the value of a key. -/
  | list (items : List Expr)

/-- What a query returns of each row. -/
inductive Yield where
  /-- The variable of the query. -/
  | rowVar
  | single (value : Expr)
  /-- An object with a value for each key. -/
  | mapping (fields : List (String × Expr))

/-- One `COLLECT` clause: group names with their expressions, and the name of the group. -/
structure Grouping where
  pairs : List (Expr × Expr)
  into : Option String

/-- An AQL query. -/
structure Query where
  /-- The variable that runs over the rows. -/
  rowVar : String
  /-- The collection whose rows it takes, unless there is a source. -/
  collection : Option String
  /-- The expression whose rows it takes. -/
  source : Option Expr
  /-- Further iterations within the first one. -/
  nested : List Expr
  lets : List (String × Expr)
  filters : List String
  groupings : List Grouping
  sortKeys : List String
  limit : Option Limit
  yield : Yield
  /-- Values of bind variables, in the order of their names. -/
  binds : List (String × Json)
  options : CursorOptions
  /-- Whether the first text that is rendered is kept. -/
  cacheEnabled : Bool
  /-- Whether a text is kept. -/
  frozen : Bool
  /-- The text that is kept. -/
  snapshot : Option String

end

/-! ## Ways to begin -/

namespace Query

/-- A query over nothing yet. -/
def blank : Query where
  rowVar := defaultVariable
  collection := none
  source := none
  nested := []
  lets := []
  filters := []
  groupings := []
  sortKeys := []
  limit := none
  yield := .rowVar
  binds := []
  options := .unset
  cacheEnabled := true
  frozen := false
  snapshot := none

/-- A query over a collection. -/
def ofCollection (name : String) : Query :=
  { blank with collection := some name }

/-- Composes the text anew from now on, and drops a frozen one. -/
def alwaysRender (q : Query) : Query :=
  { q with cacheEnabled := false, frozen := false, snapshot := none }

/-- A query over a collection that composes its text anew each time. -/
def uncached (name : String) : Query :=
  (ofCollection name).alwaysRender

/-- Whether the text is frozen. -/
def isFrozen (q : Query) : Bool :=
  q.frozen

end Query

namespace Expr

/-- Doubles in a query are written without exponent, whatever their size, and whole ones without a
point. -/
def realLayout : Binary64.Layout := ⟨.up, none, ""⟩

/-- A double as text. -/
def ofBinary64 (x : Binary64) : Expr :=
  .raw (realLayout.write x)

/-- An integer as text. -/
def ofInt (n : Int) : Expr :=
  .raw (if n < 0 then "-" ++ Nat.repr n.natAbs else Nat.repr n.natAbs)

/-- A truth value as text. -/
def ofBool (b : Bool) : Expr :=
  .raw (if b then "true" else "false")

/-- An object literal with entries in any order; of entries with one key the last one counts. -/
def ofEntries (entries : List (String × Expr)) : Expr :=
  .object (Keyed.ofList entries)

/-- Whether an expression is a query. -/
def isQuery : Expr → Bool
  | .subquery _ => true
  | _ => false

end Expr

/-- A `RETURN` mapping with entries in any order; of entries with one key the last one counts. -/
def Yield.ofEntries (entries : List (String × Expr)) : Yield :=
  .mapping (Keyed.ofList entries)

/-- The entries of a mapping; nothing else has entries. -/
def Yield.fields : Yield → List (String × Expr)
  | .mapping fields => fields
  | .rowVar | .single _ => []

end Pagewise
