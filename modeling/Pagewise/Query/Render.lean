import Pagewise.Query.Basic
import Pagewise.Query.Error

/-!
# The text of a query

The clauses of a query come in a fixed order, whatever the order in which they were added: `FOR`,
a `FOR` for each nested query, `LET`, `FILTER`, `COLLECT`, `SORT`, `LIMIT`, `RETURN`, with single
blanks between them. How an expression is written depends on its `Place`: text and variables that
are values of a key of an object literal are quoted there, and a sub-query stands in parentheses
everywhere but behind `FOR … IN`. No text that a caller gives is escaped.

`Query.text` is the text that a query has where it is used: the frozen one if there is one, else
the composed one. `Query.render` is the text together with the query that keeps it; it looks at the
cache in its own way.
-/

namespace Pagewise

/-- Where an expression stands. -/
inductive Place where
  /-- Behind `FOR … IN`. -/
  | source
  /-- In a clause, a call or a list. -/
  | clause
  /-- As the value of a key of a `RETURN` mapping. -/
  | field
  /-- As the value of a key of an object literal, or in a list that is one. -/
  | member
deriving DecidableEq, Repr

/-! ## The shape of each clause -/

/-- Text in double quotes, as it is. -/
def quotedText (text : String) : String := "\"" ++ text ++ "\""

/-- Texts with a comma and a blank between them. -/
def listed (texts : List String) : String := ", ".intercalate texts

/-- Entries, each with its key, in braces. -/
def braced (entries : List String) : String := "\x7b" ++ listed entries ++ "\x7d"

/-- A key with its value. -/
def entryText (key value : String) : String := quotedText key ++ ": " ++ value

/-- A variable over its source. -/
def forClause (name source : String) : String := "FOR " ++ name ++ " IN " ++ source

/-- A name for a value. -/
def letClause (name value : String) : String := "LET " ++ name ++ " = " ++ value

/-- A condition on rows. -/
def filterClause (condition : String) : String := "FILTER " ++ condition

/-- A group name with its expression. -/
def pairText (name value : String) : String := name ++ " = " ++ value

/-- `COLLECT` with its pairs and the name of the group; nothing when both are missing. -/
def collectClauses (pairs : List String) (into : Option String) : List String :=
  match pairs, into with
  | [], none => []
  | pairs, into =>
    ["COLLECT" ++ (if pairs.isEmpty then "" else " " ++ listed pairs)
      ++ (match into with | none => "" | some name => " INTO " ++ name)]

/-- One `SORT` with all keys; nothing when there are none. -/
def sortClauses (keys : List String) : List String :=
  if keys.isEmpty then [] else ["SORT " ++ listed keys]

/-- `LIMIT` with the offset in front of the count; nothing when there is no limit. -/
def limitClauses : Option Limit → List String
  | none => []
  | some ⟨count, none⟩ => ["LIMIT " ++ Nat.repr count]
  | some ⟨count, some offset⟩ => ["LIMIT " ++ Nat.repr offset ++ ", " ++ Nat.repr count]

/-- What is returned of each row. -/
def returnClause (value : String) : String := "RETURN " ++ value

/-- The variable of a nested query: the default one takes the position, so that it differs from
the variable of the query around it. -/
def nestedVariable (position : Nat) (name : String) : String :=
  if name = defaultVariable then defaultVariable ++ Nat.repr position else name

/-- A variable as a value in some place. -/
def Var.render (v : Var) : Place → String
  | .field | .member => if v.inverted then quotedText v.name else v.name
  | .source | .clause => v.name

/-- Puts the parts of a query together. Of the parts that fail the first one in this order gives
the error: source, nested queries, `LET`, `COLLECT`, `RETURN`. -/
def assemble (rowVar : String) (filters sortKeys : List String) (limit : Option Limit)
    (source : Except QueryError String) (nested lets groupings : Except QueryError (List String))
    (value : Except QueryError String) : Except QueryError String := do
  let source ← source
  let nested ← nested
  let lets ← lets
  let groupings ← groupings
  let value ← value
  return " ".intercalate (forClause rowVar source :: nested ++ lets ++ filters.map filterClause
    ++ groupings ++ sortClauses sortKeys ++ limitClauses limit ++ [returnClause value])

/-! ## Expressions and queries -/

mutual

/-- The text of an expression in some place. -/
def Expr.render (place : Place) : Expr → Except QueryError String
  | .raw text => .ok (if place = .member then quotedText text else text)
  | .var v => .ok (v.render place)
  | .call function args => do
    let texts ← Expr.renderAll .clause args
    return function ++ "(" ++ listed texts ++ ")"
  | .subquery q => do
    let text ← q.text
    return if place = .source then text else "(" ++ text ++ ")"
  | .object members => do
    let texts ← Expr.renderEntries .member members
    return braced texts
  | .list items =>
    if place = .member then do
      let texts ← Expr.renderAll .member items
      return "[" ++ listed texts ++ "]"
    else do
      let texts ← Expr.renderAll .clause items
      return listed texts

/-- The texts of expressions that all stand in one kind of place. -/
def Expr.renderAll (place : Place) : List Expr → Except QueryError (List String)
  | [] => .ok []
  | e :: rest => do
    let text ← e.render place
    let texts ← Expr.renderAll place rest
    return text :: texts

/-- The entries of an object literal or a mapping. -/
def Expr.renderEntries (place : Place) :
    List (String × Expr) → Except QueryError (List String)
  | [] => .ok []
  | (key, e) :: rest => do
    let text ← e.render place
    let texts ← Expr.renderEntries place rest
    return entryText key text :: texts

/-- The `LET` clauses. -/
def Query.renderLets : List (String × Expr) → Except QueryError (List String)
  | [] => .ok []
  | (name, e) :: rest => do
    let text ← e.render .clause
    let texts ← Query.renderLets rest
    return letClause name text :: texts

/-- The pairs of a `COLLECT` clause, the name before the expression. -/
def Grouping.renderPairs : List (Expr × Expr) → Except QueryError (List String)
  | [] => .ok []
  | (name, e) :: rest => do
    let left ← name.render .clause
    let right ← e.render .clause
    let texts ← Grouping.renderPairs rest
    return pairText left right :: texts

/-- The `COLLECT` clauses. -/
def Grouping.renderAll : List Grouping → Except QueryError (List String)
  | [] => .ok []
  | ⟨pairs, into⟩ :: rest => do
    let texts ← Grouping.renderPairs pairs
    let clauses ← Grouping.renderAll rest
    return collectClauses texts into ++ clauses

/-- What stands behind `RETURN`. -/
def Yield.render (rowVar : String) : Yield → Except QueryError String
  | .rowVar => .ok rowVar
  | .single value => value.render .clause
  | .mapping fields => do
    let texts ← Expr.renderEntries .field fields
    return braced texts

/-- What stands behind `IN`: the source, else the collection. -/
def Query.renderSource (collection : Option String) : Option Expr → Except QueryError String
  | some source => source.render .source
  | none =>
    match collection with
    | some name => .ok name
    | none => .error .missingSource

/-- The `FOR` of a nested query: its variable and its source, and nothing else of it. -/
def Query.nestedText (position : Nat) : Query → Except QueryError String
  | ⟨rowVar, collection, source, _, _, _, _, _, _, _, _, _, _, _, _⟩ => do
    let text ← Query.renderSource collection source
    return forClause (nestedVariable position rowVar) text

/-- The `FOR` clauses of nested queries, counted from a position on. -/
def Query.renderNested (position : Nat) : List Expr → Except QueryError (List String)
  | [] => .ok []
  | e :: rest =>
    match e with
    | .subquery q => do
      let text ← q.nestedText position
      let texts ← Query.renderNested (position + 1) rest
      return text :: texts
    | _ => .error (.nestedNotQuery position)

/-- The text of a query where it is used, without freezing it. -/
def Query.text : Query → Except QueryError String
  | ⟨rowVar, collection, source, nested, lets, filters, groupings, sortKeys, limit, yield,
      _, _, _, frozen, snapshot⟩ =>
    match snapshot, frozen with
    | some text, true => .ok text
    | _, _ => assemble rowVar filters sortKeys limit (Query.renderSource collection source)
        (Query.renderNested 1 nested) (Query.renderLets lets) (Grouping.renderAll groupings)
        (yield.render rowVar)

end

namespace Query

/-- The text of the clauses as they are now. -/
def compose (q : Query) : Except QueryError String :=
  assemble q.rowVar q.filters q.sortKeys q.limit (renderSource q.collection q.source)
    (renderNested 1 q.nested) (renderLets q.lets) (Grouping.renderAll q.groupings)
    (q.yield.render q.rowVar)

/-- The frozen text, if there is one. -/
def frozenText? (q : Query) : Option String :=
  if q.frozen then q.snapshot else none

theorem text_eq (q : Query) :
    q.text = match q.frozenText? with
      | some text => .ok text
      | none => q.compose := by
  obtain ⟨_, _, _, _, _, _, _, _, _, _, _, _, _, frozen, snapshot⟩ := q
  cases frozen <;> cases snapshot <;> rfl

theorem nestedText_eq (q : Query) (position : Nat) :
    q.nestedText position =
      forClause (nestedVariable position q.rowVar) <$> renderSource q.collection q.source := by
  obtain ⟨rowVar, collection, source, _, _, _, _, _, _, _, _, _, _, _, _⟩ := q
  rw [nestedText]
  cases renderSource collection source <;> rfl

/-- Keeps a text, if the query keeps texts at all. -/
def freeze (text : String) (q : Query) : Query :=
  if q.cacheEnabled then { q with snapshot := some text, frozen := true } else q

/-- The text of the clauses as they are now, and the query afterwards, which keeps it. -/
def renderAnew (q : Query) : Except QueryError String × Query :=
  match q.compose with
  | .ok text => (.ok text, q.freeze text)
  | .error e => (.error e, q)

/-- The text of a query, and the query afterwards: the first success freezes it. -/
def render (q : Query) : Except QueryError String × Query :=
  if q.frozen then
    match q.snapshot with
    | some text => (.ok text, q)
    | none => q.renderAnew
  else q.renderAnew

end Query

end Pagewise
