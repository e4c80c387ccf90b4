import Pagewise.Json.Record
import Pagewise.Json.Printer
import Pagewise.Exchange.Request

/-!
# The bodies of cursor requests and responses

A cursor is created with the text of a query, and the server answers with pages: some of the rows,
and where to ask for more. A request that it refuses is answered with a refusal.
-/

namespace Pagewise

/-- A page of a result. -/
structure Page where
  /-- The name of the cursor on the server, if it keeps one. -/
  id : Option String
  /-- Whether the server holds more rows. -/
  hasMore : Bool
  /-- The number of rows of the whole result, if it was counted. -/
  count : Option Nat
  /-- The rows of this page. -/
  rows : List Json

namespace Page

/-- The fields of a page, in their order. -/
def fieldNames : List String := ["id", "hasMore", "count", "result"]

/-- The rows of a page. The page and the list of its rows are two of the arrays and objects that may
be open at once. -/
def rows? : Json.Node → Option (List Json)
  | .array items => Json.Node.itemValues? (Json.maxDepth - 2) items
  | _ => none

/-- A page from JSON text. A missing field is no id, no more rows, no count or no rows. -/
def ofText? (text : String) : Option Page := do
  let node ← Json.Node.ofText? text
  let fields ← node.fields? fieldNames
  let id ← Json.Node.field? fields "id" none (Json.Node.nullable? Json.Node.string?)
  let hasMore ← Json.Node.field? fields "hasMore" false Json.Node.bool?
  let count ← Json.Node.field? fields "count" none
    (Json.Node.nullable? (Json.Node.intWithin? 0 (maxUnsigned 64)))
  let rows ← Json.Node.field? fields "result" [] rows?
  return ⟨id, hasMore, count.map Int.toNat, rows⟩

end Page

/-- What a server says about a request that it refuses. -/
structure Refusal where
  message : Option String
  number : Option Int
deriving DecidableEq, Repr

namespace Refusal

/-- The fields of a refusal, in their order. -/
def fieldNames : List String := ["errorMessage", "errorNum"]

/-- A refusal from JSON text. -/
def ofText? (text : String) : Option Refusal := do
  let node ← Json.Node.ofText? text
  let fields ← node.fields? fieldNames
  let message ← Json.Node.field? fields "errorMessage" none
    (Json.Node.nullable? Json.Node.string?)
  let number ← Json.Node.field? fields "errorNum" none
    (Json.Node.nullable? (Json.Node.intWithin? (minSigned 64) (maxSigned 64)))
  return ⟨message, number⟩

/-- A refusal from any text; one that is not written as a refusal says nothing. -/
def ofText (text : String) : Refusal :=
  (ofText? text).getD ⟨none, none⟩

end Refusal

/-- The body that creates a cursor. -/
structure Creation where
  query : String
  count : Bool
  batchSize : Option Nat
  /-- The values of the bind variables, in the order of their names. -/
  binds : List (String × Json)

namespace Creation

/-- The members of the body, in the order of the text. -/
def toJson (c : Creation) : Json :=
  .object [("query", .string c.query), ("count", .bool c.count),
    ("batchSize", match c.batchSize with
      | none => .null
      | some n => .number (.int n)),
    ("bindVars", .object c.binds)]

/-- The text of the body. -/
def print (c : Creation) : String :=
  c.toJson.print

end Creation

end Pagewise
