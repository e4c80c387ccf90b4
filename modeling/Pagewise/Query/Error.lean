/-!
# Mistakes in a query

Found while a query is built or rendered, before anything is sent.
-/

namespace Pagewise

/-- Why a query has no text. -/
inductive QueryError where
  /-- `COLLECT` was given names without expressions: the number of arguments is odd. -/
  | oddCollectArguments (count : Nat)
  /-- What stands at a position of the nested queries, counted from one, is no query. -/
  | nestedNotQuery (position : Nat)
  /-- There is neither a collection nor a source. -/
  | missingSource
deriving DecidableEq, Repr

/-- The text for people. -/
def QueryError.message : QueryError → String
  | .oddCollectArguments count =>
    "COLLECT expects name/expression pairs, got " ++ Nat.repr count ++ " arguments"
  | .nestedNotQuery position =>
    "Nested expression at position " ++ Nat.repr position ++ " is not a query"
  | .missingSource => "Query has no collection or source expression to iterate over"

end Pagewise
