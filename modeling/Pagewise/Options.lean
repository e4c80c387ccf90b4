/-!
# How a result is fetched

A query may say whether the server is to count its rows and how many rows come in a batch; a
connection says what holds where the query leaves it open.
-/

namespace Pagewise

/-- What a query asks of its cursor; what it leaves open is absent. -/
structure CursorOptions where
  /-- Whether the server is to report the number of rows. -/
  count : Option Bool
  /-- The number of rows in a batch. -/
  batchSize : Option Nat
deriving DecidableEq, Repr

/-- What holds for the cursors of a connection unless they say otherwise. -/
structure CursorDefaults where
  count : Bool
  /-- The number of rows in a batch; the server chooses when absent. -/
  batchSize : Option Nat
deriving DecidableEq, Repr

namespace CursorOptions

/-- Options that leave everything open. -/
def unset : CursorOptions := ⟨none, none⟩

/-- Options, completed by defaults. -/
def completedBy (d : CursorDefaults) (o : CursorOptions) : CursorDefaults :=
  ⟨o.count.getD d.count, o.batchSize.or d.batchSize⟩

end CursorOptions

end Pagewise
