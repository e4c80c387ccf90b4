import Pagewise.Cursor.Basic
import Pagewise.Text.Quoted

/-!
# Describing cursors

The state of a cursor in one line, for people.
-/

namespace Pagewise

/-- The name of a phase. -/
def Phase.name : Phase → String
  | .unstarted => "Unstarted"
  | .active => "Active"
  | .exhausted => "Exhausted"
  | .failed => "Failed"

/-- The query, where the cursor is, and what it knows; of the buffered rows their number. -/
def Cursor.describe (c : Cursor) : String :=
  Text.shownRecord "Cursor" [
    ("query", Text.quoted c.query),
    ("state", c.phase.name),
    ("cursor_id", Text.shownOption Text.quoted c.id),
    ("buffered", Nat.repr c.buffer.length),
    ("total", Text.shownOption Nat.repr c.total)]

end Pagewise
