import Pagewise.Query.Error
import Pagewise.Exchange.Request

/-!
# What can go wrong with a result

Every failure of a query or of its cursor, by its cause. `Error.message` is the text for people.
-/

namespace Pagewise

/-- Why a response of the server is of no use. -/
inductive Unusable where
  /-- It was asked for the number of rows and gave none. -/
  | noCount
  /-- It announced more rows of a cursor that it never named. -/
  | noId
  /-- A decoder refuses a row. -/
  | row (reason : String)
deriving DecidableEq, Repr

/-- The text for people. -/
def Unusable.message : Unusable → String
  | .noCount => "server did not report a result count"
  | .noId => "server reported more results without a cursor id"
  | .row reason => reason

/-- Why a query, or an operation of a cursor, has no result. -/
inductive Error where
  /-- The query has no text. -/
  | build (error : QueryError)
  /-- The server refused a request. -/
  | refused (message : String) (code : Int) (status : Nat)
  | transport (error : TransportError)
  /-- A text or a row does not have the form it should have. -/
  | json
  | invalidResponse (reason : Unusable)
  /-- The cursor failed before. -/
  | cursorFailed
deriving DecidableEq, Repr

namespace Error

/-- The text for people. -/
def message : Error → String
  | .build e => e.message
  | .refused message code status =>
    "AQL query failed (" ++ (if code < 0 then "-" else "") ++ Nat.repr code.natAbs ++ ", HTTP "
      ++ Nat.repr status ++ "): " ++ message
  | .transport e => e.message
  | .json => "JSON error: the text does not have the expected form"
  | .invalidResponse reason => "Invalid cursor response: " ++ reason.message
  | .cursorFailed => "Cursor failed earlier and cannot be resumed"

/-- The number that the server gave to an error. -/
def code? : Error → Option Int
  | .refused _ code _ => some code
  | _ => none

end Error

end Pagewise
