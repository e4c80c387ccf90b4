/-!
# Requests and responses

What goes over HTTP: a request is a value that a transport carries, a response is a status and a
text. A transport can fail on its own, without a response.
-/

namespace Pagewise

/-- The methods that the database is asked with. -/
inductive Method where
  | get
  | post
  | put
  | delete
deriving DecidableEq, Repr

/-- The name of a method. -/
def Method.name : Method → String
  | .get => "GET"
  | .post => "POST"
  | .put => "PUT"
  | .delete => "DELETE"

/-- A request. -/
structure Request where
  method : Method
  url : String
  /-- JSON text, if the request has a body. -/
  body : Option String
  /-- Milliseconds in place of the usual limit. -/
  timeout : Option Nat
deriving DecidableEq, Repr

namespace Request

/-- A request without a body. -/
def plain (method : Method) (url : String) : Request :=
  ⟨method, url, none, none⟩

/-- The same request with this body, or with none. -/
def withBody (body : Option String) (r : Request) : Request :=
  { r with body }

/-- The same request with its own limit of time. -/
def withTimeout (milliseconds : Nat) (r : Request) : Request :=
  { r with timeout := some milliseconds }

/-- A request with data where its method carries any: `GET` and `DELETE` do not. -/
def carrying (method : Method) (url : String) (data : Option String) : Request :=
  match method with
  | .get | .delete => plain method url
  | .post | .put => (plain method url).withBody data

end Request

/-- What a server answers. -/
structure Response where
  status : Nat
  text : String
deriving DecidableEq, Repr

/-- Whether a status tells of success. -/
def Response.isSuccess (r : Response) : Bool :=
  200 ≤ r.status && r.status < 300

/-- Why there is no response. -/
inductive TransportError where
  /-- The request was not sent. -/
  | request (reason : String)
  /-- The body of the response was not read. -/
  | body (reason : String)
  | timeout
deriving DecidableEq, Repr

/-- The text for people. -/
def TransportError.message : TransportError → String
  | .request reason => "HTTP request failed: " ++ reason
  | .body reason => "Failed to read body: " ++ reason
  | .timeout => "Request timed out"

end Pagewise
