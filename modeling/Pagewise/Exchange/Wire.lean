import Pagewise.Exchange.Request

/-!
# The wire

A transport as a value: the answers that will come, one for each request in the order of sending,
and the requests that were sent. When no answer is left a request fails. All that a cursor does is
a function of such a value, and every behaviour of a server over time is one.
-/

namespace Pagewise

/-- What comes back for a request. -/
abbrev Answer := Except TransportError Response

/-- A transport as it stands between two requests. -/
structure Wire where
  /-- The answers to come. -/
  answers : List Answer
  /-- The requests sent so far, the first one first. -/
  sent : List Request

namespace Wire

/-- A wire over which nothing was sent yet. -/
def ofAnswers (answers : List Answer) : Wire :=
  ⟨answers, []⟩

/-- How a request fails when no answer is left. -/
def unanswered : TransportError := .request "no scripted response"

/-- Sends a request and takes its answer. -/
def send (request : Request) (w : Wire) : Answer × Wire :=
  match w.answers with
  | [] => (.error unanswered, ⟨[], w.sent ++ [request]⟩)
  | answer :: rest => (answer, ⟨rest, w.sent ++ [request]⟩)

@[simp]
theorem sent_send (request : Request) (w : Wire) :
    (w.send request).2.sent = w.sent ++ [request] := by
  unfold send
  split <;> rfl

@[simp]
theorem answers_send (request : Request) (w : Wire) :
    (w.send request).2.answers = w.answers.tail := by
  unfold send
  split <;> simp_all

/-- A request that is answered takes an answer away. -/
theorem answers_length_lt_of_send {request : Request} {w : Wire} {r : Response}
    (h : (w.send request).1 = .ok r) :
    (w.send request).2.answers.length < w.answers.length := by
  unfold send at *
  split <;> simp_all

end Wire

end Pagewise
