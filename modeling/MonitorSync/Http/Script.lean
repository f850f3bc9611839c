import MonitorSync.Http.Exchange
set_option autoImplicit false

/-!
# A server that answers from a script

## Main definitions

* `HttpScript` — the responses that are left, and the requests that came
* `HttpScript.answer` — the reply to a request, and the server after it
-/

namespace MonitorSync

/-- Responses of these codes have no text. -/
def HttpStatus.isBare (s : HttpStatus) : Bool := s.code = 204 || s.code = 304

/-- A server that hands out responses one after the other. -/
structure HttpScript where
  /-- The only authority at which the server is found. -/
  authority : String
  /-- Whether the server never answers. -/
  hangs : Bool
  responses : List (HttpStatus × String)
  /-- The requests that were answered, newest first. -/
  requests : List HttpRequest := []

namespace HttpScript

/-- The response when none is left. -/
def exhausted : HttpReply := .response ⟨500⟩ "script exhausted"

/-- The reply to a request, and the server after it. -/
def answer (r : HttpRequest) (s : HttpScript) : HttpReply × HttpScript :=
  if r.address.authority ≠ s.authority then (.broken "no such server", s)
  else if s.hangs then (.timedOut, s)
  else
    let next := { s with responses := s.responses.drop 1, requests := r :: s.requests }
    match s.responses.head? with
    | some (status, text) => (.response status (if status.isBare then "" else text), next)
    | none => (exhausted, next)

end HttpScript

end MonitorSync
