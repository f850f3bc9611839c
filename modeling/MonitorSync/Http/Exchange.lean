import MonitorSync.Http.Address
import MonitorSync.Http.Status
import MonitorSync.Json.Basic
set_option autoImplicit false

/-!
# Requests and their replies

## Main definitions

* `HttpRequest` — a request that sends a form or a value
* `HttpReply` — a response, or the reason why there is none
* `isHeaderValue` — whether a text may be sent in a header
-/

namespace MonitorSync

/-- What a request sends. -/
inductive HttpBody where
  | form (values : List (String × String))
  | json (value : Json)

/-- A request. -/
structure HttpRequest where
  address : Address
  /-- Named values that are added to the query. -/
  query : List (String × String)
  /-- The token in the header for it. -/
  token : Option String
  body : HttpBody

/-- What comes of a request. -/
inductive HttpReply where
  | response (status : HttpStatus) (text : String)
  | timedOut
  /-- No connection, or a broken one. -/
  | broken (reason : String)
deriving DecidableEq, Repr

/-- Whether a text may be sent in a header: tabs are its only control characters, and it may have
characters beyond ASCII. -/
def isHeaderValue (s : String) : Bool :=
  s.toList.all fun c => c = '\t' || (0x20 ≤ c.toNat && c.toNat ≠ 0x7F)

end MonitorSync
