import MonitorSync.Clapi.Command
import MonitorSync.Clapi.Rows
import MonitorSync.Http.Exchange
import MonitorSync.Platform.Settings
set_option autoImplicit false

/-!
# Sessions

Commands are sent with a token, which is asked for by name and password when there is none or when
the platform no longer accepts it.

## Main definitions

* `ClapiConnection` — the platform that is talked to, and as whom
* `Session` — work that keeps a token between requests
* `Session.authenticate` — asks for a token
* `Session.run` — sends a command, once more with a new token if the first one is refused
-/

namespace MonitorSync

/-- The platform that is talked to, and as whom. -/
structure ClapiConnection where
  settings : ConnectionSettings
  credentials : Credentials
deriving DecidableEq, Repr, Inhabited

/-- Work that keeps a token between requests, and ends at the first failure. -/
abbrev Session (α : Type) :=
  ExceptT Failure (StateT (Option String) (Program HttpRequest fun _ => HttpReply)) α

namespace Session

/-- Sends a request. -/
def send (c : ClapiConnection) (request : HttpRequest) : Session (HttpStatus × String) := do
  let reply ← ExceptT.lift (StateT.lift (Program.call request))
  match reply with
  | .response status text => return (status, text)
  | .timedOut => throw (.timeout c.settings.baseUrl)
  | .broken reason => throw (.transport reason)

/-- Sends a request to the command interface. -/
def post (c : ClapiConnection) (query : List (String × String)) (token : Option String)
    (body : HttpBody) : Session (HttpStatus × String) := do
  let some address := Address.read? c.settings.commandUrl | throw (.transport "not an address")
  if !token.elim true isHeaderValue then throw (.transport "not a header value")
  send c ⟨address, query, token, body⟩

/-- Asks for a token. -/
def authenticate (c : ClapiConnection) : Session String := do
  let form := HttpBody.form
    [("username", c.credentials.username), ("password", c.credentials.password)]
  let (status, text) ← post c [("action", "authenticate")] none form
  if !status.isSuccess then throw (.authFailed (status.display ++ ": " ++ text))
  let some answer := Json.read? text | throw (.badJson "not a value")
  match answer.field "authToken" with
  | .str token => return token
  | _ => throw (.authFailed "no authToken in the response")

/-- Asks for a token and keeps it. -/
def renewToken (c : ClapiConnection) : Session String := do
  let token ← authenticate c
  set (some token)
  return token

/-- The token that is kept, or a new one. -/
def token (c : ClapiConnection) : Session String := do
  match ← getThe (Option String) with
  | some token => return token
  | none => renewToken c

/-- Sends a command with a token. -/
def postCommand (c : ClapiConnection) (token : String) (command : Command) :
    Session (HttpStatus × String) :=
  post c [("action", "action"), ("object", "centreon_clapi")] (some token) (.json command.toJson)

/-- Sends a command, once more with a new token if the first one is refused. -/
def exchange (c : ClapiConnection) (command : Command) : Session (HttpStatus × String) := do
  let first ← postCommand c (← token c) command
  if first.1 = .unauthorized then postCommand c (← renewToken c) command else return first

/-- The rows that a command gives. -/
def run (c : ClapiConnection) (command : Command) : Session (List Json) := do
  let (status, text) ← exchange c command
  if !status.isSuccess then throw (.methodFailed command.display status.code text)
  match resultRows? text with
  | some rows => return rows
  | none => throw (.badJson "not a value")

end Session

end MonitorSync
