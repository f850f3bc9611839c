import MonitorSync.Json.Parser
import MonitorSync.Remote.Service
import MonitorSync.Text.Blank
set_option autoImplicit false

/-!
# Rows of the platform's answers

## Main definitions

* `resultRows?` — the rows of an answer
* `rowField` — a field of a row as a text
* `serviceOfRow`, `macroOfRow`, `groupOfRow` — what a row describes
-/

namespace MonitorSync

/-- The rows of an answer. A command that changes something is answered by a text or not at all,
which gives no rows. -/
def resultRows? (text : String) : Option (List Json) :=
  if text.toList.all isBlank then some []
  else (Json.read? text).map fun v =>
    match v.field "result" with
    | .arr rows => rows
    | .obj entries => [.obj entries]
    | _ => []

/-- A field of a row as a text; empty if there is none. -/
def rowField (row : Json) (key : String) : String :=
  match row.field key with
  | .str s => s
  | .num n => n.toText
  | .bool b => if b then "1" else "0"
  | _ => ""

/-- The service that a row describes. -/
def serviceOfRow (row : Json) : RemoteService where
  host := rowField row "host name"
  name := rowField row "description"
  checkCommand := rowField row "check command"
  checkArguments := rowField row "check command arg"
  normalInterval := rowField row "normal check interval"
  retryInterval := rowField row "retry check interval"
  maxAttempts := rowField row "max check attempts"
  activeChecks := rowField row "active checks enabled"
  passiveChecks := rowField row "passive checks enabled"
  activated := rowField row "activate"

/-- Whether a row describes the service of a host and name. -/
def isServiceRow (host name : String) (row : Json) : Bool :=
  rowField row "host name" = host && rowField row "description" = name

/-- The name of a macro without the decoration of direct ones. -/
def bareMacroName (name : String) : String :=
  let start := "$_SERVICE".toList
  let cs := name.toList
  let inner := cs.drop start.length
  if start.isPrefixOf cs && inner.getLast? = some '$' then String.ofList inner.dropLast else name

/-- The macro that a row describes. -/
def macroOfRow (row : Json) : ServiceMacro where
  name := bareMacroName (rowField row "macro name")
  value := rowField row "macro value"
  passwordFlag := rowField row "is_password"
  source := rowField row "source"

/-- The group that a row describes. -/
def groupOfRow (row : Json) : RemoteGroup where
  name := rowField row "name"
  description := rowField row "alias"

/-- The names in rows, without empty ones. -/
def rowNames (rows : List Json) : List String :=
  (rows.map (rowField · "name")).filter fun n => !n.isEmpty

end MonitorSync
