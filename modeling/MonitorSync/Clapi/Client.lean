import MonitorSync.Clapi.Session
set_option autoImplicit false

/-!
# Calls as commands

## Main definitions

* `Session.getService`, `Session.getGroup` — what the platform holds under a name
* `Session.call` — a call to the platform
-/

namespace MonitorSync

namespace Session

/-- What the platform holds under a host and name. The first row that is exactly of these is taken,
and the rest is asked for by further commands. -/
def getService (c : ClapiConnection) (host name : String) : Session (Option RemoteService) := do
  let rows ← run c (.onService "show" [name])
  match rows.find? (isServiceRow host name) with
  | none => return none
  | some row =>
    let service := serviceOfRow row
    let params ← run c (.onService "getparam" [host, name, "template|comment"])
    let service := match params.head? with
      | some p =>
        { service with template := rowField p "template", comment := rowField p "comment" }
      | none => service
    let groups ← run c (.onService "getservicegroup" [host, name])
    let categories ← run c (.onService "getcategory" [host, name])
    let macros ← run c (.onService "getmacro" [host, name])
    return some { service with
      groups := rowNames groups
      categories := rowNames categories
      macros := macros.map macroOfRow }

/-- The group that the platform holds under a name. -/
def getGroup (c : ClapiConnection) (name : String) : Session (Option RemoteGroup) := do
  let rows ← run c (.onGroup "show" [name])
  match rows.find? fun row => rowField row "name" = name with
  | none => return none
  | some row =>
    let group := groupOfRow row
    let params ← run c (.onGroup "getparam" [name, "activate|comment"])
    return some (match params.head? with
      | some p => { group with activated := rowField p "activate", comment := rowField p "comment" }
      | none => group)

/-- Sends the command of a call that changes something. -/
def mutate (c : ClapiConnection) (call : RemoteCall) : Session Unit := do
  if let some command := call.mutation? then
    let _ ← run c command

/-- A call to the platform. -/
def call (c : ClapiConnection) : (r : RemoteCall) → Session r.Reply
  | .getService host name => getService c host name
  | .getGroup name => getGroup c name
  | .addService host name template => mutate c (.addService host name template)
  | .setServiceParam host name param value => mutate c (.setServiceParam host name param value)
  | .setServiceGroups host name groups => mutate c (.setServiceGroups host name groups)
  | .deleteServiceGroups host name groups => mutate c (.deleteServiceGroups host name groups)
  | .setServiceCategories host name names => mutate c (.setServiceCategories host name names)
  | .deleteServiceCategories host name names =>
    mutate c (.deleteServiceCategories host name names)
  | .setServiceMacro host name m => mutate c (.setServiceMacro host name m)
  | .deleteServiceMacro host name macroName => mutate c (.deleteServiceMacro host name macroName)
  | .setServiceHost host name newHost => mutate c (.setServiceHost host name newHost)
  | .deleteService host name => mutate c (.deleteService host name)
  | .addGroup name description => mutate c (.addGroup name description)
  | .setGroupParam name param value => mutate c (.setGroupParam name param value)
  | .deleteGroup name => mutate c (.deleteGroup name)

end Session

end MonitorSync
