import MonitorSync.Datum.Basic
import MonitorSync.Remote.Call
set_option autoImplicit false

/-!
# The written form of what is on the platform

Services, groups and macros are written with all their fields, and a field that is not given is
read as empty. A call is written as its method and its arguments.

## Main definitions

* `ServiceMacro.toJson`, `ServiceMacro.ofDatum?` — the written form of a macro, and reading it
* `RemoteService.toJson`, `RemoteService.ofDatum?` — that of a service
* `RemoteGroup.toJson`, `RemoteGroup.ofDatum?` — that of a group
* `RemoteCall.toJson` — the written form of a call
-/

namespace MonitorSync

namespace ServiceMacro

/-- The written form. -/
def toJson (m : ServiceMacro) : Json := .ofEntries
  [("name", .str m.name), ("value", .str m.value), ("is_password", .str m.passwordFlag),
    ("source", .str m.source)]

/-- Reads a macro. Every field has a default. -/
def ofDatum? (d : Datum) : Option ServiceMacro := do
  let f ← Datum.Fields.ofDatum? ["name", "value", "is_password", "source"] d
  let text (key : String) := f.defaulted key Datum.text? ""
  return {
    name := ← text "name"
    value := ← text "value"
    passwordFlag := ← text "is_password"
    source := ← text "source" }

end ServiceMacro

namespace RemoteService

/-- The written form. -/
def toJson (s : RemoteService) : Json := .ofEntries
  [("host", .str s.host), ("name", .str s.name), ("check_command", .str s.checkCommand),
    ("check_command_args", .str s.checkArguments),
    ("normal_check_interval", .str s.normalInterval),
    ("retry_check_interval", .str s.retryInterval), ("max_check_attempts", .str s.maxAttempts),
    ("active_check_enabled", .str s.activeChecks),
    ("passive_check_enabled", .str s.passiveChecks), ("activated", .str s.activated),
    ("template", .str s.template), ("comment", .str s.comment), ("groups", .texts s.groups),
    ("categories", .texts s.categories), ("macros", .arr (s.macros.map ServiceMacro.toJson))]

/-- The keys of the fields, in the order of a service that is written as a list. -/
def keys : List String :=
  ["host", "name", "check_command", "check_command_args", "normal_check_interval",
    "retry_check_interval", "max_check_attempts", "active_check_enabled",
    "passive_check_enabled", "activated", "template", "comment", "groups", "categories", "macros"]

/-- Reads a service. Every field has a default. -/
def ofDatum? (d : Datum) : Option RemoteService := do
  let f ← Datum.Fields.ofDatum? keys d
  let text (key : String) := f.defaulted key Datum.text? ""
  return {
    host := ← text "host"
    name := ← text "name"
    checkCommand := ← text "check_command"
    checkArguments := ← text "check_command_args"
    normalInterval := ← text "normal_check_interval"
    retryInterval := ← text "retry_check_interval"
    maxAttempts := ← text "max_check_attempts"
    activeChecks := ← text "active_check_enabled"
    passiveChecks := ← text "passive_check_enabled"
    activated := ← text "activated"
    template := ← text "template"
    comment := ← text "comment"
    groups := ← f.defaulted "groups" (Datum.list? Datum.text?) []
    categories := ← f.defaulted "categories" (Datum.list? Datum.text?) []
    macros := ← f.defaulted "macros" (Datum.list? ServiceMacro.ofDatum?) [] }

end RemoteService

namespace RemoteGroup

/-- The written form. -/
def toJson (g : RemoteGroup) : Json := .ofEntries
  [("name", .str g.name), ("activated", .str g.activated), ("comment", .str g.comment),
    ("description", .str g.description)]

/-- Reads a group. Every field has a default. -/
def ofDatum? (d : Datum) : Option RemoteGroup := do
  let f ← Datum.Fields.ofDatum? ["name", "activated", "comment", "description"] d
  let text (key : String) := f.defaulted key Datum.text? ""
  return {
    name := ← text "name"
    activated := ← text "activated"
    comment := ← text "comment"
    description := ← text "description" }

end RemoteGroup

namespace RemoteCall

/-- The arguments of a call, the address first. -/
def arguments : RemoteCall → List Json
  | getService host name => [.str host, .str name]
  | addService host name template => [.str host, .str name, .str template]
  | setServiceParam host name param value => [.str host, .str name, .str param, .str value]
  | setServiceGroups host name groups => [.str host, .str name, .texts groups]
  | deleteServiceGroups host name groups => [.str host, .str name, .texts groups]
  | setServiceCategories host name categories => [.str host, .str name, .texts categories]
  | deleteServiceCategories host name categories => [.str host, .str name, .texts categories]
  | setServiceMacro host name m => [.str host, .str name, m.toJson]
  | deleteServiceMacro host name macroName => [.str host, .str name, .str macroName]
  | setServiceHost host name newHost => [.str host, .str name, .str newHost]
  | deleteService host name => [.str host, .str name]
  | getGroup name => [.str name]
  | addGroup name description => [.str name, .str description]
  | setGroupParam name param value => [.str name, .str param, .str value]
  | deleteGroup name => [.str name]

/-- The written form: the method, and then the arguments. -/
def toJson (c : RemoteCall) : Json := .arr (.str c.method :: c.arguments)

/-- The written form of what a call gives; a service or group that is not there is null, and so is
the reply to a change. -/
def replyToJson : (c : RemoteCall) → c.Reply → Json
  | getService _ _, s => s.elim .null RemoteService.toJson
  | getGroup _, g => g.elim .null RemoteGroup.toJson
  | _, _ => .null

end RemoteCall

end MonitorSync
