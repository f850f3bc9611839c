import MonitorSync.Datum.Basic
import MonitorSync.Domain
import MonitorSync.Policy
import MonitorSync.Policy.Notation
import MonitorSync.Remote.Service
import MonitorSync.Text.LetterCase
set_option autoImplicit false

/-!
# The specification of a service

## Main definitions

* `ServiceSpec` — what a user asks for
* `ServiceSpec.validationError?` — why a specification cannot be used
* `ServiceSpec.toRemote` — the service as the platform should hold it
* `ServiceSpec.toJson`, `ServiceSpec.ofDatum?` — the written form, and reading it
-/

namespace MonitorSync

/-- What a user asks for. -/
structure ServiceSpec where
  /-- The platform to use, the default one when there is none. -/
  platformRef : Option String := none
  host : String := ""
  name : String := ""
  template : String := ""
  checkCommand : String := ""
  arguments : List String := []
  groups : List String := []
  categories : List String := []
  normalInterval : Option String := none
  retryInterval : Option String := none
  maxAttempts : Option String := none
  /-- Active checks, as the platform has it when not given. -/
  activeChecks : Option Bool := none
  /-- Passive checks, as the platform has it when not given. -/
  passiveChecks : Option Bool := none
  activate : Bool := false
  macros : KeyMap String := .empty
  policy : Policy := .permissive
deriving DecidableEq, Inhabited

/-- The platform's form of a flag. -/
def flagText (b : Bool) : String := if b then "1" else "0"

/-- The platform's form of a flag that may be left to the platform. -/
def optionalFlagText (b : Option Bool) : String := b.elim "2" flagText

namespace ServiceSpec

/-- Why a specification cannot be used, if so: it must name a host and a service, and say what to
run. -/
def validationError? (s : ServiceSpec) : Option String :=
  if s.host.isEmpty then some "host must be set"
  else if s.name.isEmpty then some "name must be set"
  else if s.checkCommand.isEmpty && s.template.isEmpty then
    some "either checkCommand or template must be set"
  else none

/-- Whether a specification can be used. -/
def isValid (s : ServiceSpec) : Bool :=
  !s.host.isEmpty && !s.name.isEmpty && (!s.checkCommand.isEmpty || !s.template.isEmpty)

/-- The arguments of the check command, each after an exclamation mark. -/
def argumentText (arguments : List String) : String :=
  String.join (arguments.map fun a => "!" ++ a)

/-- The service as the platform should hold it. -/
def toRemote (s : ServiceSpec) : RemoteService where
  host := s.host
  name := s.name
  checkCommand := s.checkCommand
  checkArguments := argumentText s.arguments
  normalInterval := s.normalInterval.getD ""
  retryInterval := s.retryInterval.getD ""
  maxAttempts := s.maxAttempts.getD ""
  activeChecks := optionalFlagText s.activeChecks
  passiveChecks := optionalFlagText s.passiveChecks
  activated := flagText s.activate
  template := s.template
  comment := managedComment
  groups := s.groups
  categories := s.categories
  macros := s.macros.toList.map fun m => ServiceMacro.direct (toUpperText m.1) m.2

/-- The written form. Absent options and empty texts, lists and maps are left out, but for host
and name. -/
def toJson (s : ServiceSpec) : Json := .ofEntries <|
  Json.entry? "platformRef" (s.platformRef.map .str) ++
  [("host", .str s.host), ("name", .str s.name)] ++
  Json.textEntry "template" s.template ++
  Json.textEntry "checkCommand" s.checkCommand ++
  Json.textsEntry "arguments" s.arguments ++
  Json.textsEntry "groups" s.groups ++
  Json.textsEntry "categories" s.categories ++
  Json.entry? "normalCheckInterval" (s.normalInterval.map .str) ++
  Json.entry? "retryCheckInterval" (s.retryInterval.map .str) ++
  Json.entry? "maxCheckAttempts" (s.maxAttempts.map .str) ++
  Json.entry? "activeCheckEnabled" (s.activeChecks.map .bool) ++
  Json.entry? "passiveCheckEnabled" (s.passiveChecks.map .bool) ++
  [("activate", .bool s.activate)] ++
  (if s.macros.isEmpty then [] else [("macros", .textMap s.macros)]) ++
  [("policy", s.policy.toJson)]

/-- The fields in their order. -/
def fieldNames : List String :=
  ["platformRef", "host", "name", "template", "checkCommand", "arguments", "groups", "categories",
    "normalCheckInterval", "retryCheckInterval", "maxCheckAttempts", "activeCheckEnabled",
    "passiveCheckEnabled", "activate", "macros", "policy"]

/-- Reads a specification. Every field has a default. -/
def ofDatum? (d : Datum) : Option ServiceSpec := do
  let f ← Datum.Fields.ofDatum? fieldNames d
  return {
    platformRef := ← f.optional "platformRef" Datum.text?
    host := ← f.defaulted "host" Datum.text? ""
    name := ← f.defaulted "name" Datum.text? ""
    template := ← f.defaulted "template" Datum.text? ""
    checkCommand := ← f.defaulted "checkCommand" Datum.text? ""
    arguments := ← f.defaulted "arguments" (Datum.list? Datum.text?) []
    groups := ← f.defaulted "groups" (Datum.list? Datum.text?) []
    categories := ← f.defaulted "categories" (Datum.list? Datum.text?) []
    normalInterval := ← f.optional "normalCheckInterval" Datum.text?
    retryInterval := ← f.optional "retryCheckInterval" Datum.text?
    maxAttempts := ← f.optional "maxCheckAttempts" Datum.text?
    activeChecks := ← f.optional "activeCheckEnabled" Datum.flag?
    passiveChecks := ← f.optional "passiveCheckEnabled" Datum.flag?
    activate := ← f.defaulted "activate" Datum.flag? false
    macros := ← f.defaulted "macros" (Datum.map? Datum.text?) .empty
    policy := ← f.defaulted "policy" Policy.ofDatum? .permissive }

end ServiceSpec

end MonitorSync
