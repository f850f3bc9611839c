import MonitorSync.Service.Spec
set_option autoImplicit false

/-!
# The specification of a service group

## Main definitions

* `GroupSpec` — what a user asks for
* `GroupSpec.validationError?` — why a specification cannot be used
* `GroupSpec.toRemote` — the group as the platform should hold it
* `GroupSpec.toJson`, `GroupSpec.ofDatum?` — the written form, and reading it
-/

namespace MonitorSync

/-- What a user asks for. -/
structure GroupSpec where
  /-- The platform to use, the default one when there is none. -/
  platformRef : Option String := none
  name : String := ""
  description : String := ""
  activate : Bool := false
  policy : Policy := .permissive
deriving DecidableEq, Inhabited

namespace GroupSpec

/-- Why a specification cannot be used, if so: a group needs a name and a description. -/
def validationError? (s : GroupSpec) : Option String :=
  if s.name.isEmpty then some "name must be set"
  else if s.description.isEmpty then some "description must be set"
  else none

/-- Whether a specification can be used. -/
def isValid (s : GroupSpec) : Bool := s.validationError?.isNone

/-- The group as the platform should hold it. -/
def toRemote (s : GroupSpec) : RemoteGroup where
  name := s.name
  activated := flagText s.activate
  comment := managedComment
  description := s.description

/-- The written form; an absent platform is left out. -/
def toJson (s : GroupSpec) : Json := .ofEntries <|
  Json.entry? "platformRef" (s.platformRef.map .str) ++
  [("name", .str s.name), ("description", .str s.description), ("activate", .bool s.activate),
    ("policy", s.policy.toJson)]

/-- The fields in their order. -/
def fieldNames : List String := ["platformRef", "name", "description", "activate", "policy"]

/-- Reads a specification. Every field has a default. -/
def ofDatum? (d : Datum) : Option GroupSpec := do
  let f ← Datum.Fields.ofDatum? fieldNames d
  return {
    platformRef := ← f.optional "platformRef" Datum.text?
    name := ← f.defaulted "name" Datum.text? ""
    description := ← f.defaulted "description" Datum.text? ""
    activate := ← f.defaulted "activate" Datum.flag? false
    policy := ← f.defaulted "policy" Policy.ofDatum? .permissive }

end GroupSpec

end MonitorSync
