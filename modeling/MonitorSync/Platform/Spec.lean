import MonitorSync.Condition.Notation
import MonitorSync.Failure
import MonitorSync.Kube.Object
import MonitorSync.Platform.Settings
set_option autoImplicit false

/-!
# Platforms as they stand in the cluster

## Main definitions

* `PlatformSpec` — what a user asks for
* `Platform` — a platform as it stands in the cluster
* `Platform.registryName` — the name under which services refer to it
* `Platform.settings` — how to reach it
* `Platform.statusOnSuccess`, `Platform.statusOnFailure` — the status after a pass
-/

namespace MonitorSync

/-- How to reach a platform, and where its credentials are. -/
structure PlatformConnection where
  url : String
  selfSigned : Bool := false
  /-- The secret with the credentials, in the namespace of the platform. -/
  secret : String
  endpoint : Option String := none
deriving DecidableEq, Repr, Inhabited

/-- What a user asks for. -/
structure PlatformSpec where
  /-- Whether services that name no platform use this one. -/
  isDefault : Bool := false
  name : Option String := none
  connection : Option PlatformConnection := none
deriving DecidableEq, Repr, Inhabited

/-- What is known of the last registrations. -/
structure PlatformStatus where
  conditions : List Condition := []
deriving DecidableEq, Repr, Inhabited

/-- A platform as it stands in the cluster. -/
abbrev Platform := Resource PlatformSpec PlatformStatus

/-- The only type of platforms. -/
def platformType : String := "centreon"

/-- Reads how to reach a platform. -/
def PlatformConnection.ofDatum? (d : Datum) : Option PlatformConnection := do
  let f ← Datum.Fields.ofDatum? ["url", "selfSignedCertificate", "secret", "endpoint"] d
  return {
    url := ← f.required "url" Datum.text?
    selfSigned := ← f.defaulted "selfSignedCertificate" Datum.flag? false
    secret := ← f.required "secret" Datum.text?
    endpoint := ← f.nullable "endpoint" Datum.text? }

/-- The written form. -/
def PlatformConnection.toJson (c : PlatformConnection) : Json := .ofEntries
  [("url", .str c.url), ("selfSignedCertificate", .bool c.selfSigned), ("secret", .str c.secret),
    ("endpoint", .text? c.endpoint)]

namespace PlatformSpec

/-- The written form. -/
def toJson (s : PlatformSpec) : Json := .ofEntries
  [("isDefault", .bool s.isDefault), ("name", .text? s.name), ("platformType", .str platformType),
    ("centreonSettings", s.connection.elim .null PlatformConnection.toJson)]

/-- Reads the type of a platform. -/
def readType? (d : Datum) : Option Unit := do
  if (← d.word?) = platformType then some () else none

/-- Reads a specification. -/
def ofDatum? (d : Datum) : Option PlatformSpec := do
  let f ← Datum.Fields.ofDatum? ["isDefault", "name", "platformType", "centreonSettings"] d
  let isDefault ← f.defaulted "isDefault" Datum.flag? false
  let name ← f.nullable "name" Datum.text?
  f.defaulted "platformType" readType? ()
  let connection ← f.nullable "centreonSettings" PlatformConnection.ofDatum?
  return { isDefault := isDefault, name := name, connection := connection }

end PlatformSpec

namespace PlatformStatus

/-- The written form. -/
def toJson (s : PlatformStatus) : Json := .ofEntries
  [("conditions", Condition.listToJson s.conditions)]

/-- Reads a status. -/
def ofDatum? (d : Datum) : Option PlatformStatus := do
  let f ← Datum.Fields.ofDatum? ["conditions"] d
  return { conditions := ← f.required "conditions" (Datum.list? Condition.ofDatum?) }

end PlatformStatus

namespace Platform

/-- The type of a platform. -/
def type : ObjectType := ⟨monitorApiVersion, "Platform"⟩

/-- Reads a platform. -/
def ofDatum? (d : Datum) : Option Platform :=
  Resource.ofDatum? PlatformSpec.ofDatum? PlatformStatus.ofDatum? d

/-- The name under which services refer to a platform. -/
def registryName (p : Platform) : String := p.spec.name.getD p.metadata.anyName

/-- How to reach a platform, which must be given. -/
def connection (p : Platform) : Except Failure PlatformConnection :=
  match p.spec.connection with
  | some c => .ok c
  | none => .error (.other ("Platform " ++ p.metadata.anyName ++ " has no centreonSettings"))

/-- How to reach a platform with the given timeout. -/
def settings (p : Platform) (timeoutSeconds : Nat) : Except Failure ConnectionSettings := do
  let c ← p.connection
  return {
    url := c.url
    selfSigned := c.selfSigned
    timeoutSeconds := timeoutSeconds
    endpoint := c.endpoint }

/-- The conditions so far. -/
def conditions (p : Platform) : List Condition := p.status.elim [] (·.conditions)

/-- The status after a pass that succeeded. -/
def statusOnSuccess (p : Platform) (now : Instant) (message : String) : PlatformStatus :=
  ⟨conditionsOnSuccess p.conditions now p.metadata.generationOrZero message⟩

/-- The status after a pass that failed. -/
def statusOnFailure (p : Platform) (now : Instant) (reason : String) : PlatformStatus :=
  ⟨conditionsOnFailure p.conditions now p.metadata.generationOrZero reason⟩

end Platform

end MonitorSync
