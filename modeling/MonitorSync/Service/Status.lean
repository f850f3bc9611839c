import MonitorSync.Condition.Notation
import MonitorSync.Kube.Object
import MonitorSync.Service.Spec
set_option autoImplicit false

/-!
# The status of a service

A service may be renamed on the platform by an edit of its specification, so the status remembers
the host and name it was last synchronized under.

## Main definitions

* `ServiceStatus` — what is known of the last synchronizations
* `MonitoredService` — a service as it stands in the cluster
* `MonitoredService.identity` — the host and name under which the platform has the service
* `MonitoredService.statusOnSuccess`, `MonitoredService.statusOnFailure` — the status after a pass
-/

namespace MonitorSync

/-- What is known of the last synchronizations of a service. -/
structure ServiceStatus where
  /-- The host under which the platform has the service. -/
  host : Option String := none
  /-- The name under which the platform has the service. -/
  name : Option String := none
  conditions : List Condition := []
deriving DecidableEq, Repr, Inhabited

/-- The written form. -/
def ServiceStatus.toJson (s : ServiceStatus) : Json := .ofEntries
  [("host", .text? s.host), ("name", .text? s.name),
    ("conditions", Condition.listToJson s.conditions)]

/-- Reads a status. -/
def ServiceStatus.ofDatum? (d : Datum) : Option ServiceStatus := do
  let f ← Datum.Fields.ofDatum? ["host", "name", "conditions"] d
  return {
    host := ← f.nullable "host" Datum.text?
    name := ← f.nullable "name" Datum.text?
    conditions := ← f.defaulted "conditions" (Datum.list? Condition.ofDatum?) [] }

/-- A service as it stands in the cluster. -/
abbrev MonitoredService := Resource ServiceSpec ServiceStatus

namespace MonitoredService

/-- The type of a service. -/
def type : ObjectType := ⟨monitorApiVersion, "CentreonService"⟩

/-- Reads a service. -/
def ofDatum? (d : Datum) : Option MonitoredService :=
  Resource.ofDatum? ServiceSpec.ofDatum? ServiceStatus.ofDatum? d

/-- The written form. -/
def toJson (s : MonitoredService) : Json :=
  Resource.toJson ServiceSpec.toJson ServiceStatus.toJson type s

/-- The host and name under which the platform has the service: those of the last synchronization,
or the wanted ones if there was none. -/
def identity (s : MonitoredService) : String × String :=
  match s.status with
  | some ⟨some host, some name, _⟩ =>
    if !host.isEmpty && !name.isEmpty then (host, name) else (s.spec.host, s.spec.name)
  | _ => (s.spec.host, s.spec.name)

/-- The platform to use, empty for the default one. -/
def platformRef (s : MonitoredService) : String := s.spec.platformRef.getD ""

/-- The status after a pass that succeeded. The identity moves only if the platform was changed to
what is wanted. -/
def statusOnSuccess (s : MonitoredService) (now : Instant) (message : String) (applied : Bool) :
    ServiceStatus :=
  let previous := s.status.getD {}
  let conditions := conditionsOnSuccess previous.conditions now s.metadata.generationOrZero message
  if applied then ⟨some s.spec.host, some s.spec.name, conditions⟩
  else { previous with conditions := conditions }

/-- The status after a pass that failed. -/
def statusOnFailure (s : MonitoredService) (now : Instant) (reason : String) : ServiceStatus :=
  let previous := s.status.getD {}
  { previous with
    conditions :=
      conditionsOnFailure previous.conditions now s.metadata.generationOrZero reason }

end MonitoredService

end MonitorSync
