import MonitorSync.Condition.Notation
import MonitorSync.Group.Spec
import MonitorSync.Kube.Object
set_option autoImplicit false

/-!
# The status of a service group

## Main definitions

* `GroupStatus` — what is known of the last synchronizations
* `MonitoredGroup` — a group as it stands in the cluster
* `MonitoredGroup.remoteName` — the name under which the platform has the group
* `MonitoredGroup.statusOnSuccess`, `MonitoredGroup.statusOnFailure` — the status after a pass
-/

namespace MonitorSync

/-- What is known of the last synchronizations of a group. -/
structure GroupStatus where
  /-- The name under which the platform has the group. -/
  name : Option String := none
  conditions : List Condition := []
deriving DecidableEq, Repr, Inhabited

/-- The written form. -/
def GroupStatus.toJson (s : GroupStatus) : Json := .ofEntries
  [("name", .text? s.name), ("conditions", Condition.listToJson s.conditions)]

/-- Reads a status. -/
def GroupStatus.ofDatum? (d : Datum) : Option GroupStatus := do
  let f ← Datum.Fields.ofDatum? ["name", "conditions"] d
  return {
    name := ← f.nullable "name" Datum.text?
    conditions := ← f.defaulted "conditions" (Datum.list? Condition.ofDatum?) [] }

/-- A group as it stands in the cluster. -/
abbrev MonitoredGroup := Resource GroupSpec GroupStatus

namespace MonitoredGroup

/-- The type of a group. -/
def type : ObjectType := ⟨monitorApiVersion, "CentreonServiceGroup"⟩

/-- Reads a group. -/
def ofDatum? (d : Datum) : Option MonitoredGroup :=
  Resource.ofDatum? GroupSpec.ofDatum? GroupStatus.ofDatum? d

/-- The written form. -/
def toJson (g : MonitoredGroup) : Json :=
  Resource.toJson GroupSpec.toJson GroupStatus.toJson type g

/-- The name under which the platform has the group: that of the last synchronization, or the wanted
one if there was none. -/
def remoteName (g : MonitoredGroup) : String :=
  match g.status with
  | some ⟨some name, _⟩ => if name.isEmpty then g.spec.name else name
  | _ => g.spec.name

/-- The platform to use, empty for the default one. -/
def platformRef (g : MonitoredGroup) : String := g.spec.platformRef.getD ""

/-- The status after a pass that succeeded. The name moves only if the platform was changed to what
is wanted. -/
def statusOnSuccess (g : MonitoredGroup) (now : Instant) (message : String) (applied : Bool) :
    GroupStatus :=
  let previous := g.status.getD {}
  { name := if applied then some g.spec.name else previous.name
    conditions :=
      conditionsOnSuccess previous.conditions now g.metadata.generationOrZero message }

/-- The status after a pass that failed. -/
def statusOnFailure (g : MonitoredGroup) (now : Instant) (reason : String) : GroupStatus :=
  let previous := g.status.getD {}
  { previous with
    conditions :=
      conditionsOnFailure previous.conditions now g.metadata.generationOrZero reason }

end MonitoredGroup

end MonitorSync
