import MonitorSync.Group.Status
import MonitorSync.Group.Sync
import MonitorSync.Operator.Finalizer
set_option autoImplicit false

/-!
# Passes over service groups

## Main definitions

* `MonitoredGroup.synchronize` — brings the platform in line with a group
* `MonitoredGroup.pass` — a pass over a group
-/

namespace MonitorSync

namespace MonitoredGroup

variable {Client : Type}

/-- The finalizer of groups. -/
def finalizer : String := "centreonservicegroups." ++ monitorGroup

/-- The word for groups on a platform. -/
def remoteKind : String := "Centreon service group"

/-- The group as the subject of an event. -/
def subject (g : MonitoredGroup) : ChangeEvent.Subject :=
  ⟨type.kind, g.metadata.nsOrEmpty ++ "/" ++ g.metadata.anyName⟩

/-- A group of the platform as the subject of an event. -/
def remoteSubject (name : String) : ChangeEvent.Subject := ⟨remoteKind, name⟩

/-- Refers to a group. -/
def reference (g : MonitoredGroup) : ObjectReference :=
  g.metadata.reference type.apiVersion type.kind

/-- Brings the platform in line with a group. -/
def synchronize (g : MonitoredGroup) :
    Operator Client (Except Failure (Outcome GroupPlan)) := do
  match (← getThe (Registry Client)).get g.platformRef with
  | .error e => return .error e
  | .ok entry => Operator.onPlatform entry.client (g.spec.sync g.remoteName g.spec.policy)

/-- Writes the status of a group. -/
def updateStatus (g : MonitoredGroup) (status : GroupStatus) : Operator Client Unit :=
  Operator.updateStatus type GroupStatus.toJson g status

/-- The event of an outcome, if it changed something. -/
def eventOf? (g : MonitoredGroup) : Outcome GroupPlan → Option ChangeEvent
  | .created => some (.created g.subject (remoteSubject g.spec.name) none)
  | .updated _ => some (.updated g.subject (remoteSubject g.spec.name) none)
  | .unchanged => none
  | .skipped => none

/-- Brings the platform in line with a group whose specification can be used. -/
def reconcile (x : OperatorContext Client) (g : MonitoredGroup) : Operator Client Action := do
  if let some reason := g.spec.validationError? then
    g.updateStatus (g.statusOnFailure x.now reason)
    return .awaitChange
  match ← g.synchronize with
  | .ok outcome =>
    g.updateStatus (g.statusOnSuccess x.now outcome.message outcome.isApplied)
    if let some e := g.eventOf? outcome then
      Operator.publish g.reference e
    return .requeue x.options.requeueSeconds
  | .error e =>
    g.updateStatus (g.statusOnFailure x.now e.message)
    throw (.common e)

/-- Publishes the removal of a group. That is done with even if the event is lost. -/
def publishRemoval (g : MonitoredGroup) (name : String) : Operator Client Unit := do
  let e := ChangeEvent.deleted g.subject (remoteSubject name) none
  let _ ← ExceptT.lift (ExceptT.run (Operator.publish g.reference e))

/-- Removes a group from its platform. If the platform is gone, then so is the group. -/
def cleanup (g : MonitoredGroup) : Operator Client Action := do
  match (← getThe (Registry Client)).get g.platformRef with
  | .error (.platformNotFound _) => return .awaitChange
  | .error e => throw (.common e)
  | .ok entry =>
    let removed ← Operator.onPlatform entry.client (removeGroup g.remoteName g.spec.policy)
    if (← Operator.ofResult removed) = .done then g.publishRemoval g.remoteName
    return .awaitChange

/-- A pass over a group. -/
def pass (x : OperatorContext Client) (g : MonitoredGroup) : Operator Client Action :=
  Operator.withFinalizer finalizer type g.metadata (g.reconcile x) g.cleanup

end MonitoredGroup

end MonitorSync
