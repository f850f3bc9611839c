import MonitorSync.Operator.Finalizer
import MonitorSync.Service.Status
import MonitorSync.Service.Sync
set_option autoImplicit false

/-!
# Passes over services

## Main definitions

* `MonitoredService.synchronize` — brings the platform in line with a service
* `MonitoredService.pass` — a pass over a service
-/

namespace MonitorSync

namespace MonitoredService

variable {Client : Type}

/-- The finalizer of services. -/
def finalizer : String := "centreonservices." ++ monitorGroup

/-- The word for services on a platform. -/
def remoteKind : String := "Centreon service"

/-- The service as the subject of an event. -/
def subject (s : MonitoredService) : ChangeEvent.Subject :=
  ⟨type.kind, s.metadata.nsOrEmpty ++ "/" ++ s.metadata.anyName⟩

/-- A service of the platform as the subject of an event. -/
def remoteSubject (host name : String) : ChangeEvent.Subject := ⟨remoteKind, host ++ "/" ++ name⟩

/-- Refers to a service. -/
def reference (s : MonitoredService) : ObjectReference :=
  s.metadata.reference type.apiVersion type.kind

/-- Brings the platform in line with a service. -/
def synchronize (s : MonitoredService) :
    Operator Client (Except Failure (Outcome ServicePlan)) := do
  match (← getThe (Registry Client)).get s.platformRef with
  | .error e => return .error e
  | .ok entry =>
    let (host, name) := s.identity
    Operator.onPlatform entry.client (s.spec.sync host name s.spec.policy)

/-- Writes the status of a service. -/
def updateStatus (s : MonitoredService) (status : ServiceStatus) : Operator Client Unit :=
  Operator.updateStatus type ServiceStatus.toJson s status

/-- The event of an outcome, if it changed something. -/
def eventOf? (s : MonitoredService) : Outcome ServicePlan → Option ChangeEvent
  | .created => some (.created s.subject (remoteSubject s.spec.host s.spec.name) none)
  | .updated _ => some (.updated s.subject (remoteSubject s.spec.host s.spec.name) none)
  | .unchanged => none
  | .skipped => none

/-- Brings the platform in line with a service whose specification can be used. -/
def reconcile (x : OperatorContext Client) (s : MonitoredService) : Operator Client Action := do
  if let some reason := s.spec.validationError? then
    s.updateStatus (s.statusOnFailure x.now reason)
    return .awaitChange
  match ← s.synchronize with
  | .ok outcome =>
    s.updateStatus (s.statusOnSuccess x.now outcome.message outcome.isApplied)
    if let some e := s.eventOf? outcome then
      Operator.publish s.reference e
    return .requeue x.options.requeueSeconds
  | .error e =>
    s.updateStatus (s.statusOnFailure x.now e.message)
    throw (.common e)

/-- Publishes the removal of a service. That is done with even if the event is lost. -/
def publishRemoval (s : MonitoredService) (host name : String) : Operator Client Unit := do
  let e := ChangeEvent.deleted s.subject (remoteSubject host name) none
  let _ ← ExceptT.lift (ExceptT.run (Operator.publish s.reference e))

/-- Removes a service from its platform. If the platform is gone, then so is the service. -/
def cleanup (s : MonitoredService) : Operator Client Action := do
  match (← getThe (Registry Client)).get s.platformRef with
  | .error (.platformNotFound _) => return .awaitChange
  | .error e => throw (.common e)
  | .ok entry =>
    let (host, name) := s.identity
    let removed ← Operator.onPlatform entry.client (removeService host name s.spec.policy)
    if (← Operator.ofResult removed) = .done then s.publishRemoval host name
    return .awaitChange

/-- A pass over a service. -/
def pass (x : OperatorContext Client) (s : MonitoredService) : Operator Client Action :=
  Operator.withFinalizer finalizer type s.metadata (s.reconcile x) s.cleanup

end MonitoredService

end MonitorSync
