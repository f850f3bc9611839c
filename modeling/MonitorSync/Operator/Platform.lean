import MonitorSync.Operator.Finalizer
import MonitorSync.Platform.Secret
import MonitorSync.Platform.Spec
set_option autoImplicit false

/-!
# Passes over platforms

## Main definitions

* `Platform.register` — builds a client for a platform
* `Platform.pass` — a pass over a platform
* `platformsUsing` — the platforms whose credentials are in a secret
-/

namespace MonitorSync

namespace Platform

variable {Client : Type}

/-- The finalizer of platforms. -/
def finalizer : String := "platforms." ++ monitorGroup

/-- The secret with the credentials of a platform. -/
def secret (c : PlatformConnection) (p : Platform) : Operator Client SourceObject := do
  let ns := p.metadata.nsOrEmpty
  match ← Operator.lift (Operator.askOptional SourceKind.secret.type ns c.secret) with
  | .error fault => throw (.api fault)
  | .ok none => throw (.common (.missingCredentials (ns ++ "/" ++ c.secret) "data"))
  | .ok (some v) =>
    match SourceObject.ofJson? .secret v with
    | some s => return s
    | none => throw (.api (.unreadable "not a secret"))

/-- Builds a client for a platform, unless there is one for its configuration. The result tells
whether one was built. -/
def register (x : OperatorContext Client) (p : Platform) : Operator Client Bool := do
  let connection ← Operator.ofResult p.connection
  let secret ← p.secret connection
  let credentials ← Operator.ofResult secret.credentials
  let settings ← Operator.ofResult (p.settings x.options.requestTimeout)
  let registry ← getThe (Registry Client)
  let (outcome, registry) := Id.run <|
    registry.upsert (fun s c => pure (x.build s c)) p.registryName p.spec.isDefault settings
      credentials
  set registry
  Operator.ofResult outcome

/-- Writes the status of a platform. -/
def updateStatus (p : Platform) (s : PlatformStatus) : Operator Client Unit :=
  Operator.updateStatus type PlatformStatus.toJson p s

/-- Brings a platform in line. -/
def reconcile (x : OperatorContext Client) (p : Platform) : Operator Client Action := do
  match ← ExceptT.lift (ExceptT.run (p.register x)) with
  | .ok _ =>
    p.updateStatus (p.statusOnSuccess x.now "Client ready")
    return .requeue x.options.requeueSeconds
  | .error e =>
    p.updateStatus (p.statusOnFailure x.now e.message)
    throw e

/-- Removes the client of a platform. -/
def cleanup (p : Platform) : Operator Client Action := do
  modifyThe (Registry Client) (·.remove p.registryName)
  return .awaitChange

/-- A pass over a platform. -/
def pass (x : OperatorContext Client) (p : Platform) : Operator Client Action :=
  Operator.withFinalizer finalizer type p.metadata (p.reconcile x) p.cleanup

end Platform

/-- The platforms in the namespace of a secret whose credentials are in it. -/
def platformsUsing (platforms : List Platform) (secret : Metadata) : List Platform :=
  platforms.filter fun p => p.metadata.ns = secret.ns &&
    p.spec.connection.elim false (·.secret = secret.anyName)

end MonitorSync
