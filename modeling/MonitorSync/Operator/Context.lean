import MonitorSync.Child.Store
import MonitorSync.Kube.Request
import MonitorSync.Mustache.Tools
import MonitorSync.Operator.Event
import MonitorSync.Operator.Failure
import MonitorSync.Operator.Options
import MonitorSync.Platform.Registry
import MonitorSync.Remote.Call
set_option autoImplicit false

/-!
# What the operator works with

A pass over an object talks to the API server and to platforms, and knows the registry of platforms.

## Main definitions

* `OperatorContext` — what is given to every pass
* `OperatorCall` — what a pass may ask of the systems around it
* `Operator` — a pass that gives an `α`
* `Action` — when to look at an object again
-/

namespace MonitorSync

/-- What is given to every pass. -/
structure OperatorContext (Client : Type) where
  options : Options
  /-- The time of the pass. -/
  now : Instant
  /-- Builds the client of a platform. -/
  build : ConnectionSettings → Credentials → Except Failure Client
  /-- What the helpers of templates work with. -/
  tools : Mustache.Tools

/-- The domain of annotations and labels. -/
def OperatorContext.domain {Client : Type} (c : OperatorContext Client) : Domain :=
  c.options.domain

/-- The name under which the operator writes objects and reports events. -/
def operatorName : String := "monitoring-operator"

/-- What a pass may ask of the systems around it. -/
inductive OperatorCall (Client : Type) where
  | api (request : ApiRequest)
  | remote (client : Client) (call : RemoteCall)

/-- The answer to a call. -/
@[reducible] def OperatorCall.Answer {Client : Type} : OperatorCall Client → Type
  | api request => request.Answer
  | remote _ call => call.Answer

/-- Work on the systems around the operator. -/
abbrev OperatorProgram (Client : Type) (α : Type) :=
  Program (OperatorCall Client) OperatorCall.Answer α

/-- A pass that gives an `α`, changes the registry, and ends at the first failure. -/
abbrev Operator (Client : Type) (α : Type) :=
  ExceptT OperatorFailure (StateT (Registry Client) (Program (OperatorCall Client)
    OperatorCall.Answer)) α

/-- When to look at an object again: after some seconds, or only when it changes. -/
structure Action where
  requeueAfter : Option Nat
deriving DecidableEq, Repr

namespace Action

/-- Looks at the object again when it changes. -/
def awaitChange : Action := ⟨none⟩

/-- Looks at the object again after some seconds. -/
def requeue (seconds : Nat) : Action := ⟨some seconds⟩

end Action

namespace Operator

variable {Client : Type} {α : Type}

/-- Asks the API server. An object without a name is not asked about. -/
def ask (r : ApiRequest) : OperatorProgram Client r.Answer :=
  if r.name? = some "" then .done (.error (.notSent "A non-empty name is required"))
  else Program.call (OperatorCall.api r)

/-- Asks for an object that may not exist. -/
def askOptional (t : ObjectType) (ns name : String) :
    OperatorProgram Client (Except ApiFault (Option Json)) := do
  match ← ask (.get t ns name) with
  | .ok o => return .ok (some o)
  | .error fault => return if fault.isNotFound then .ok none else .error fault

/-- Work on the systems around the operator, as a part of a pass. -/
def lift (work : OperatorProgram Client α) : Operator Client α := ExceptT.lift (StateT.lift work)

/-- Goes on with a result that may be a failure. -/
def ofResult : Except Failure α → Operator Client α
  | .ok a => pure a
  | .error e => throw (.common e)

/-- Sends a request to the API server. -/
def request (r : ApiRequest) : Operator Client r.Reply := do
  match ← lift (ask r) with
  | .ok reply => return reply
  | .error fault => throw (.api fault)

/-- Works on a platform. A failure there is a result here. -/
def onPlatform (client : Client) (work : Remote α) : Operator Client (Except Failure α) :=
  lift ((ExceptT.run work).translate fun c => Program.call (OperatorCall.remote client c))

/-- Reads an object in a reply. -/
def readReply (read : Json → Option α) (v : Json) : Except Failure α :=
  match read v with
  | some a => .ok a
  | none => .error (.cluster (.unreadable "not an object of its kind"))

/-- Reads a child in a reply. -/
def readChild (kind : ChildKind) (v : Json) : Except Failure ClusterObject := do
  let o ← readReply ClusterObject.ofJson? v
  return { o with types := some (o.types.getD kind.type) }

/-- Answers a call to the store of templates and children from the API server. -/
def storeCall : (c : StoreCall) → OperatorProgram Client c.Answer
  | .getTemplate ns name => do
    match ← askOptional ⟨monitorApiVersion, "Template"⟩ ns name with
    | .ok none => return .ok none
    | .ok (some v) => return (readReply (fun v => Template.ofDatum? (.ofJson v)) v).map some
    | .error fault => return .error (.cluster fault)
  | .getChild kind ns name => do
    match ← askOptional kind.type ns name with
    | .ok none => return .ok none
    | .ok (some v) => return (readReply ClusterObject.ofJson? v).map some
    | .error fault => return .error (.cluster fault)
  | .listChildren kind selector => do
    match ← ask (.list kind.type selector) with
    | .ok items => return items.mapM (readChild kind)
    | .error fault => return .error (.cluster fault)

/-- Works on the store of templates and children. -/
def onStore (work : StoreWork α) : Operator Client α := do
  ofResult (← lift ((ExceptT.run work).translate storeCall))

/-- Publishes an event about an object. -/
def publish (regarding : ObjectReference) (e : ChangeEvent) : Operator Client Unit :=
  request (.createEvent (regarding.ns.getD ChangeEvent.fallbackNs)
    (e.toJson operatorName regarding))

/-- Writes the status of an object, unless it stays as it is. -/
def updateStatus {Spec Status : Type} [DecidableEq Status] (t : ObjectType)
    (toJson : Status → Json) (r : Resource Spec Status) (status : Status) :
    Operator Client Unit :=
  if r.status = some status then pure ()
  else request (.patchStatus t r.metadata.nsOrEmpty r.metadata.anyName
    (.ofEntries [("status", toJson status)]))

end Operator

/-- The seconds after which a failed pass is tried again. -/
def retrySeconds : Nat := 300

/-- When to look again at an object whose pass failed: soon, if that may help. -/
def OperatorContext.onFailure {Client : Type} (c : OperatorContext Client) (f : OperatorFailure) :
    Action :=
  if f.isRetryable then .requeue retrySeconds else .requeue c.options.requeueSeconds

end MonitorSync
