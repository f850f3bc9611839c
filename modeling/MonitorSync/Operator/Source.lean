import MonitorSync.Child.Change
import MonitorSync.Child.Resolve
import MonitorSync.Operator.Context
set_option autoImplicit false

/-!
# Passes over sources

A pass renders the templates of a source, applies the children that come of it, and only then
deletes those that no template produces any more.

## Main definitions

* `SourceObject.pass` — a pass over a source
* `sourcesUsing` — the sources that refer to a template
-/

namespace MonitorSync

variable {Client : Type}

/-- A child as it is applied: it belongs to its source, and fields that the server keeps are left to
it. -/
def ClusterObject.toApply (child : ClusterObject) (owner : Option OwnerReference) :
    ClusterObject :=
  { child with
    metadata := { child.metadata with
      ownerReferences := owner.map fun o => [o]
      managedFields := none
      resourceVersion := none } }

/-- Applies a child, and refers to it as it is then. -/
def applyChild (child : ClusterObject) (owner : Option OwnerReference) :
    Operator Client ObjectReference := do
  let key := child.childKey
  match ChildKind.ofName? key.kind with
  | none => throw (.common (.unsupportedKind key.kind))
  | some kind =>
    let body := (child.toApply owner).toJson
    let reply ← Operator.request (.apply kind.type key.ns key.name operatorName true body)
    match ClusterObject.ofJson? reply with
    | some o => return o.metadata.reference kind.type.apiVersion kind.type.kind
    | none => throw (.api (.unreadable "not an object"))

/-- Deletes a child, which may be gone already. -/
def deleteChild (child : ClusterObject) : Operator Client Unit := do
  let key := child.childKey
  match ChildKind.ofName? key.kind with
  | none => return ()
  | some kind =>
    match ← Operator.lift (Operator.ask (.delete kind.type key.ns key.name)) with
    | .ok _ => return ()
    | .error fault => if fault.code? = some 404 then return () else throw (.api fault)

namespace SourceObject

/-- The source as the subject of an event. -/
def subject (o : SourceObject) (p : Placeholders) : ChangeEvent.Subject :=
  ⟨o.kind.type.kind, p.reference.display⟩

/-- A child as the subject of an event. -/
def childSubject (child : ClusterObject) : ChangeEvent.Subject :=
  ⟨child.childKey.kind, child.childKey.name⟩

/-- Applies a child, and tells if that changes it. -/
def applyExpected (o : SourceObject) (p : Placeholders) (current : List ClusterObject)
    (child : ClusterObject) : Operator Client Unit := do
  let applied ← applyChild child o.owner?
  let owner := o.subject p
  match childChange? current child with
  | some .create =>
    Operator.publish o.reference (.created owner (childSubject child) (some applied))
  | some .update =>
    Operator.publish o.reference (.updated owner (childSubject child) (some applied))
  | none => return ()

/-- Deletes a child that no template produces any more. -/
def deleteOrphan (o : SourceObject) (p : Placeholders) (child : ClusterObject) :
    Operator Client Unit := do
  let reference := (ChildKind.ofName? child.childKey.kind).map fun k =>
    child.metadata.reference k.type.apiVersion k.type.kind
  deleteChild child
  Operator.publish o.reference (.deleted (o.subject p) (childSubject child) reference)

/-- Brings the children of a source in line. -/
def reconcile (x : OperatorContext Client) (o : SourceObject) (p : Placeholders) :
    Operator Client Action := do
  let set ← Operator.onStore (resolveChildren x.tools x.domain p)
  set.expected.forM (o.applyExpected p set.current)
  set.orphans.forM (o.deleteOrphan p)
  return .requeue x.options.requeueSeconds

/-- A pass over a source. One that is to be deleted leaves its children to the cluster. -/
def pass (x : OperatorContext Client) (o : SourceObject) : Operator Client Action :=
  if o.metadata.deletionTimestamp.isSome then return .awaitChange
  else match o.context? with
    | none => return .awaitChange
    | some p => o.reconcile x p

/-- The references of a source to templates, if they can be read. -/
def references? (domain : Domain) (o : SourceObject) : Option (List Reference) :=
  (templateReferences domain (o.metadata.annotations.getD .empty) o.metadata.nsOrEmpty).toOption

end SourceObject

/-- The sources that refer to a template. -/
def sourcesUsing (domain : Domain) (sources : List SourceObject) (template : Reference) :
    List SourceObject :=
  sources.filter fun o => (o.references? domain).elim false (·.contains template)

end MonitorSync
