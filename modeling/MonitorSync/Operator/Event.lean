import MonitorSync.Kube.Reference
set_option autoImplicit false

/-!
# Events

## Main definitions

* `ChangeEvent` — what is told about a change that the operator made
* `ChangeEvent.created`, `ChangeEvent.updated`, `ChangeEvent.deleted` — the events of a child
-/

namespace MonitorSync

/-- What is told about a change that the operator made. -/
structure ChangeEvent where
  reason : String
  note : String
  action : String
  /-- The object that was changed, if it lives in the cluster. -/
  secondary : Option ObjectReference
deriving DecidableEq, Repr

namespace ChangeEvent

/-- Names a kind of resource and one resource of it. -/
structure Subject where
  kind : String
  name : String
deriving DecidableEq, Repr

/-- The event of a change to `child`, which belongs to `owner`. -/
def about (reason verb : String) (owner child : Subject) (secondary : Option ObjectReference) :
    ChangeEvent where
  reason := reason
  note := verb ++ " `" ++ child.name ++ "` " ++ child.kind ++ " for `" ++ owner.name ++ "` " ++
    owner.kind
  action := verb ++ " " ++ child.kind
  secondary := secondary

/-- The event of a creation. -/
def created : Subject → Subject → Option ObjectReference → ChangeEvent := about "Created" "Creating"

/-- The event of an update. -/
def updated : Subject → Subject → Option ObjectReference → ChangeEvent := about "Updated" "Updating"

/-- The event of a deletion. -/
def deleted : Subject → Subject → Option ObjectReference → ChangeEvent := about "Deleted" "Deleting"

/-- The namespace of events about objects outside of any. -/
def fallbackNs : String := "kube-system"

/-- The written form of an event about an object, reported by `reporter`. -/
def toJson (e : ChangeEvent) (reporter : String) (regarding : ObjectReference) : Json :=
  let metadata := Json.ofEntries <|
    ("generateName", .str (reporter ++ "-")) :: Json.entry? "namespace" (regarding.ns.map .str)
  .ofEntries <|
    [("apiVersion", .str "events.k8s.io/v1"), ("kind", .str "Event"), ("metadata", metadata),
      ("type", .str "Normal"), ("reason", .str e.reason), ("note", .str e.note),
      ("action", .str e.action), ("regarding", regarding.toJson),
      ("reportingController", .str reporter), ("reportingInstance", .str reporter)] ++
    Json.entry? "related" (e.secondary.map ObjectReference.toJson)

end ChangeEvent

end MonitorSync
