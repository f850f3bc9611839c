import MonitorSync.Kube.Metadata
set_option autoImplicit false

/-!
# Cluster objects

## Main definitions

* `ObjectType` — the API version and kind of an object
* `ClusterObject` — an object whose content is any value
* `Resource` — an object whose specification and status have types of their own
-/

namespace MonitorSync

/-- The API version and kind of an object. -/
structure ObjectType where
  apiVersion : String
  kind : String
deriving DecidableEq, Repr, Inhabited

/-- The group of an API version, which is what stands before its last slash. -/
def ObjectType.group (t : ObjectType) : String :=
  String.ofList ((t.apiVersion.toList.reverse.dropWhile (· ≠ '/')).drop 1).reverse

/-- The name of the resources of a type. -/
def ObjectType.plural (t : ObjectType) : String := t.kind.toLower ++ "s"

/-- The group of the resources that the operator defines. -/
def monitorGroup : String := "monitor.k8s.webcenter.fr"

/-- The API version of the resources that the operator defines. -/
def monitorApiVersion : String := monitorGroup ++ "/v1"

/-- An object whose content is any value. -/
structure ClusterObject where
  types : Option ObjectType := none
  metadata : Metadata := {}
  /-- All further fields. -/
  content : KeyMap Json := .empty

instance : Inhabited ClusterObject := ⟨{}⟩

namespace ClusterObject

/-- The type of an object and the fields that remain. The version and kind are a type only
together; one without the other is dropped. -/
def splitType (entries : KeyMap Json) : Option ObjectType × KeyMap Json :=
  match entries.get? "apiVersion", entries.get? "kind" with
  | some (.str apiVersion), some (.str kind) =>
    (some ⟨apiVersion, kind⟩, (entries.erase "apiVersion").erase "kind")
  | none, _ => (none, entries.erase "kind")
  | some (.str _), _ => (none, (entries.erase "apiVersion").erase "kind")
  | some _, _ => (none, entries.erase "apiVersion")

/-- Reads an object. Metadata may be missing. -/
def ofJson? (v : Json) : Option ClusterObject :=
  match v with
  | .obj entries => do
    let (types, rest) := splitType ⟨entries⟩
    let metadata ← match rest.get? "metadata" with
      | none => some {}
      | some m => Metadata.ofDatum? (.ofJson m)
    some ⟨types, metadata, rest.erase "metadata"⟩
  | _ => none

/-- The written form. -/
def toJson (o : ClusterObject) : Json := .ofEntries <|
  (o.types.elim [] fun t => [("apiVersion", .str t.apiVersion), ("kind", .str t.kind)]) ++
  [("metadata", o.metadata.toJson)] ++ o.content.toList

/-- The specification of an object, null if there is none. -/
def spec (o : ClusterObject) : Json := (o.content.get? "spec").getD .null

end ClusterObject

/-- An object whose specification and status have types of their own. -/
structure Resource (Spec Status : Type) where
  metadata : Metadata := {}
  spec : Spec
  status : Option Status := none

namespace Resource

variable {Spec Status : Type}

/-- Reads a resource; only its status may be absent. -/
def ofDatum? (readSpec : Datum → Option Spec) (readStatus : Datum → Option Status) (d : Datum) :
    Option (Resource Spec Status) := do
  let f ← Datum.Fields.ofDatum? ["metadata", "spec", "status"] d
  return {
    metadata := ← f.required "metadata" Metadata.ofDatum?
    spec := ← f.required "spec" readSpec
    status := ← f.nullable "status" readStatus }

/-- The written form of a resource of the given type. -/
def toJson (specToJson : Spec → Json) (statusToJson : Status → Json) (t : ObjectType)
    (r : Resource Spec Status) : Json := .ofEntries <|
  [("apiVersion", .str t.apiVersion), ("kind", .str t.kind), ("metadata", r.metadata.toJson),
    ("spec", specToJson r.spec)] ++
  Json.entry? "status" (r.status.map statusToJson)

end Resource

end MonitorSync
