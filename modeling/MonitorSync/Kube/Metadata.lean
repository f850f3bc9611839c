import MonitorSync.Kube.Reference
import MonitorSync.Kube.Shape
set_option autoImplicit false

/-!
# Metadata of cluster objects

## Main definitions

* `Metadata` — what is known of an object apart from its content
* `Metadata.toJson`, `Metadata.ofDatum?` — the written form, and reading it
* `Metadata.anyName` — the name of an object, or what its name will start with
-/

namespace MonitorSync

/-- What is known of an object apart from its content. -/
structure Metadata where
  name : Option String := none
  generateName : Option String := none
  ns : Option String := none
  uid : Option String := none
  generation : Option Int := none
  labels : Option (KeyMap String) := none
  annotations : Option (KeyMap String) := none
  finalizers : Option (List String) := none
  ownerReferences : Option (List OwnerReference) := none
  /-- The written form of the time at which the object was asked to be deleted. -/
  deletionTimestamp : Option String := none
  resourceVersion : Option String := none
  /-- Who manages which fields, in its written form. -/
  managedFields : Option Json := none
  /-- Fields that nothing here depends on, in their written form. -/
  others : List (String × Json) := []

instance : Inhabited Metadata := ⟨{}⟩

namespace Metadata

open Shape

/-- The shape of an owner reference. -/
def ownerShape : Shape := .object <|
  alwaysTexts ["apiVersion", "kind", "name", "uid"] ++
  [field "blockOwnerDeletion" .flag, field "controller" .flag]

/-- The shape of an entry on who manages which fields. -/
def managedFieldsShape : Shape := .object <|
  textFields ["apiVersion", "fieldsType", "manager", "operation", "subresource"] ++
  [field "fieldsV1" .anything, field "time" .instant]

/-- The shape of metadata. -/
def shape : Shape := .object <|
  textFields ["name", "generateName", "namespace", "uid", "resourceVersion", "selfLink"] ++
  [field "generation" .integer, field "deletionGracePeriodSeconds" .integer,
    field "creationTimestamp" .instant, field "deletionTimestamp" .instant,
    field "labels" (.map .text), field "annotations" (.map .text),
    field "finalizers" (.list .text), field "ownerReferences" (.list ownerShape),
    field "managedFields" (.list managedFieldsShape)]

/-- A text in a value that was read by a shape. -/
def textIn (v : Json) (key : String) : Option String := (v.get? key).bind Json.toText?

/-- A map of texts in a value that was read by a shape. -/
def mapIn (v : Json) (key : String) : Option (KeyMap String) :=
  match v.get? key with
  | some (.obj entries) =>
    some ⟨entries.filterMap fun e => e.2.toText?.map (e.1, ·)⟩
  | _ => none

/-- A flag in a value that was read by a shape. -/
def flagIn (v : Json) (key : String) : Option Bool :=
  match v.get? key with
  | some (.bool b) => some b
  | _ => none

/-- The items of a list in a value that was read by a shape. -/
def itemsIn (v : Json) (key : String) : Option (List Json) :=
  match v.get? key with
  | some (.arr items) => some items
  | _ => none

/-- An owner reference that was read by its shape. -/
def ownerIn (v : Json) : OwnerReference where
  apiVersion := (textIn v "apiVersion").getD ""
  kind := (textIn v "kind").getD ""
  name := (textIn v "name").getD ""
  uid := (textIn v "uid").getD ""
  controller := flagIn v "controller"
  blockOwnerDeletion := flagIn v "blockOwnerDeletion"

/-- Reads metadata. -/
def ofDatum? (d : Datum) : Option Metadata := do
  let v ← shape.read? d
  return {
    name := textIn v "name"
    generateName := textIn v "generateName"
    ns := textIn v "namespace"
    uid := textIn v "uid"
    generation := match v.get? "generation" with
      | some (.num (.integer n)) => some n
      | _ => none
    labels := mapIn v "labels"
    annotations := mapIn v "annotations"
    finalizers := (itemsIn v "finalizers").map fun items => items.filterMap Json.toText?
    ownerReferences := (itemsIn v "ownerReferences").map fun items => items.map ownerIn
    deletionTimestamp := textIn v "deletionTimestamp"
    resourceVersion := textIn v "resourceVersion"
    managedFields := v.get? "managedFields"
    others := ["creationTimestamp", "deletionGracePeriodSeconds", "selfLink"].flatMap fun key =>
      Json.entry? key (v.get? key) }

/-- The written form; what is absent is left out. -/
def toJson (m : Metadata) : Json := .ofEntries <|
  m.others ++
  Json.entry? "name" (m.name.map .str) ++
  Json.entry? "generateName" (m.generateName.map .str) ++
  Json.entry? "namespace" (m.ns.map .str) ++
  Json.entry? "uid" (m.uid.map .str) ++
  Json.entry? "generation" (m.generation.map .int) ++
  Json.entry? "labels" (m.labels.map .textMap) ++
  Json.entry? "annotations" (m.annotations.map .textMap) ++
  Json.entry? "finalizers" (m.finalizers.map .texts) ++
  Json.entry? "ownerReferences"
    (m.ownerReferences.map fun owners => .arr (owners.map OwnerReference.toJson)) ++
  Json.entry? "deletionTimestamp" (m.deletionTimestamp.map .str) ++
  Json.entry? "resourceVersion" (m.resourceVersion.map .str) ++
  Json.entry? "managedFields" m.managedFields

/-- The name of an object, or what its name will start with. -/
def anyName (m : Metadata) : String := (m.name.orElse fun _ => m.generateName).getD ""

/-- The namespace of an object, empty outside of any. -/
def nsOrEmpty (m : Metadata) : String := m.ns.getD ""

/-- The generation of an object, zero if it is not known. -/
def generationOrZero (m : Metadata) : Int := m.generation.getD 0

/-- Refers to an object of the given kind. -/
def reference (m : Metadata) (apiVersion kind : String) : ObjectReference where
  apiVersion := some apiVersion
  kind := some kind
  name := m.name
  ns := m.ns
  uid := m.uid

/-- Refers to an object of the given kind as the owner of another, if it is known well enough. -/
def owner? (m : Metadata) (apiVersion kind : String) : Option OwnerReference := do
  return {
    apiVersion := apiVersion
    kind := kind
    name := ← m.name
    uid := ← m.uid
    controller := some true }

end Metadata

end MonitorSync
