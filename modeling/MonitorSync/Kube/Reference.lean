import MonitorSync.Datum.Basic
set_option autoImplicit false

/-!
# References between cluster objects

## Main definitions

* `ObjectReference` — names an object, with as much as is known of it
* `OwnerReference` — names the object that another one belongs to
-/

namespace MonitorSync

/-- Names an object with as much as is known of it. -/
structure ObjectReference where
  apiVersion : Option String := none
  fieldPath : Option String := none
  kind : Option String := none
  name : Option String := none
  ns : Option String := none
  resourceVersion : Option String := none
  uid : Option String := none
deriving DecidableEq, Repr, Inhabited

/-- The written form; what is not known is left out. -/
def ObjectReference.toJson (r : ObjectReference) : Json := .ofEntries <|
  Json.entry? "apiVersion" (r.apiVersion.map .str) ++
  Json.entry? "fieldPath" (r.fieldPath.map .str) ++
  Json.entry? "kind" (r.kind.map .str) ++
  Json.entry? "name" (r.name.map .str) ++
  Json.entry? "namespace" (r.ns.map .str) ++
  Json.entry? "resourceVersion" (r.resourceVersion.map .str) ++
  Json.entry? "uid" (r.uid.map .str)

/-- Names the object that another one belongs to. -/
structure OwnerReference where
  apiVersion : String
  kind : String
  name : String
  uid : String
  controller : Option Bool := none
  blockOwnerDeletion : Option Bool := none
deriving DecidableEq, Repr, Inhabited

/-- The written form; flags that are not given are left out. -/
def OwnerReference.toJson (r : OwnerReference) : Json := .ofEntries <|
  [("apiVersion", .str r.apiVersion), ("kind", .str r.kind), ("name", .str r.name),
    ("uid", .str r.uid)] ++
  Json.entry? "controller" (r.controller.map .bool) ++
  Json.entry? "blockOwnerDeletion" (r.blockOwnerDeletion.map .bool)

end MonitorSync
