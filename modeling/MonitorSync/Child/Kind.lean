import MonitorSync.Group.Status
import MonitorSync.Service.Status
set_option autoImplicit false

/-!
# Kinds of children

## Main definitions

* `ChildKind` — the kinds of objects that templates may produce
* `ChildKey` — what tells two children apart
* `ClusterObject.childKey` — the key of an object
-/

namespace MonitorSync

/-- The kinds of objects that templates may produce. -/
inductive ChildKind where
  | service
  | group
deriving DecidableEq, Repr

namespace ChildKind

/-- All kinds. -/
def all : List ChildKind := [service, group]

/-- The type of the objects of a kind. -/
def type : ChildKind → ObjectType
  | service => MonitoredService.type
  | group => MonitoredGroup.type

/-- The name of a kind. -/
def name (k : ChildKind) : String := k.type.kind

/-- The kind of a name. -/
def ofName? (name : String) : Option ChildKind := all.find? fun k => k.name = name

end ChildKind

/-- What tells two children apart. -/
structure ChildKey where
  group : String
  kind : String
  ns : String
  name : String
deriving DecidableEq, Repr, Inhabited

/-- The key of an object. -/
def ClusterObject.childKey (o : ClusterObject) : ChildKey where
  group := o.types.elim "" ObjectType.group
  kind := o.types.elim "" ObjectType.kind
  ns := o.metadata.nsOrEmpty
  name := o.metadata.anyName

end MonitorSync
