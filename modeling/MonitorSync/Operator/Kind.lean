import MonitorSync.Operator.Group
import MonitorSync.Operator.Platform
import MonitorSync.Operator.Service
import MonitorSync.Operator.Source
set_option autoImplicit false

/-!
# The kinds of objects that the operator looks after

## Main definitions

* `WatchedKind` — a kind of objects over which there are passes
* `WatchedKind.pass?` — the pass over an object, if the object can be read
* `WatchedKind.onFailure` — when to look at an object of the kind again after a failed pass
-/

namespace MonitorSync

/-- A kind of objects over which there are passes. -/
inductive WatchedKind where
  | platform
  | service
  | group
  | source (kind : SourceKind)
deriving DecidableEq, Repr

namespace WatchedKind

variable {Client : Type}

/-- The kind of a name. -/
def ofName? : String → Option WatchedKind
  | "Platform" => some .platform
  | "CentreonService" => some .service
  | "CentreonServiceGroup" => some .group
  | name => (SourceKind.ofName? name).map .source

/-- The pass over an object, if the object can be read. -/
def pass? (x : OperatorContext Client) (v : Json) : WatchedKind → Option (Operator Client Action)
  | platform => (Platform.ofDatum? (.ofJson v)).map (Platform.pass x)
  | service => (MonitoredService.ofDatum? (.ofJson v)).map (MonitoredService.pass x)
  | group => (MonitoredGroup.ofDatum? (.ofJson v)).map (MonitoredGroup.pass x)
  | source kind => (SourceObject.ofJson? kind v).map (SourceObject.pass x)

/-- When to look again at an object whose pass failed. A platform is tried again soon whatever the
failure, for no service can be kept in line without it. -/
def onFailure (x : OperatorContext Client) (f : OperatorFailure) : WatchedKind → Action
  | platform => .requeue retrySeconds
  | service => x.onFailure f
  | group => x.onFailure f
  | source _ => x.onFailure f

end WatchedKind

end MonitorSync
