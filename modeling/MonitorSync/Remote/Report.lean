import MonitorSync.Group.Sync
import MonitorSync.Remote.Notation
import MonitorSync.Service.Sync
set_option autoImplicit false

/-!
# Reports on what is changed on the platform

## Main definitions

* `ServicePlan.toJson`, `GroupPlan.toJson` — the written form of a plan
* `Outcome.toJson` — what bringing in line came to, with its plan if something was changed
* `Guarded.word` — what came of a call that a policy may forbid
-/

namespace MonitorSync

/-- The written form of a plan. -/
def ServicePlan.toJson (p : ServicePlan) : Json := .ofEntries
  [("isDiff", .bool p.isDiff), ("paramsToSet", .textMap p.params), ("hostToSet", .text? p.host),
    ("groupsToSet", .texts p.groupsToSet), ("groupsToDelete", .texts p.groupsToDelete),
    ("categoriesToSet", .texts p.categoriesToSet),
    ("categoriesToDelete", .texts p.categoriesToDelete),
    ("macrosToSet", .arr (p.macrosToSet.map ServiceMacro.toJson)),
    ("macrosToDelete", .arr (p.macrosToDelete.map ServiceMacro.toJson))]

/-- The written form of a plan. -/
def GroupPlan.toJson (p : GroupPlan) : Json := .ofEntries
  [("isDiff", .bool p.isDiff), ("paramsToSet", .textMap p.params)]

/-- The word for what came of a call that a policy may forbid. -/
def Guarded.word : Guarded → String
  | .done => "Done"
  | .skipped => "Skipped"

namespace Outcome

variable {Plan : Type}

/-- The word for an outcome. -/
def word : Outcome Plan → String
  | .created => "Created"
  | .updated _ => "Updated"
  | .unchanged => "Unchanged"
  | .skipped => "Skipped"

/-- The plan that was carried out, if something was changed. -/
def plan? : Outcome Plan → Option Plan
  | .updated p => some p
  | .created => none
  | .unchanged => none
  | .skipped => none

/-- The written form, given that of a plan. -/
def toJson (plan : Plan → Json) (o : Outcome Plan) : Json := .ofEntries <|
  [("outcome", .str o.word), ("message", .str o.message)] ++ Json.entry? "diff" (o.plan?.map plan)

end Outcome

end MonitorSync
