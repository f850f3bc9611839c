import MonitorSync.Group.Spec
import MonitorSync.Remote.Call
import MonitorSync.Service.Plan
set_option autoImplicit false

/-!
# Bringing a service group on the platform in line with its specification

## Main definitions

* `GroupPlan.between` — the smallest plan from one group to another, ignored fields aside
* `GroupPlan.apply` — changing a group by a plan
* `RemoteGroup.create` — adding a group and everything that adding does not set
* `GroupSpec.sync` — reading, comparing and changing, as far as the policy allows
* `removeGroup` — removing a group that may be gone already
-/

namespace MonitorSync

/-- The scalars of a group. -/
def groupScalars : List (Scalar RemoteGroup) :=
  [⟨"name", groupRenameParam, (·.name)⟩,
    ⟨"activate", "activate", (·.activated)⟩,
    ⟨"description", "alias", (·.description)⟩,
    ⟨"comment", "comment", (·.comment)⟩]

/-- What has to be changed on a group: the values of parameters, the new name among them. -/
structure GroupPlan where
  params : KeyMap String := .empty
deriving DecidableEq, Inhabited

namespace GroupPlan

/-- Whether there is something to change. -/
def isDiff (p : GroupPlan) : Bool := !p.params.isEmpty

/-- The smallest plan that turns `actual` into `expected`, leaving the ignored fields alone. -/
def between (actual expected : RemoteGroup) (ignored : List String) : GroupPlan :=
  ⟨changedParams groupScalars actual expected ignored⟩

/-- Changes the group known as `name`. The rename goes first, and the other parameters address the
renamed group. -/
def apply (plan : GroupPlan) (name : String) : Remote Unit := do
  let newName := plan.params.get? groupRenameParam
  if let some value := newName then
    Remote.call (.setGroupParam name groupRenameParam value)
  let name := newName.getD name
  (plan.params.erase groupRenameParam).toList.forM fun (param, value) =>
    Remote.call (.setGroupParam name param value)

end GroupPlan

/-- Adds a group, then everything that adding does not set. -/
def RemoteGroup.create (expected : RemoteGroup) : Remote Unit := do
  Remote.call (.addGroup expected.name expected.description)
  let added : RemoteGroup := { name := expected.name, description := expected.description }
  (GroupPlan.between added expected []).apply expected.name

/-- Looks a group up under the name it was last known by, then under the one wanted. -/
def findGroup (name : String) (expected : RemoteGroup) : Remote (Option RemoteGroup) := do
  match ← Remote.call (.getGroup name) with
  | some g => return some g
  | none =>
    if name = expected.name then return none
    else Remote.call (.getGroup expected.name)

/-- Brings the group last known as `name` in line with its specification, as far as the policy
allows. -/
def GroupSpec.sync (spec : GroupSpec) (name : String) (policy : Policy) :
    Remote (Outcome GroupPlan) := do
  let expected := spec.toRemote
  match ← findGroup name expected with
  | none =>
    match ← policy.create expected.create with
    | .done => return .created
    | .skipped => return .skipped
  | some actual =>
    let plan := GroupPlan.between actual expected policy.excludeFields
    if !plan.isDiff then return .unchanged
    match ← policy.update (plan.apply actual.name) with
    | .done => return .updated plan
    | .skipped => return .skipped

/-- Removes a group if it still exists and the policy allows it. -/
def removeGroup (name : String) (policy : Policy) : Remote Guarded := do
  match ← Remote.call (.getGroup name) with
  | none => return .done
  | some _ => policy.delete (Remote.call (.deleteGroup name))

end MonitorSync
