import MonitorSync.Policy
import MonitorSync.Remote.Call
import MonitorSync.Service.Plan
import MonitorSync.Service.Spec
set_option autoImplicit false

/-!
# Bringing a service on the platform in line with its specification

## Main definitions

* `ServicePlan.apply` — changing a service by a plan
* `RemoteService.create` — adding a service and everything that adding does not set
* `ServiceSpec.sync` — reading, comparing and changing, as far as the policy allows
* `removeService` — removing a service that may be gone already
-/

namespace MonitorSync

/-- Makes a call only if its list is not empty. -/
def unlessEmpty (names : List String) (call : Remote Unit) : Remote Unit :=
  if names.isEmpty then pure () else call

/-- Changes the service known as `host` and `name`. The rename goes first and the other parameters
address the renamed service; then it is moved to its new host, where its lists and macros are
changed. -/
def ServicePlan.apply (plan : ServicePlan) (host name : String) : Remote Unit := do
  let newName := plan.params.get? serviceRenameParam
  if let some value := newName then
    Remote.call (.setServiceParam host name serviceRenameParam value)
  let name := newName.getD name
  (plan.params.erase serviceRenameParam).toList.forM fun (param, value) =>
    Remote.call (.setServiceParam host name param value)
  if let some value := plan.host then
    Remote.call (.setServiceHost host name value)
  let host := plan.host.getD host
  unlessEmpty plan.groupsToSet (Remote.call (.setServiceGroups host name plan.groupsToSet))
  unlessEmpty plan.groupsToDelete (Remote.call (.deleteServiceGroups host name plan.groupsToDelete))
  unlessEmpty plan.categoriesToSet
    (Remote.call (.setServiceCategories host name plan.categoriesToSet))
  unlessEmpty plan.categoriesToDelete
    (Remote.call (.deleteServiceCategories host name plan.categoriesToDelete))
  plan.macrosToSet.forM fun m => Remote.call (.setServiceMacro host name m)
  plan.macrosToDelete.forM fun m => Remote.call (.deleteServiceMacro host name m.name)

/-- Adds a service, then everything that adding does not set. -/
def RemoteService.create (expected : RemoteService) : Remote Unit := do
  Remote.call (.addService expected.host expected.name expected.template)
  let added : RemoteService :=
    { host := expected.host, name := expected.name, template := expected.template }
  (ServicePlan.between added expected []).apply expected.host expected.name

/-- Looks a service up under the identity it was last known by, then under the one wanted. -/
def findService (host name : String) (expected : RemoteService) :
    Remote (Option RemoteService) := do
  match ← Remote.call (.getService host name) with
  | some s => return some s
  | none =>
    if host = expected.host && name = expected.name then return none
    else Remote.call (.getService expected.host expected.name)

/-- Brings the service last known as `host` and `name` in line with its specification, as far as
the policy allows. -/
def ServiceSpec.sync (spec : ServiceSpec) (host name : String) (policy : Policy) :
    Remote (Outcome ServicePlan) := do
  let expected := spec.toRemote
  match ← findService host name expected with
  | none =>
    match ← policy.create expected.create with
    | .done => return .created
    | .skipped => return .skipped
  | some actual =>
    let plan := ServicePlan.between actual expected policy.excludeFields
    if !plan.isDiff then return .unchanged
    match ← policy.update (plan.apply actual.host actual.name) with
    | .done => return .updated plan
    | .skipped => return .skipped

/-- Removes a service if it still exists and the policy allows it. -/
def removeService (host name : String) (policy : Policy) : Remote Guarded := do
  match ← Remote.call (.getService host name) with
  | none => return .done
  | some _ => policy.delete (Remote.call (.deleteService host name))

end MonitorSync
