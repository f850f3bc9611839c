import MonitorSync.Operator.Group
import MonitorSync.Operator.Platform
import MonitorSync.Operator.Service
import MonitorSync.Proofs.Condition.Repetition
import MonitorSync.Proofs.Operator.Managed
set_option autoImplicit false

/-!
# Repeated passes and statuses

A status is written only if it differs from the one that the resource has. So a pass that comes to
what the pass before it came to should write nothing.

## Main definitions

* `Resource.withStatus` — a resource with another status.
* `MonitoredService.statusAfter`, `MonitoredGroup.statusAfter`, `Platform.statusAfter` — the status
  after a pass with some result.

## Main results

* `Operator.updateStatus_eq_pure_iff` — a status is written unless the resource has it.
* `repeated_pass_writes_nothing_iff` — when a repeated result leaves a resource as it is.
* `repeated_failure_writes_status` — a resource whose first passes fail gets two statuses.
-/

namespace MonitorSync

/-! ## Statuses -/

/-- A resource with another status. -/
def Resource.withStatus {Spec Status : Type} (r : Resource Spec Status) (status : Status) :
    Resource Spec Status :=
  { r with status := some status }

/-- The report on a pass over a resource. -/
def Resource.report {Spec Status : Type} (r : Resource Spec Status) (result : PassResult)
    (now : Instant) : PassReport :=
  ⟨result, r.metadata.generationOrZero, now⟩

namespace MonitoredService

/-- The status of a service after a pass. -/
def statusAfter (s : MonitoredService) (result : PassResult) (now : Instant) : ServiceStatus :=
  match result with
  | .succeeded message applied => s.statusOnSuccess now message applied
  | .failed reason => s.statusOnFailure now reason

/-- A repeated result leaves the status as it is exactly if it leaves the conditions. -/
lemma statusAfter_repeat_iff (s : MonitoredService) (result : PassResult) (now later : Instant) :
    statusAfter (s.withStatus (s.statusAfter result now)) result later =
        s.statusAfter result now ↔
      result.isSuccess = true ∨ ∃ c ∈ (s.status.getD {}).conditions, c.type = .ready := by
  refine Iff.trans ?_ (PassReport.conditions_repeat_iff _ (s.report result now) later)
  rcases result with ⟨message, _ | _⟩ | reason
  all_goals
    simp only [statusAfter, statusOnSuccess, statusOnFailure, Resource.withStatus,
      Option.getD_some, if_true, Bool.false_eq_true, if_false, ServiceStatus.mk.injEq, true_and]
    rfl

end MonitoredService

namespace MonitoredGroup

/-- The status of a group after a pass. -/
def statusAfter (g : MonitoredGroup) (result : PassResult) (now : Instant) : GroupStatus :=
  match result with
  | .succeeded message applied => g.statusOnSuccess now message applied
  | .failed reason => g.statusOnFailure now reason

/-- A repeated result leaves the status as it is exactly if it leaves the conditions. -/
lemma statusAfter_repeat_iff (g : MonitoredGroup) (result : PassResult) (now later : Instant) :
    statusAfter (g.withStatus (g.statusAfter result now)) result later =
        g.statusAfter result now ↔
      result.isSuccess = true ∨ ∃ c ∈ (g.status.getD {}).conditions, c.type = .ready := by
  refine Iff.trans ?_ (PassReport.conditions_repeat_iff _ (g.report result now) later)
  rcases result with ⟨message, _ | _⟩ | reason
  all_goals
    simp only [statusAfter, statusOnSuccess, statusOnFailure, Resource.withStatus,
      Option.getD_some, if_true, Bool.false_eq_true, if_false, GroupStatus.mk.injEq, true_and]
    rfl

end MonitoredGroup

namespace Platform

/-- The status of a platform after a pass. A platform is not changed by passes over it. -/
def statusAfter (p : Platform) (result : PassResult) (now : Instant) : PlatformStatus :=
  match result with
  | .succeeded message _ => p.statusOnSuccess now message
  | .failed reason => p.statusOnFailure now reason

/-- A repeated result leaves the status as it is exactly if it leaves the conditions. -/
lemma statusAfter_repeat_iff (p : Platform) (result : PassResult) (now later : Instant) :
    statusAfter (p.withStatus (p.statusAfter result now)) result later =
        p.statusAfter result now ↔
      result.isSuccess = true ∨ ∃ c ∈ p.conditions, c.type = .ready := by
  refine Iff.trans ?_ (PassReport.conditions_repeat_iff _ (p.report result now) later)
  rcases result with ⟨message, _⟩ | reason
  all_goals
    simp only [statusAfter, statusOnSuccess, statusOnFailure, PlatformStatus.mk.injEq]
    rfl

end Platform

/-! ## Writing -/

/-- A system that refuses everything. -/
private def refusing {Client : Type} : (c : OperatorCall Client) → Unit → c.Answer × Unit
  | .api _, s => (.error .notFound, s)
  | .remote _ _, s => (.error (.timeout ""), s)

/-- A status is written unless the resource has it: else a system that refuses everything would not
be noticed. -/
lemma Operator.updateStatus_eq_pure_iff {Client Spec Status : Type} [DecidableEq Status]
    (t : ObjectType) (toJson : Status → Json) (resource : Resource Spec Status) (status : Status) :
    Operator.updateStatus t toJson resource status = (pure () : Operator Client Unit) ↔
      resource.status = some status := by
  rw [Operator.updateStatus]
  split_ifs with hsame
  · exact iff_of_true rfl hsame
  · refine iff_of_false (fun h => ?_) hsame
    have hrefused := congrArg (fun work => (exec refusing work {} ()).1.1) h
    rw [request, exec_bind, exec_lift, run_ask] at hrefused
    split_ifs at hrefused
    · cases hrefused
    · cases hrefused

/-! ## Main result -/

/-- **Repeated passes.** Take a pass over a service, a group or a platform with any status, and
another one over it with the status of the first, at any time and with the same result. The status
is the same again, and so nothing is written, exactly if the result is a success or the conditions
before the first pass told something about readiness. -/
theorem repeated_pass_writes_nothing_iff {Client : Type} (result : PassResult)
    (now later : Instant) :
    (∀ s : MonitoredService,
      let next : MonitoredService := s.withStatus (s.statusAfter result now)
      let same := next.statusAfter result later = s.statusAfter result now
      (same ↔ result.isSuccess = true ∨ ∃ c ∈ (s.status.getD {}).conditions, c.type = .ready) ∧
      (next.updateStatus (next.statusAfter result later) = (pure () : Operator Client Unit) ↔
        same)) ∧
    (∀ g : MonitoredGroup,
      let next : MonitoredGroup := g.withStatus (g.statusAfter result now)
      let same := next.statusAfter result later = g.statusAfter result now
      (same ↔ result.isSuccess = true ∨ ∃ c ∈ (g.status.getD {}).conditions, c.type = .ready) ∧
      (next.updateStatus (next.statusAfter result later) = (pure () : Operator Client Unit) ↔
        same)) ∧
    ∀ p : Platform,
      let next : Platform := p.withStatus (p.statusAfter result now)
      let same := next.statusAfter result later = p.statusAfter result now
      (same ↔ result.isSuccess = true ∨ ∃ c ∈ p.conditions, c.type = .ready) ∧
      (next.updateStatus (next.statusAfter result later) = (pure () : Operator Client Unit) ↔
        same) := by
  refine ⟨fun s => ⟨s.statusAfter_repeat_iff result now later, ?_⟩,
    fun g => ⟨g.statusAfter_repeat_iff result now later, ?_⟩,
    fun p => ⟨p.statusAfter_repeat_iff result now later, ?_⟩⟩ <;>
  · refine (Operator.updateStatus_eq_pure_iff _ _ _ _).trans ?_
    rw [Resource.withStatus, Option.some.injEq]
    exact eq_comm

/-- A service without a status whose platform is not there gets one status from a first pass, and
another one from the next pass. -/
theorem repeated_failure_writes_status :
    let failure := Failure.platformNotFound Registry.defaultName
    let s : MonitoredService :=
      { metadata := { name := some "web", ns := some "prod" }
        spec := { host := "central", name := "web", template := "generic" } }
    let next : MonitoredService := s.withStatus (s.statusAfter (.failed failure.message) ⟨0, 0⟩)
    let first := Behaviour.calm.run (s.reconcile .plain) {} ⟨[], []⟩
    let second := Behaviour.calm.run (next.reconcile .plain) {} ⟨[], []⟩
    first.1 = .error (.common failure) ∧ second.1 = .error (.common failure) ∧
      first.2.1.length = 1 ∧ second.2.1.length = 1 ∧
      (next.statusAfter (.failed failure.message) ⟨0, 0⟩).conditions =
        (s.statusAfter (.failed failure.message) ⟨0, 0⟩).conditions.reverse ∧
      next.statusAfter (.failed failure.message) ⟨0, 0⟩ ≠
        s.statusAfter (.failed failure.message) ⟨0, 0⟩ := by
  decide +kernel

end MonitorSync
