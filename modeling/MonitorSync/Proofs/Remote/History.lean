import MonitorSync.Proofs.Group.Course
import MonitorSync.Proofs.Service.Course
set_option autoImplicit false

/-!
# Histories of passes

The operator passes over services and groups again and again, each time under the policy of the
resource, and whatever the platform answered before. Every pass of such a history is as its policy
promises.

## Main definitions

* `RemotePass` — synchronizing or removing a service or a group.
* `PassRecord` — a pass as it went: its policy, its exchanges and its result.
* `history` — the records of passes that are made one after the other.
* `PassRecord.Gated` — what the policy of a pass promises of its record.

## Main results

* `PassRecord.gated_of_run` — every pass is as its policy promises.
* `history_gated` — so is every pass of a history.
-/

namespace MonitorSync

/-- A pass over a service or a group. -/
inductive RemotePass where
  | syncService (spec : ServiceSpec) (host name : String)
  | removeService (host name : String)
  | syncGroup (spec : GroupSpec) (name : String)
  | removeGroup (name : String)

namespace RemotePass

/-- What a pass gives. -/
@[reducible] def Result : RemotePass → Type
  | syncService .. => Outcome ServicePlan
  | syncGroup .. => Outcome GroupPlan
  | removeService .. | removeGroup .. => Guarded

/-- The work of a pass under a policy. -/
def work (policy : Policy) : (p : RemotePass) → Remote p.Result
  | syncService spec host name => spec.sync host name policy
  | removeService host name => MonitorSync.removeService host name policy
  | syncGroup spec name => spec.sync name policy
  | removeGroup name => MonitorSync.removeGroup name policy

end RemotePass

/-- A pass as it went. -/
structure PassRecord where
  pass : RemotePass
  policy : Policy
  exchanges : List RemoteExchange
  result : Except Failure pass.Result

/-- What the policy of a pass promises of its record. -/
def PassRecord.Gated : PassRecord → Prop
  | ⟨.syncService spec host name, policy, es, result⟩ =>
    (spec.parts host name).Gated policy es result
  | ⟨.removeService host name, policy, es, _⟩ => RemovalGated (.deleteService host name) policy es
  | ⟨.syncGroup spec name, policy, es, result⟩ => (spec.parts name).Gated policy es result
  | ⟨.removeGroup name, policy, es, _⟩ => RemovalGated (.deleteGroup name) policy es

section History

variable {σ : Type} (answer : (c : RemoteCall) → σ → c.Answer × σ)

/-- The record of a pass that is made in a state `s`. -/
def PassRecord.ofRun (pass : RemotePass) (policy : Policy) (s : σ) : PassRecord :=
  ⟨pass, policy, Program.exchanges answer (pass.work policy) s,
    (Program.exec answer (pass.work policy) s).1⟩

/-- The records of passes that are made one after the other, each under its policy. A pass that
fails does not keep the next ones from being made. -/
def history : List (RemotePass × Policy) → σ → List PassRecord
  | [], _ => []
  | (pass, policy) :: rest, s =>
    .ofRun answer pass policy s :: history rest (Program.exec answer (pass.work policy) s).2

/-- Whatever a platform answers, a pass is as its policy promises. -/
lemma PassRecord.gated_of_run (pass : RemotePass) (policy : Policy) (s : σ) :
    (PassRecord.ofRun answer pass policy s).Gated := by
  cases pass with
  | syncService spec host name => exact (spec.course_sync answer s host name policy).gated
  | removeService host name => exact (removal_removeService answer s host name policy).gated rfl
  | syncGroup spec name => exact (spec.course_sync answer s name policy).gated
  | removeGroup name => exact (removal_removeGroup answer s name policy).gated rfl

/-- **Policies hold in every history.** Whatever passes are made under whatever policies, and
whatever the platform answers to their calls, failures included: every pass is as its policy
promises, and reports what it did.

**Proof sketch.** Induction on the passes: each of them takes one of the courses from the state in
which those before left the platform, and every course is as the policy promises. -/
theorem history_gated (passes : List (RemotePass × Policy)) (s : σ) :
    (history answer passes s).Forall PassRecord.Gated := by
  induction passes generalizing s with
  | nil => exact trivial
  | cons p rest ih =>
    rw [history, List.forall_cons]
    exact ⟨PassRecord.gated_of_run answer p.1 p.2 s, ih _⟩

end History

end MonitorSync
