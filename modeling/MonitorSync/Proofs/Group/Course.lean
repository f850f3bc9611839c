import MonitorSync.Proofs.Group.Pass
import MonitorSync.Proofs.Remote.Gate
set_option autoImplicit false

/-!
# The course of a pass over a service group

Synchronizing and removing a group, against a platform that may answer as it likes.

## Main definitions

* `GroupSpec.parts` — what the synchronization of a group may do.

## Main results

* `GroupPlan.exists_field_of_mem_calls` — a plan changes no field that is ignored.
* `GroupPlan.calls_eq_nil_iff` — a plan has calls unless there is nothing to change.
* `GroupSpec.course_sync` — the courses of a synchronization of a group.
* `removal_removeGroup` — the courses of a removal of a group.
-/

namespace MonitorSync

variable {σ : Type} (answer : (c : RemoteCall) → σ → c.Answer × σ) (s : σ)

/-! ## The calls of a plan -/

namespace GroupPlan

/-- The parameter of a scalar stands for its field. -/
private lemma field?_setGroupParam {s : Scalar RemoteGroup} (hs : s ∈ groupScalars)
    (name value : String) :
    (RemoteCall.setGroupParam name s.param value).field? = some s.field := by
  simp only [groupScalars, List.mem_cons, List.not_mem_nil, or_false] at hs
  rcases hs with rfl | rfl | rfl | rfl <;> rfl

/-- **Ignored fields.** Every call of the plan between two groups changes a field, and one that is
not ignored. -/
theorem exists_field_of_mem_calls {actual expected : RemoteGroup} {ignored : List String}
    {name : String} {c : RemoteCall} (h : c ∈ (between actual expected ignored).calls name) :
    ∃ f, c.field? = some f ∧ f ∉ ignored := by
  obtain ⟨known, param, value, rfl, hparam⟩ := exists_param_of_mem_scalarCalls h
  obtain ⟨s, hs, rfl, hi⟩ := exists_scalar_of_mem_changedParams hparam
  exact ⟨s.field, field?_setGroupParam hs known value, hi⟩

/-- A plan has calls unless there is nothing to change. -/
theorem calls_eq_nil_iff (plan : GroupPlan) (name : String) :
    plan.calls name = [] ↔ plan.isDiff = false := by
  rw [calls, scalarCalls_eq_nil_iff, isDiff, Bool.not_eq_false']

end GroupPlan

/-! ## Lookups -/

/-- What a lookup of a group was told, if it did not fail. -/
def groupReply? : RemoteExchange → Option (Option RemoteGroup)
  | ⟨.getGroup _, .ok found⟩ => some found
  | _ => none

/-- Only lookups that did not fail were told about a group. -/
private lemma kind_of_groupReply? {e : RemoteExchange} {r : Option RemoteGroup}
    (h : groupReply? e = some r) : e.call.kind = .lookup ∧ e.Succeeded := by
  rcases e with ⟨c, a⟩
  cases c with
  | getGroup name =>
    rcases a with f | r
    · cases h
    · exact ⟨rfl, rfl⟩
  | _ => cases h

/-- A single lookup of a group. -/
private lemma looksUp_getGroup (name : String) :
    LooksUp groupReply? (Remote.call (.getGroup name)) [.getGroup name] := by
  intro σ answer s
  rw [exchanges_call, InMemoryPlatform.exec_call]
  rcases answer (.getGroup name) s with ⟨e | _ | x, t⟩
  · exact .failed _ _ e
  · exact .next (e := ⟨.getGroup name, .ok none⟩) rfl .nothing
  · exact .found (e := ⟨.getGroup name, .ok (some x)⟩) [] rfl

/-! ## Synchronizations -/

/-- What the synchronization of the group last known as `name` may do. -/
def GroupSpec.parts (spec : GroupSpec) (name : String) : SyncParts RemoteGroup GroupPlan where
  lookups := [.getGroup name] ++
    if name = spec.toRemote.name then [] else [.getGroup spec.toRemote.name]
  reply? := groupReply?
  addition := .addGroup spec.toRemote.name spec.toRemote.description
  completion := spec.toRemote.completion.calls spec.toRemote.name
  plan ignored actual := .between actual spec.toRemote ignored
  isDiff := GroupPlan.isDiff
  changes plan actual := plan.calls actual.name
  kind_of_reply? := kind_of_groupReply?
  kind_of_mem_lookups c hc := by
    rw [List.mem_append, List.mem_singleton, List.mem_ite_nil_left, List.mem_singleton] at hc
    rcases hc with rfl | ⟨-, rfl⟩ <;> rfl
  kind_addition := rfl
  kind_of_mem_completion c hc := by
    obtain ⟨f, hf, -⟩ := GroupPlan.exists_field_of_mem_calls hc
    exact RemoteCall.kind_of_field? hf
  isDiff_eq_false_iff plan actual := (plan.calls_eq_nil_iff actual.name).symm
  exists_field _ _ _ hc := GroupPlan.exists_field_of_mem_calls hc

/-- Every synchronization of a group takes one of the courses. -/
theorem GroupSpec.course_sync (spec : GroupSpec) (name : String) (policy : Policy) :
    (spec.parts name).Course policy (Program.exchanges answer (spec.sync name policy) s)
      (Program.exec answer (spec.sync name policy) s).1 := by
  rw [GroupSpec.sync_eq]
  refine (spec.parts name).course ?_ ?_ policy answer s
  · rw [findGroup_eq]
    have h := (looksUp_getGroup name).lookUp (looksUp_getGroup spec.toRemote.name)
      (name = spec.toRemote.name)
    simp only [decide_eq_true_eq] at h
    exact h
  · rw [RemoteGroup.create_eq]
    rfl

/-- Every removal of a group takes one of the courses. -/
theorem removal_removeGroup (name : String) (policy : Policy) :
    Removal groupReply? (.getGroup name) (.deleteGroup name) policy
      (Program.exchanges answer (removeGroup name policy) s)
      (Program.exec answer (removeGroup name policy) s).1 := by
  have hdelete : Remote.call (.deleteGroup name) = Remote.performAll [.deleteGroup name] :=
    (bind_pure_unit (x := Remote.call (.deleteGroup name))).symm.trans
      (Remote.performAll_singleton _).symm
  have hwork : removeGroup name policy =
      Remote.call (.getGroup name) >>= withdraw policy (Remote.performAll [.deleteGroup name]) := by
    rw [removeGroup, hdelete]
    congr 1
    funext found
    rcases found with _ | found <;> rfl
  rw [hwork]
  exact removal_of_looksUp (looksUp_getGroup name) policy answer s

end MonitorSync
