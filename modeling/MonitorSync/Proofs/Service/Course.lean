import MonitorSync.Proofs.Remote.Gate
import MonitorSync.Proofs.Service.Pass
set_option autoImplicit false

/-!
# The course of a pass over a service

Synchronizing and removing a service, against a platform that may answer as it likes.

## Main definitions

* `ServiceSpec.parts` — what the synchronization of a service may do.

## Main results

* `ServicePlan.exists_field_of_mem_calls` — a plan changes no field that is ignored.
* `ServicePlan.calls_eq_nil_iff` — a plan has calls unless there is nothing to change.
* `ServiceSpec.course_sync` — the courses of a synchronization of a service.
* `removal_removeService` — the courses of a removal of a service.
-/

namespace MonitorSync

variable {σ : Type} (answer : (c : RemoteCall) → σ → c.Answer × σ) (s : σ)

/-! ## The calls of a plan -/

namespace ServicePlan

variable {actual expected : RemoteService} {ignored : List String} {host name : String}
  {c : RemoteCall}

/-- The parameter of a scalar stands for its field. -/
private lemma field?_setServiceParam {s : Scalar RemoteService} (hs : s ∈ serviceScalars)
    (value : String) :
    (RemoteCall.setServiceParam host name s.param value).field? = some s.field := by
  simp only [serviceScalars, List.mem_cons, List.not_mem_nil, or_false] at hs
  rcases hs with rfl | rfl | rfl | rfl | rfl | rfl | rfl | rfl | rfl | rfl | rfl <;> rfl

/-- Changes to a field that are made only if it is not ignored. -/
private lemma not_mem_of_mem_watched {α : Type} {field : String} {l : List α} {a : α}
    (h : a ∈ if ignored.contains field then [] else l) : field ∉ ignored := fun hi => by
  rw [if_pos (List.contains_iff_mem.2 hi)] at h
  cases h

/-- A call with a list is made only with the elements of the list. -/
private lemma mem_callUnlessEmpty {names : List String} {d : RemoteCall}
    (h : c ∈ callUnlessEmpty names d) : c = d ∧ ∃ n, n ∈ names := by
  rw [callUnlessEmpty, List.mem_ite_nil_left, List.mem_singleton, List.isEmpty_iff] at h
  exact ⟨h.2, List.exists_mem_of_ne_nil _ h.1⟩

/-- **Ignored fields.** Every call of the plan between two services changes a field, and one that is
not ignored. -/
theorem exists_field_of_mem_calls (h : c ∈ (between actual expected ignored).calls host name) :
    ∃ f, c.field? = some f ∧ f ∉ ignored := by
  simp only [calls, listCalls, List.mem_append, List.mem_map] at h
  rcases h with (h | ⟨value, hv, rfl⟩) | (((((h | h) | h) | h) | ⟨m, hm, rfl⟩) | ⟨m, hm, rfl⟩)
  · obtain ⟨known, param, value, rfl, hparam⟩ := exists_param_of_mem_scalarCalls h
    obtain ⟨s, hs, rfl, hi⟩ := exists_scalar_of_mem_changedParams hparam
    exact ⟨s.field, field?_setServiceParam hs value, hi⟩
  · refine ⟨"host", rfl, fun hi => ?_⟩
    simp only [between, if_pos (List.contains_iff_mem.2 hi)] at hv
    cases hv
  · obtain ⟨rfl, n, hn⟩ := mem_callUnlessEmpty h
    exact ⟨"groups", rfl, not_mem_of_mem_watched hn⟩
  · obtain ⟨rfl, n, hn⟩ := mem_callUnlessEmpty h
    exact ⟨"groups", rfl, not_mem_of_mem_watched hn⟩
  · obtain ⟨rfl, n, hn⟩ := mem_callUnlessEmpty h
    exact ⟨"categories", rfl, not_mem_of_mem_watched hn⟩
  · obtain ⟨rfl, n, hn⟩ := mem_callUnlessEmpty h
    exact ⟨"categories", rfl, not_mem_of_mem_watched hn⟩
  · refine ⟨"macros", rfl, fun hi => ?_⟩
    simp only [between, if_pos (List.contains_iff_mem.2 hi)] at hm
    cases hm
  · refine ⟨"macros", rfl, fun hi => ?_⟩
    simp only [between, if_pos (List.contains_iff_mem.2 hi)] at hm
    cases hm

/-- A plan has calls unless there is nothing to change. -/
theorem calls_eq_nil_iff (plan : ServicePlan) (host name : String) :
    plan.calls host name = [] ↔ plan.isDiff = false := by
  have hlist (names : List String) (d : RemoteCall) :
      callUnlessEmpty names d = [] ↔ names = [] := by
    rcases names with _ | _ <;> simp [callUnlessEmpty]
  simp only [calls, listCalls, List.append_eq_nil_iff, scalarCalls_eq_nil_iff, hlist,
    List.map_eq_nil_iff, Option.toList_eq_nil_iff, isDiff, Bool.or_eq_false_iff,
    Bool.not_eq_false', Option.isSome_eq_false_iff, Option.isNone_iff_eq_none, List.isEmpty_iff]
  tauto

end ServicePlan

/-! ## Lookups -/

/-- What a lookup of a service was told, if it did not fail. -/
def serviceReply? : RemoteExchange → Option (Option RemoteService)
  | ⟨.getService _ _, .ok found⟩ => some found
  | _ => none

/-- Only lookups that did not fail were told about a service. -/
private lemma kind_of_serviceReply? {e : RemoteExchange} {r : Option RemoteService}
    (h : serviceReply? e = some r) : e.call.kind = .lookup ∧ e.Succeeded := by
  rcases e with ⟨c, a⟩
  cases c with
  | getService host name =>
    rcases a with f | r
    · cases h
    · exact ⟨rfl, rfl⟩
  | _ => cases h

/-- A single lookup of a service. -/
private lemma looksUp_getService (host name : String) :
    LooksUp serviceReply? (Remote.call (.getService host name)) [.getService host name] := by
  intro σ answer s
  rw [exchanges_call, InMemoryPlatform.exec_call]
  rcases answer (.getService host name) s with ⟨e | _ | x, t⟩
  · exact .failed _ _ e
  · exact .next (e := ⟨.getService host name, .ok none⟩) rfl .nothing
  · exact .found (e := ⟨.getService host name, .ok (some x)⟩) [] rfl

/-! ## Synchronizations -/

/-- What the synchronization of the service last known as `host` and `name` may do. -/
def ServiceSpec.parts (spec : ServiceSpec) (host name : String) :
    SyncParts RemoteService ServicePlan where
  lookups := [.getService host name] ++
    if host = spec.toRemote.host && name = spec.toRemote.name then []
    else [.getService spec.toRemote.host spec.toRemote.name]
  reply? := serviceReply?
  addition := .addService spec.toRemote.host spec.toRemote.name spec.toRemote.template
  completion := spec.toRemote.completion.calls spec.toRemote.host spec.toRemote.name
  plan ignored actual := .between actual spec.toRemote ignored
  isDiff := ServicePlan.isDiff
  changes plan actual := plan.calls actual.host actual.name
  kind_of_reply? := kind_of_serviceReply?
  kind_of_mem_lookups c hc := by
    rw [List.mem_append, List.mem_singleton, List.mem_ite_nil_left, List.mem_singleton] at hc
    rcases hc with rfl | ⟨-, rfl⟩ <;> rfl
  kind_addition := rfl
  kind_of_mem_completion c hc := by
    obtain ⟨f, hf, -⟩ := ServicePlan.exists_field_of_mem_calls hc
    exact RemoteCall.kind_of_field? hf
  isDiff_eq_false_iff plan actual := (plan.calls_eq_nil_iff actual.host actual.name).symm
  exists_field _ _ _ hc := ServicePlan.exists_field_of_mem_calls hc

/-- Every synchronization of a service takes one of the courses. -/
theorem ServiceSpec.course_sync (spec : ServiceSpec) (host name : String) (policy : Policy) :
    (spec.parts host name).Course policy
      (Program.exchanges answer (spec.sync host name policy) s)
      (Program.exec answer (spec.sync host name policy) s).1 := by
  rw [ServiceSpec.sync_eq]
  refine (spec.parts host name).course ?_ ?_ policy answer s
  · rw [findService_eq]
    exact (looksUp_getService host name).lookUp (looksUp_getService _ _) _
  · rw [RemoteService.create_eq]
    rfl

/-- Every removal of a service takes one of the courses. -/
theorem removal_removeService (host name : String) (policy : Policy) :
    Removal serviceReply? (.getService host name) (.deleteService host name) policy
      (Program.exchanges answer (removeService host name policy) s)
      (Program.exec answer (removeService host name policy) s).1 := by
  have hdelete : Remote.call (.deleteService host name) =
      Remote.performAll [.deleteService host name] :=
    (bind_pure_unit (x := Remote.call (.deleteService host name))).symm.trans
      (Remote.performAll_singleton _).symm
  have hwork : removeService host name policy =
      Remote.call (.getService host name) >>=
        withdraw policy (Remote.performAll [.deleteService host name]) := by
    rw [removeService, hdelete]
    congr 1
    funext found
    rcases found with _ | found <;> rfl
  rw [hwork]
  exact removal_of_looksUp (looksUp_getService host name) policy answer s

end MonitorSync
