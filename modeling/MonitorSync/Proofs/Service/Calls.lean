import MonitorSync.Proofs.Plan.Lists
import MonitorSync.Proofs.Plan.Scalars
import MonitorSync.Service.Sync
set_option autoImplicit false

/-!
# Carrying out the plan of a service

The calls of a plan, and what they make of the service.

## Main definitions

* `ServicePlan.calls` — the calls that carry out a plan.
* `ServicePlan.Achieved` — a service is what a plan makes of another one.
* `ServicePlan.Passes` — the identities that a service may have while a plan is carried out.

## Main results

* `ServicePlan.apply_eq_performAll` — carrying out a plan is making its calls.
* `ServicePlan.changeAll?_calls` — the calls of a plan apply to the service and achieve the plan.
* `ServicePlan.passes_of_changeAll?` — where the service can be while a plan is carried out.
-/

namespace MonitorSync

open InMemoryPlatform

/-- A call, if its list is not empty. -/
def callUnlessEmpty (names : List String) (c : RemoteCall) : List RemoteCall :=
  if names.isEmpty then [] else [c]

namespace ServicePlan

/-- The calls that change the lists and macros of a service. -/
def listCalls (plan : ServicePlan) (host name : String) : List RemoteCall :=
  callUnlessEmpty plan.groupsToSet (.setServiceGroups host name plan.groupsToSet) ++
  callUnlessEmpty plan.groupsToDelete (.deleteServiceGroups host name plan.groupsToDelete) ++
  callUnlessEmpty plan.categoriesToSet
    (.setServiceCategories host name plan.categoriesToSet) ++
  callUnlessEmpty plan.categoriesToDelete
    (.deleteServiceCategories host name plan.categoriesToDelete) ++
  plan.macrosToSet.map (.setServiceMacro host name ·) ++
  plan.macrosToDelete.map fun m => .deleteServiceMacro host name m.name

/-- The calls that carry out a plan on the service known as `host` and `name`. -/
def calls (plan : ServicePlan) (host name : String) : List RemoteCall :=
  let newName := (plan.params.get? serviceRenameParam).getD name
  scalarCalls (.setServiceParam host) serviceRenameParam plan.params name ++
  plan.host.toList.map (.setServiceHost host newName ·) ++
  plan.listCalls (plan.host.getD host) newName

end ServicePlan

/-! ## Plans as calls -/

/-- Work that is one call, unless its list is empty. -/
lemma unlessEmpty_eq_performAll (names : List String) {c : RemoteCall} {work : Remote Unit}
    (h : work = Remote.perform c) :
    unlessEmpty names work = Remote.performAll (callUnlessEmpty names c) := by
  subst h
  rw [unlessEmpty, callUnlessEmpty]
  split
  · rfl
  · rw [Remote.performAll_singleton]

namespace ServicePlan

variable (plan : ServicePlan) (host name : String)

/-- Changing the lists and macros is making the calls for them. -/
private lemma performAll_listCalls :
    Remote.performAll (plan.listCalls host name) = (do
      unlessEmpty plan.groupsToSet (Remote.call (.setServiceGroups host name plan.groupsToSet))
      unlessEmpty plan.groupsToDelete
        (Remote.call (.deleteServiceGroups host name plan.groupsToDelete))
      unlessEmpty plan.categoriesToSet
        (Remote.call (.setServiceCategories host name plan.categoriesToSet))
      unlessEmpty plan.categoriesToDelete
        (Remote.call (.deleteServiceCategories host name plan.categoriesToDelete))
      plan.macrosToSet.forM fun m => Remote.call (.setServiceMacro host name m)
      plan.macrosToDelete.forM fun m => Remote.call (.deleteServiceMacro host name m.name)) := by
  have hunit (x : Remote Unit) : x = (x >>= fun _ => pure ()) := bind_pure_unit.symm
  rw [listCalls]
  simp only [Remote.performAll_append, bind_assoc]
  rw [← unlessEmpty_eq_performAll plan.groupsToSet (hunit _),
    ← unlessEmpty_eq_performAll plan.groupsToDelete (hunit _),
    ← unlessEmpty_eq_performAll plan.categoriesToSet (hunit _),
    ← unlessEmpty_eq_performAll plan.categoriesToDelete (hunit _),
    ← forM_eq_performAll (RemoteCall.setServiceMacro host name) (fun _ => hunit _),
    ← forM_eq_performAll (fun m : ServiceMacro => RemoteCall.deleteServiceMacro host name m.name)
      (fun _ => hunit _)]

/-- Carrying out a plan is making its calls. -/
theorem apply_eq_performAll :
    plan.apply host name = Remote.performAll (plan.calls host name) := by
  have hunit (x : Remote Unit) : x = (x >>= fun _ => pure ()) := bind_pure_unit.symm
  rw [calls, scalarCalls]
  simp only [Remote.performAll_append, performAll_listCalls, bind_assoc]
  rw [← forM_eq_performAll (RemoteCall.setServiceParam host name serviceRenameParam)
      (fun _ => hunit _),
    ← forM_eq_performAll (fun e : String × String => RemoteCall.setServiceParam host
      ((plan.params.get? serviceRenameParam).getD name) e.1 e.2) (fun _ => hunit _),
    ← forM_eq_performAll (RemoteCall.setServiceHost host
      ((plan.params.get? serviceRenameParam).getD name)) (fun _ => hunit _)]
  rw [ServicePlan.apply, forM_toList_bind, forM_toList_bind]
  rcases plan.params.get? serviceRenameParam with _ | newName <;>
    rcases plan.host with _ | newHost <;> rfl

end ServicePlan

/-! ## The effect of a plan -/

section Effect

variable {k : Slot RemoteService} {gs : List RemoteGroup} {x : RemoteService}

/-- Setting the parameter of a scalar gives it its value and changes nothing else. -/
lemma RemoteService.exists_setParam? {s : Scalar RemoteService} (hs : s ∈ serviceScalars)
    (x : RemoteService) (value : String) :
    ∃ y, x.setParam? s.param value = some y ∧ s.read y = value ∧
      (y.host = x.host ∧ y.groups = x.groups ∧ y.categories = x.categories ∧
        y.macros = x.macros) ∧
      ∀ t ∈ serviceScalars, t.param ≠ s.param → t.read y = t.read x := by
  simp only [serviceScalars, List.mem_cons, List.not_mem_nil, or_false] at hs
  rcases hs with rfl | rfl | rfl | rfl | rfl | rfl | rfl | rfl | rfl | rfl | rfl
  all_goals
    refine ⟨_, rfl, rfl, ⟨rfl, rfl, rfl, rfl⟩, ?_⟩
    simp [serviceScalars, serviceRenameParam]

/-- The scalars of a service are set one by one, with its host, lists and macros at rest. -/
lemma settable_serviceScalars (k : Slot RemoteService) (gs : List RemoteGroup)
    (actual : RemoteService) :
    Settable (serviceStage k gs) serviceScalars (.setServiceParam actual.host) serviceRenameParam
      RemoteService.name fun x => x.host = actual.host ∧ x.groups = actual.groups ∧
        x.categories = actual.categories ∧ x.macros = actual.macros where
  params_nodup := by decide
  name_mem := ⟨_, List.mem_cons_self, rfl, rfl⟩
  exists_change {x} hx s hs value := by
    obtain ⟨y, hy, hread, ⟨hhost, hgroups, hcategories, hmacros⟩, hrest⟩ :=
      RemoteService.exists_setParam? hs x value
    refine ⟨y, ?_, ?_, hread, hrest⟩
    · have htarget : (RemoteCall.setServiceParam actual.host x.name s.param value).serviceTarget? =
          some x.identity := by rw [RemoteService.identity, hx.1]; rfl
      simp only [serviceStage, if_pos htarget]
      exact hy
    · rw [hhost, hgroups, hcategories, hmacros]
      exact hx

/-- A call that addresses a service applies to it as it is. -/
private lemma change?_of_target {c : RemoteCall} (h : c.serviceTarget? = some x.identity) :
    (serviceStage k gs).change? c x = c.changeService? x := if_pos h

/-- A list of calls that is empty or one call changes the service as that call does. -/
private lemma changeAll?_callUnlessEmpty {names : List String} {c : RemoteCall}
    {y : RemoteService} (htarget : c.serviceTarget? = some x.identity)
    (hy : c.changeService? x = some y) (hempty : names = [] → y = x) :
    (serviceStage k gs).changeAll? (callUnlessEmpty names c) x = some y := by
  rw [callUnlessEmpty]
  split
  · next h => rw [hempty (List.isEmpty_iff.1 h)]; rfl
  · rw [Stage.changeAll?_cons, change?_of_target htarget, hy]
    rfl

private lemma changeAll?_setMacros (ms : List ServiceMacro) (x : RemoteService) :
    (serviceStage k gs).changeAll? (ms.map (.setServiceMacro x.host x.name ·)) x =
      some { x with macros := setMacros ms x.macros } := by
  induction ms generalizing x with
  | nil => rfl
  | cons m ms ih =>
    rw [List.map_cons, Stage.changeAll?_cons, change?_of_target rfl]
    exact ih _

private lemma changeAll?_deleteMacros (ms : List ServiceMacro) (x : RemoteService) :
    (serviceStage k gs).changeAll?
        (ms.map fun m => .deleteServiceMacro x.host x.name m.name) x =
      some { x with macros := deleteMacros ms x.macros } := by
  induction ms generalizing x with
  | nil => rfl
  | cons m ms ih =>
    rw [List.map_cons, Stage.changeAll?_cons, change?_of_target rfl]
    exact ih _

/-- Setting a parameter leaves the macros. -/
private lemma RemoteService.macros_of_setParam? {param value : String} {y : RemoteService}
    (h : x.setParam? param value = some y) : y.macros = x.macros := by
  unfold RemoteService.setParam? at h
  split at h
  all_goals first | (cases h; rfl) | cases h

/-- A call keeps the names of macros apart. -/
private lemma nodup_macros_of_changeService? {c : RemoteCall} {y : RemoteService}
    (hn : (macroNames x.macros).Nodup) (h : c.changeService? x = some y) :
    (macroNames y.macros).Nodup := by
  cases c with
  | setServiceParam => rwa [RemoteService.macros_of_setParam? h]
  | setServiceMacro host name m =>
    cases h
    exact nodup_putMacro hn _
  | deleteServiceMacro host name macroName =>
    cases h
    exact hn.sublist (List.filter_sublist.map _)
  | _ => cases h <;> exact hn

/-- Calls keep the names of macros apart. -/
theorem nodup_macros_of_changeAll? {calls : List RemoteCall} {y : RemoteService}
    (hn : (macroNames x.macros).Nodup)
    (h : (serviceStage k gs).changeAll? calls x = some y) : (macroNames y.macros).Nodup := by
  induction calls generalizing x with
  | nil =>
    obtain rfl : x = y := by simpa using h
    exact hn
  | cons c calls ih =>
    obtain ⟨w, hw, hy⟩ := Option.bind_eq_some_iff.1 (Stage.changeAll?_cons.symm.trans h)
    exact ih (nodup_macros_of_changeService? hn (Option.ite_none_right_eq_some.1 hw).2) hy

namespace ServicePlan

/-- A service is what a plan makes of another one. -/
structure Achieved (plan : ServicePlan) (actual : RemoteService) (result : RemoteService) :
    Prop where
  scalars : ∀ s ∈ serviceScalars,
    s.read result = (plan.params.get? s.param).getD (s.read actual)
  host : result.host = plan.host.getD actual.host
  groups : result.groups =
    removeNames (addNames actual.groups plan.groupsToSet) plan.groupsToDelete
  categories : result.categories =
    removeNames (addNames actual.categories plan.categoriesToSet) plan.categoriesToDelete
  macros : result.macros =
    deleteMacros plan.macrosToDelete (setMacros plan.macrosToSet actual.macros)

variable {plan : ServicePlan} {actual result : RemoteService}

/-- The name after a plan. -/
lemma Achieved.name (h : plan.Achieved actual result) :
    result.name = (plan.params.get? serviceRenameParam).getD actual.name :=
  h.scalars ⟨"name", serviceRenameParam, RemoteService.name⟩ List.mem_cons_self

/-- A service with its lists and macros as a plan makes them. -/
private def withLists (plan : ServicePlan) (x : RemoteService) : RemoteService :=
  { x with
    groups := removeNames (addNames x.groups plan.groupsToSet) plan.groupsToDelete
    categories := removeNames (addNames x.categories plan.categoriesToSet) plan.categoriesToDelete
    macros := deleteMacros plan.macrosToDelete (setMacros plan.macrosToSet x.macros) }

/-- Neither a move nor a change of lists touches a scalar. -/
private lemma read_withLists (plan : ServicePlan) (x : RemoteService) (host : String) :
    ∀ s ∈ serviceScalars, s.read (plan.withLists { x with host := host }) = s.read x := by
  simp [serviceScalars, withLists]

/-- The calls for lists and macros change these alone. -/
private lemma changeAll?_listCalls (plan : ServicePlan) (x : RemoteService) :
    (serviceStage k gs).changeAll? (plan.listCalls x.host x.name) x = some (plan.withLists x) := by
  simp only [listCalls, Stage.changeAll?_append]
  rw [changeAll?_callUnlessEmpty rfl rfl fun h => by simp [h], Option.bind_some,
    changeAll?_callUnlessEmpty rfl rfl fun h => by simp [h], Option.bind_some,
    changeAll?_callUnlessEmpty rfl rfl fun h => by simp [h], Option.bind_some,
    changeAll?_callUnlessEmpty rfl rfl fun h => by simp [h], Option.bind_some]
  exact (congrArg (Option.bind · _) (changeAll?_setMacros _ _)).trans (changeAll?_deleteMacros _ _)

/-- The call for a move changes the host alone. -/
private lemma changeAll?_setServiceHost (newHost : Option String) (x : RemoteService) :
    (serviceStage k gs).changeAll? (newHost.toList.map (.setServiceHost x.host x.name ·)) x =
      some { x with host := newHost.getD x.host } := by
  rcases newHost with _ | newHost
  · rfl
  · rw [Option.toList_some, List.map_cons, Stage.changeAll?_cons, change?_of_target rfl]
    rfl

/-- **The effect of a plan.** The calls of a plan apply to the service one after the other and
achieve the plan.

**Proof sketch.** The scalars are set first, where the service is found under its new name as soon
as it is renamed. The move gives it its new host, and the lists and macros are changed there. -/
theorem changeAll?_calls (hinc : plan.params.Increasing)
    (hmem : ∀ p ∈ plan.params.keys, p ∈ serviceScalars.map Scalar.param)
    (actual : RemoteService) :
    ∃ result, (serviceStage k gs).changeAll? (plan.calls actual.host actual.name) actual =
      some result ∧ plan.Achieved actual result := by
  obtain ⟨x, hx, ⟨hhost, hgroups, hcategories, hmacros⟩, hreads⟩ :=
    (settable_serviceScalars k gs actual).changeAll?_scalarCalls hinc hmem ⟨rfl, rfl, rfl, rfl⟩
  have hname : x.name = (plan.params.get? serviceRenameParam).getD actual.name :=
    hreads ⟨"name", serviceRenameParam, RemoteService.name⟩ List.mem_cons_self
  refine ⟨plan.withLists { x with host := plan.host.getD x.host }, ?_, ?_⟩
  · rw [calls, Stage.changeAll?_append, Stage.changeAll?_append, hx, Option.bind_some, ← hname,
      ← hhost, changeAll?_setServiceHost, Option.bind_some]
    exact changeAll?_listCalls plan _
  · refine ⟨fun s hs => ?_, congrArg plan.host.getD hhost, ?_, ?_, ?_⟩
    · rw [read_withLists plan x _ s hs, hreads s hs]
    · rw [← hgroups]
      rfl
    · rw [← hcategories]
      rfl
    · rw [← hmacros]
      rfl

/-! ## Where the service is on the way -/

/-- Every call of a plan addresses the service under its old host and name, its old host and new
name, or its new host and name. -/
theorem target_of_mem_calls {host name : String} {c : RemoteCall}
    (hc : c ∈ plan.calls host name) :
    c.serviceTarget? = some (host, name) ∨
      c.serviceTarget? = some (host, (plan.params.get? serviceRenameParam).getD name) ∨
      c.serviceTarget? =
        some (plan.host.getD host, (plan.params.get? serviceRenameParam).getD name) := by
  simp only [calls, scalarCalls, listCalls, callUnlessEmpty, List.mem_append, List.mem_map,
    List.mem_ite_nil_left, List.mem_singleton] at hc
  rcases hc with ((⟨_, _, rfl⟩ | ⟨_, _, rfl⟩) | ⟨_, _, rfl⟩) |
    (((((⟨_, rfl⟩ | ⟨_, rfl⟩) | ⟨_, rfl⟩) | ⟨_, rfl⟩) | ⟨_, _, rfl⟩) | ⟨_, _, rfl⟩)
  · exact .inl rfl
  · exact .inr (.inl rfl)
  · exact .inr (.inl rfl)
  all_goals exact .inr (.inr rfl)

/-- The identities that a service may have while a plan is carried out. -/
def Passes (plan : ServicePlan) (actual : RemoteService) (i : String × String) : Prop :=
  i = actual.identity ∨
    i = (actual.host, (plan.params.get? serviceRenameParam).getD actual.name) ∨
    i = (plan.host.getD actual.host, (plan.params.get? serviceRenameParam).getD actual.name)

/-- **On the way.** Between two calls of a plan, the service has its old identity, its old host and
its new name, or its new identity.

**Proof sketch.** The next call applies to the service, so it addresses it; and where there is no
next call, the plan is achieved. -/
theorem passes_of_changeAll? (hinc : plan.params.Increasing)
    (hmem : ∀ p ∈ plan.params.keys, p ∈ serviceScalars.map Scalar.param)
    {before : List RemoteCall} (hb : before <+: plan.calls actual.host actual.name)
    (hx : (serviceStage k gs).changeAll? before actual = some x) :
    plan.Passes actual x.identity := by
  obtain ⟨result, hresult, hachieved⟩ : ∃ result, (serviceStage k gs).changeAll?
      (plan.calls actual.host actual.name) actual = some result ∧ plan.Achieved actual result :=
    changeAll?_calls hinc hmem actual
  obtain ⟨after, hafter⟩ := hb
  rw [← hafter, Stage.changeAll?_append, hx, Option.bind_some] at hresult
  rcases after with _ | ⟨c, after⟩
  · obtain rfl : x = result := by simpa using hresult
    exact .inr (.inr (by rw [RemoteService.identity, hachieved.host, hachieved.name]))
  · obtain ⟨y, hy, -⟩ := Option.bind_eq_some_iff.1 (Stage.changeAll?_cons.symm.trans hresult)
    have htarget : c.serviceTarget? = some x.identity :=
      (Option.ite_none_right_eq_some.1 hy).1
    have hc : c ∈ plan.calls actual.host actual.name := by
      rw [← hafter]
      simp
    rcases target_of_mem_calls hc with h | h | h
    · exact .inl (Option.some.inj (htarget.symm.trans h))
    · exact .inr (.inl (Option.some.inj (htarget.symm.trans h)))
    · exact .inr (.inr (Option.some.inj (htarget.symm.trans h)))

end ServicePlan

end Effect

end MonitorSync
