import MonitorSync.Proofs.Group.Pass
import MonitorSync.Proofs.Operator.Managed
import MonitorSync.Proofs.Service.Pass
set_option autoImplicit false

/-!
# Cleaning up

Cleaning up looks a service up by the identity that its status records. A pass looks it up by the
wanted identity as well.

## Main definitions

* `Operator.cleanUp` — cleaning up after a service or a group.

## Main results

* `exec_removeService`, `exec_removeGroup` — removal by one identity.
* `cleanup_removes_iff` — what a pass would find is removed exactly if it has the recorded identity.
* `cleanup_leaves_renamed` — a service that was renamed before its status was written stays.
-/

namespace MonitorSync

open InMemoryPlatform

/-! ## Removal -/

section Removal

variable {policy : Policy} {p : InMemoryPlatform} {host name : String}

/-- Removal is a lookup and a guarded call. -/
lemma strict_removeService : Strict (removeService host name policy) := by
  refine (Strict.call _).bind fun found => ?_
  rcases found with _ | found
  · exact .pure _
  · exact .guard (.call _)

/-- Removal is a lookup and a guarded call. -/
lemma strict_removeGroup : Strict (removeGroup name policy) := by
  refine (Strict.call _).bind fun found => ?_
  rcases found with _ | found
  · exact .pure _
  · exact .guard (.call _)

/-- Where nothing is found, there is nothing to take away. -/
private lemma filter_not_eq_self {α : Type} {l : List α} {q : α → Bool} (h : l.find? q = none) :
    l.filter (fun x => !q x) = l :=
  List.filter_eq_self.2 fun x hx => by simpa using List.find?_eq_none.1 h x hx

/-- Removing a service takes those of its identity from an ideal platform. -/
theorem exec_removeService (hallowed : policy.noDelete = false) :
    Program.exec idealAnswer (removeService host name policy) p =
      (.ok .done, ⟨p.services.filter fun s => !isService host name s, p.groups⟩) := by
  rw [removeService, Program.exec_bind, exec_call]
  simp only [idealAnswer, collides, keyedAnswer, answer]
  rcases hfound : p.service? host name with _ | found
  · rw [filter_not_eq_self hfound]
    rfl
  · simp only [Policy.delete, hallowed]
    rfl

/-- Removing a group takes those of its name from an ideal platform. -/
theorem exec_removeGroup (hallowed : policy.noDelete = false) :
    Program.exec idealAnswer (removeGroup name policy) p =
      (.ok .done, ⟨p.services, p.groups.filter fun g => !isGroup name g⟩) := by
  rw [removeGroup, Program.exec_bind, exec_call]
  simp only [idealAnswer, collides, keyedAnswer, answer]
  rcases hfound : p.group? name with _ | found
  · rw [filter_not_eq_self hfound]
    rfl
  · simp only [Policy.delete, hallowed]
    rfl

end Removal

/-! ## Cleaning up -/

/-- Removes something from its platform, and tells about it. If the platform is gone, then so is
what was there. -/
def Operator.cleanUp {Client : Type} (platformRef : String) (removal : Remote Guarded)
    (publish : Operator Client Unit) : Operator Client Action := do
  match (← getThe (Registry Client)).get platformRef with
  | .error (.platformNotFound _) => return .awaitChange
  | .error e => throw (.common e)
  | .ok entry =>
    let removed ← Operator.onPlatform entry.client removal
    if (← Operator.ofResult removed) = .done then publish
    return .awaitChange

section CleanUp

variable {Client : Type} {b : Behaviour} {registry : Registry Client}
  {entry : PlatformEntry Client} {p q : InMemoryPlatform} {action : Action}
  {requests : List ApiRequest}

lemma MonitoredService.cleanup_eq (s : MonitoredService) :
    (s.cleanup : Operator Client Action) = Operator.cleanUp s.platformRef
      (removeService s.identity.1 s.identity.2 s.spec.policy)
      (s.publishRemoval s.identity.1 s.identity.2) := rfl

lemma MonitoredGroup.cleanup_eq (g : MonitoredGroup) :
    (g.cleanup : Operator Client Action) = Operator.cleanUp g.platformRef
      (removeGroup g.remoteName g.spec.policy) (g.publishRemoval g.remoteName) := rfl

/-- **What cleaning up does.** Where it succeeds, so did the removal, and nothing else changed the
platform. -/
theorem exec_removal_of_cleanUp {ref : String} {removal : Remote Guarded}
    {publish : Operator Client Unit} (hquiet : Quiet b publish)
    (hentry : registry.get ref = .ok entry)
    (h : b.run (Operator.cleanUp ref removal publish) registry p = (.ok action, requests, q)) :
    ∃ g calls, Program.exec (Run.idealAnswer b.failing) removal ⟨[], p⟩ = (.ok g, ⟨calls, q⟩) := by
  rcases hr : Operator.exec b.answer (Operator.cleanUp ref removal publish) registry ⟨⟨[], p⟩, []⟩
    with ⟨⟨result, r'⟩, w'⟩
  rw [Behaviour.run, hr] at h
  cases h
  rw [Operator.cleanUp, Operator.exec_bind, Operator.exec_registry] at hr
  dsimp only at hr
  rw [hentry] at hr
  dsimp only at hr
  rw [Operator.exec_bind, b.exec_onPlatform] at hr
  rcases hremoval : Program.exec (Run.idealAnswer b.failing) removal ⟨[], p⟩ with ⟨e | g, run⟩
  · rw [hremoval] at hr
    cases hr
  · rw [hremoval] at hr
    dsimp only at hr
    rw [Operator.exec_bind, Operator.exec_ofResult_ok] at hr
    dsimp only at hr
    have hrest : Quiet b ((do
        if g = .done then publish
        return .awaitChange) : Operator Client Action) := by
      split
      · exact hquiet.bind fun _ => .pure _
      · exact .pure _
    have hrun := hrest registry ⟨run, []⟩
    rw [show Operator.exec b.answer _ registry ⟨run, []⟩ = _ from hr] at hrun
    have hw : w'.run = run := hrun
    exact ⟨g, run.calls, by rw [hw]⟩

/-- Telling about a removal is quiet, also where it fails. -/
private lemma Quiet.run {work : Operator Client Unit} (h : Quiet b work) :
    Quiet b (do let _ ← ExceptT.lift (ExceptT.run work) : Operator Client Unit) := by
  refine Quiet.bind (fun r w => ?_) fun _ => .pure _
  rw [Operator.exec_run]
  exact h r w

end CleanUp

/-! ## What a pass would find -/

section Found

variable {p : InMemoryPlatform} {host name : String}

/-- What is located is on the platform. -/
private lemma mem_of_located {x expected : RemoteService}
    (h : p.located host name expected = some x) : x ∈ p.services := by
  rcases Option.or_eq_some_iff.1 h with h | ⟨-, h⟩
  · exact List.mem_of_find?_eq_some h
  · exact List.mem_of_find?_eq_some h

/-- A group that is located is on the platform. -/
private lemma mem_of_locatedGroup {x expected : RemoteGroup}
    (h : p.locatedGroup name expected = some x) : x ∈ p.groups := by
  rcases Option.or_eq_some_iff.1 h with h | ⟨-, h⟩
  · exact List.mem_of_find?_eq_some h
  · exact List.mem_of_find?_eq_some h

/-- Without the elements of one key, those of another are found as before. -/
private lemma find?_filter_not {α κ : Type} {l : List α} (isKey : κ → α → Bool)
    {key : α → κ} (hkey : ∀ i t, isKey i t ↔ key t = i) {i : κ} {t : α} (ht : t ∈ l) :
    (l.filter fun u => !isKey i u).find? (isKey (key t)) = none ↔ key t = i := by
  rw [List.find?_eq_none]
  constructor
  · intro h
    by_contra hne
    have hnot : isKey i t = false := Bool.eq_false_iff.2 (mt (hkey i t).1 hne)
    exact h t (List.mem_filter.2 ⟨ht, by rw [hnot]; rfl⟩) ((hkey _ _).2 rfl)
  · rintro rfl u hu hu'
    have hnot := (List.mem_filter.1 hu).2
    simp [hu'] at hnot

end Found

/-! ## Main result -/

section Main

variable {Client : Type} {b : Behaviour} {registry : Registry Client}
  {entry : PlatformEntry Client} {p q : InMemoryPlatform} {action : Action}
  {requests : List ApiRequest}

/-- **What cleaning up removes.** Take a service that a pass would find on an ideal platform, by the
identity that the status records or by the one wanted. After cleaning up succeeded, where deletion
is allowed and the platform is registered, it is gone exactly if it was found by the recorded
identity. The same holds for groups.

**Proof sketch.** Cleaning up removes what has the recorded identity, and nothing else. -/
theorem cleanup_removes_iff :
    (∀ (s : MonitoredService) (x : RemoteService), registry.get s.platformRef = .ok entry →
      s.spec.policy.noDelete = false →
      (Program.exec idealAnswer (findService s.identity.1 s.identity.2 s.spec.toRemote) p).1 =
        .ok (some x) →
      b.run s.cleanup registry p = (.ok action, requests, q) →
      (q.service? x.host x.name = none ↔ x.identity = s.identity)) ∧
    (∀ (g : MonitoredGroup) (x : RemoteGroup), registry.get g.platformRef = .ok entry →
      g.spec.policy.noDelete = false →
      (Program.exec idealAnswer (findGroup g.remoteName g.spec.toRemote) p).1 = .ok (some x) →
      b.run g.cleanup registry p = (.ok action, requests, q) →
      (q.group? x.name = none ↔ x.name = g.remoteName)) := by
  constructor
  · intro s x hentry hallowed hfound h
    rw [MonitoredService.cleanup_eq] at h
    obtain ⟨result, calls, hremoval⟩ := exec_removal_of_cleanUp (Quiet.publish _ _).run hentry h
    have hideal := strict_removeService.ideal (Run.faulty_idealAnswer b.failing) hremoval
    rw [exec_removeService hallowed] at hideal
    have hservices := congrArg (fun r => r.2.services) hideal
    rw [exec_findService] at hfound
    rw [service?, ← show _ = q.services from hservices]
    exact find?_filter_not (fun i : String × String => isService i.1 i.2) (fun _ => isService_iff)
      (mem_of_located (Except.ok.inj hfound))
  · intro g x hentry hallowed hfound h
    rw [MonitoredGroup.cleanup_eq] at h
    obtain ⟨result, calls, hremoval⟩ := exec_removal_of_cleanUp (Quiet.publish _ _).run hentry h
    have hideal := strict_removeGroup.ideal (Run.faulty_idealAnswer b.failing) hremoval
    rw [exec_removeGroup hallowed] at hideal
    have hgroups := congrArg (fun r => r.2.groups) hideal
    rw [exec_findGroup] at hfound
    rw [group?, ← show _ = q.groups from hgroups]
    exact find?_filter_not isGroup (fun _ => isGroup_iff)
      (mem_of_locatedGroup (Except.ok.inj hfound))

end Main

/-! ### Two runs -/

/-- A service last known as `old` that shall be called `new`, and is to be deleted. -/
def MonitoredService.leaving : MonitoredService where
  metadata := { name := some "web", ns := some "prod" }
  spec := { host := "central", name := "new", template := "generic" }
  status := some ⟨some "central", some "old", []⟩

/-- A group last known as `old` that shall be called `new`, and is to be deleted. -/
def MonitoredGroup.leaving : MonitoredGroup where
  metadata := { name := some "web", ns := some "prod" }
  spec := { name := "new", description := "Web servers" }
  status := some ⟨some "old", []⟩

/-- A platform with one service and one group of a name. -/
def InMemoryPlatform.holding (name : String) : InMemoryPlatform :=
  ⟨[{ host := "central", name := name }], [{ name := name }]⟩

/-- A service and a group that still have their old names are removed. -/
theorem cleanup_removes_iff_old :
    (∃ requests q, Behaviour.calm.run MonitoredService.leaving.cleanup .single (holding "old") =
        (.ok .awaitChange, requests, q) ∧ q.service? "central" "old" = none) ∧
    (∃ requests q, Behaviour.calm.run MonitoredGroup.leaving.cleanup .single (holding "old") =
        (.ok .awaitChange, requests, q) ∧ q.group? "old" = none) := by
  constructor
  · have hrun : Behaviour.calm.run MonitoredService.leaving.cleanup .single (holding "old") =
        (.ok .awaitChange, _, _) := Prod.ext (by decide +kernel) rfl
    exact ⟨_, _, hrun, (cleanup_removes_iff.1 MonitoredService.leaving
      { host := "central", name := "old" } rfl rfl (by decide +kernel) hrun).2 rfl⟩
  · have hrun : Behaviour.calm.run MonitoredGroup.leaving.cleanup .single (holding "old") =
        (.ok .awaitChange, _, _) := Prod.ext (by decide +kernel) rfl
    exact ⟨_, _, hrun, (cleanup_removes_iff.2 MonitoredGroup.leaving { name := "old" } rfl rfl
      (by decide +kernel) hrun).2 rfl⟩

/-- A service and a group that were renamed before a status could be written would be found by a
pass, and stay when they are cleaned up after. -/
theorem cleanup_leaves_renamed :
    (Program.exec idealAnswer (findService "central" "old"
        MonitoredService.leaving.spec.toRemote) (holding "new")).1 =
      .ok (some { host := "central", name := "new" }) ∧
    (Behaviour.calm.run MonitoredService.leaving.cleanup .single (holding "new")).1 =
      .ok .awaitChange ∧
    (Behaviour.calm.run MonitoredService.leaving.cleanup .single (holding "new")).2.2 =
      holding "new" ∧
    (Program.exec idealAnswer (findGroup "old" MonitoredGroup.leaving.spec.toRemote)
        (holding "new")).1 = .ok (some { name := "new" }) ∧
    (Behaviour.calm.run MonitoredGroup.leaving.cleanup .single (holding "new")).1 =
      .ok .awaitChange ∧
    (Behaviour.calm.run MonitoredGroup.leaving.cleanup .single (holding "new")).2.2 =
      holding "new" := by
  decide +kernel

end MonitorSync
