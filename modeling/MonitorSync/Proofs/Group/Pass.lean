import MonitorSync.Group.Sync
import MonitorSync.Proofs.Plan.Scalars
import MonitorSync.Proofs.Remote.Pass
set_option autoImplicit false

/-!
# A pass over a service group

What `GroupSpec.sync` does on an ideal platform, and where it can stop on a faulty one. A group has
scalars only and its key is its name, so all of it is as for the scalars of a service.

## Main definitions

* `GroupPlan.calls` — the calls that carry out a plan.
* `GroupPlan.Achieved` — a group is what a plan makes of another one.
* `InMemoryPlatform.locatedGroup` — the group that the two lookups of a pass find.
* `GroupSpec.Synced` — what a pass that succeeded made of an ideal platform.

## Main results

* `GroupPlan.apply_eq_performAll` — carrying out a plan is making its calls.
* `GroupPlan.exists_changeAll?_between` — the calls of a plan apply to the group and achieve it.
* `GroupSpec.synced_of_exec` — what a pass that succeeded did.
* `Faulty.exec_groupSync_of_located` — a pass over a group that is found leaves all others alone.
-/

namespace MonitorSync

open InMemoryPlatform

/-! ## Plans as calls -/

section Plan

variable {j : Slot RemoteGroup} {ss : List RemoteService} {actual expected result x : RemoteGroup}
  {plan : GroupPlan} {ignored : List String}

/-- Setting the parameter of a scalar gives it its value and changes no other one. -/
private lemma RemoteGroup.exists_setParam? {s : Scalar RemoteGroup} (hs : s ∈ groupScalars)
    (x : RemoteGroup) (value : String) :
    ∃ y, x.setParam? s.param value = some y ∧ s.read y = value ∧
      ∀ t ∈ groupScalars, t.param ≠ s.param → t.read y = t.read x := by
  simp only [groupScalars, List.mem_cons, List.not_mem_nil, or_false] at hs
  rcases hs with rfl | rfl | rfl | rfl
  all_goals
    refine ⟨_, rfl, rfl, ?_⟩
    simp [groupScalars, groupRenameParam]

/-- The scalars of a group are set one by one. -/
private lemma settable_groupScalars (j : Slot RemoteGroup) (ss : List RemoteService) :
    Settable (groupStage j ss) groupScalars .setGroupParam groupRenameParam RemoteGroup.name
      fun _ => True where
  params_nodup := by decide
  name_mem := ⟨_, List.mem_cons_self, rfl, rfl⟩
  exists_change {x} _ s hs value := by
    obtain ⟨y, hy, hread, hrest⟩ := RemoteGroup.exists_setParam? hs x value
    exact ⟨y, (if_pos rfl).trans hy, trivial, hread, hrest⟩

namespace GroupPlan

/-- The calls that carry out a plan on the group known as `name`. -/
def calls (plan : GroupPlan) (name : String) : List RemoteCall :=
  scalarCalls .setGroupParam groupRenameParam plan.params name

/-- Carrying out a plan is making its calls. -/
theorem apply_eq_performAll (plan : GroupPlan) (name : String) :
    plan.apply name = Remote.performAll (plan.calls name) := by
  have hunit (x : Remote Unit) : x = (x >>= fun _ => pure ()) := bind_pure_unit.symm
  rw [calls, scalarCalls]
  simp only [Remote.performAll_append]
  rw [← forM_eq_performAll (RemoteCall.setGroupParam name groupRenameParam) (fun _ => hunit _),
    ← forM_eq_performAll (fun e : String × String => RemoteCall.setGroupParam
      ((plan.params.get? groupRenameParam).getD name) e.1 e.2) (fun _ => hunit _)]
  rw [GroupPlan.apply, forM_toList_bind]
  rcases plan.params.get? groupRenameParam with _ | newName <;> rfl

/-- A group is what a plan makes of another one. -/
def Achieved (plan : GroupPlan) (actual result : RemoteGroup) : Prop :=
  ∀ s ∈ groupScalars, s.read result = (plan.params.get? s.param).getD (s.read actual)

/-- After the plan between two groups, the name is the wanted one, or as it was if it is ignored. -/
theorem Achieved.name_eq (h : (between actual expected ignored).Achieved actual result) :
    result.name = if ignored.contains "name" then actual.name else expected.name :=
  (h ⟨"name", groupRenameParam, RemoteGroup.name⟩ List.mem_cons_self).trans
    (getD_get?_changedParams (by decide) List.mem_cons_self)

/-- The plan between two groups applies to the first and is achieved. -/
theorem exists_changeAll?_between (j : Slot RemoteGroup) (ss : List RemoteService)
    (actual expected : RemoteGroup) (ignored : List String) :
    ∃ result, (groupStage j ss).changeAll?
      ((between actual expected ignored).calls actual.name) actual = some result ∧
        (between actual expected ignored).Achieved actual result := by
  have hinc : (between actual expected ignored).params.Increasing := KeyMap.increasing_ofList
  obtain ⟨result, h, -, hreads⟩ := (settable_groupScalars j ss).changeAll?_scalarCalls hinc
    (fun _ => mem_params_of_mem_changedParams) (x := actual) trivial
  exact ⟨result, h, hreads⟩

/-- Between two calls of a plan, the group has its old name or its new one. -/
theorem name_of_changeAll? (hresult : (groupStage j ss).changeAll? (plan.calls actual.name) actual =
      some result) {before : List RemoteCall} (hb : before <+: plan.calls actual.name)
    (hx : (groupStage j ss).changeAll? before actual = some x) :
    x.name = actual.name ∨ x.name = (plan.params.get? groupRenameParam).getD actual.name ∨
      x.name = result.name := by
  obtain ⟨after, hafter⟩ := hb
  rw [← hafter, Stage.changeAll?_append, hx, Option.bind_some] at hresult
  rcases after with _ | ⟨c, after⟩
  · obtain rfl : x = result := by simpa using hresult
    exact .inr (.inr rfl)
  · obtain ⟨y, hy, -⟩ := Option.bind_eq_some_iff.1 (Stage.changeAll?_cons.symm.trans hresult)
    have htarget : c.groupTarget? = some x.name := (Option.ite_none_right_eq_some.1 hy).1
    have hc : c ∈ plan.calls actual.name := by
      rw [← hafter]
      simp
    simp only [calls, scalarCalls, List.mem_append, List.mem_map] at hc
    rcases hc with ⟨_, _, rfl⟩ | ⟨_, _, rfl⟩
    · exact .inl (Option.some.inj htarget).symm
    · exact .inr (.inl (Option.some.inj htarget).symm)

end GroupPlan

end Plan

/-! ## The parts of a pass -/

/-- The group that is found under the name it was last known by, or else under the one wanted. -/
def InMemoryPlatform.locatedGroup (p : InMemoryPlatform) (name : String)
    (expected : RemoteGroup) : Option RemoteGroup :=
  (p.group? name).or (p.group? expected.name)

/-- The group right after it was added. -/
def RemoteGroup.added (expected : RemoteGroup) : RemoteGroup :=
  { name := expected.name, description := expected.description }

/-- The plan that completes a group that was added. -/
def RemoteGroup.completion (expected : RemoteGroup) : GroupPlan :=
  .between expected.added expected []

/-- What a pass makes of a group that it found. -/
def GroupSpec.change (spec : GroupSpec) (policy : Policy) (actual : RemoteGroup) :
    GroupPlan × Bool × Remote Unit :=
  let plan := GroupPlan.between actual spec.toRemote policy.excludeFields
  (plan, plan.isDiff, Remote.performAll (plan.calls actual.name))

/-- A pass looks the group up and settles on what it found. -/
lemma GroupSpec.sync_eq (spec : GroupSpec) (name : String) (policy : Policy) :
    spec.sync name policy =
      findGroup name spec.toRemote >>= fun found =>
        settle policy spec.toRemote.create (found.map (spec.change policy)) := by
  rw [sync]
  dsimp only
  congr 1
  funext found
  rcases found with _ | actual
  · rfl
  · simp only [GroupPlan.apply_eq_performAll]
    rfl

/-- Adding a group is a call and the calls that complete it. -/
lemma RemoteGroup.create_eq (expected : RemoteGroup) :
    expected.create =
      Remote.perform (.addGroup expected.name expected.description) >>= fun _ =>
        Remote.performAll (expected.completion.calls expected.name) := by
  rw [← GroupPlan.apply_eq_performAll]
  change _ = (Remote.call (.addGroup expected.name expected.description) >>=
    fun _ => pure ()) >>= fun _ => _
  rw [bind_pure_unit]
  rfl

section Lookup

variable {σ : Type} {answer : (c : RemoteCall) → σ → c.Answer × σ} {view : σ → InMemoryPlatform}
  {mayFail : Prop}

lemma findGroup_eq (name : String) (expected : RemoteGroup) :
    findGroup name expected =
      lookUp (Remote.call (.getGroup name)) (name = expected.name)
        (Remote.call (.getGroup expected.name)) := by
  rw [findGroup, lookUp]
  congr 1
  funext found
  rcases found with _ | found
  · simp
  · rfl

/-- Looking a group up changes nothing, and finds it by its last or its wanted name. -/
theorem Faulty.reads_findGroup (hf : Faulty answer view) (name : String) (expected : RemoteGroup)
    (hfail : (∃ name, ¬ Reliable answer view (.getGroup name)) → mayFail) :
    Reads answer view mayFail (findGroup name expected) fun p => p.locatedGroup name expected := by
  have hget (name : String) : Reads answer view mayFail
      (Remote.call (.getGroup name)) fun p => p.group? name :=
    hf.read (c := .getGroup name) (fun _ => rfl) fun h => hfail ⟨_, h⟩
  rw [findGroup_eq]
  refine (hget name).lookUp (hget expected.name) fun hsame => ?_
  obtain rfl : name = expected.name := by simpa using hsame
  rfl

/-- Looking a group up on an ideal platform. -/
theorem exec_findGroup (name : String) (expected : RemoteGroup) (p : InMemoryPlatform) :
    Program.exec idealAnswer (findGroup name expected) p =
      (.ok (p.locatedGroup name expected), p) := by
  obtain ⟨q, rfl, ⟨hfail, -⟩ | h⟩ := faulty_idealAnswer.reads_findGroup name expected
    (fun ⟨_, hbad⟩ => hbad fun _ => rfl) p
  · exact hfail.elim
  · exact h

end Lookup

/-- A pass that succeeds met no failing call. -/
theorem strict_groupSync (spec : GroupSpec) (name : String) (policy : Policy) :
    Strict (spec.sync name policy) := by
  rw [GroupSpec.sync_eq, findGroup_eq]
  refine (Strict.lookUp (.call _) (.call _)).bind fun found => .settle ?_ fun f hf => ?_
  · rw [RemoteGroup.create_eq]
    exact (Strict.perform _).bind fun _ => .performAll _
  · obtain ⟨actual, -, rfl⟩ := Option.map_eq_some_iff.1 hf
    exact .performAll _

/-! ## Passes that succeed -/

namespace GroupSpec

variable {spec : GroupSpec} {name : String} {policy : Policy} {p q : InMemoryPlatform}

/-- What a pass that succeeded made of an ideal platform. -/
inductive Synced (spec : GroupSpec) (name : String) (policy : Policy) (p : InMemoryPlatform) :
    Outcome GroupPlan → InMemoryPlatform → Prop where
  | created {result : RemoteGroup} (hfound : p.locatedGroup name spec.toRemote = none)
      (hresult : spec.toRemote.completion.Achieved spec.toRemote.added result) :
      Synced spec name policy p .created ⟨p.services, p.groups ++ [result]⟩
  | unchanged {actual : RemoteGroup} (hfound : p.locatedGroup name spec.toRemote = some actual)
      (hdiff : (GroupPlan.between actual spec.toRemote policy.excludeFields).isDiff = false) :
      Synced spec name policy p .unchanged p
  | updated {actual result : RemoteGroup} {j : Slot RemoteGroup}
      (hfound : p.locatedGroup name spec.toRemote = some actual) (hp : p.groups = j.fill actual)
      (hfree : j.Free RemoteGroup.name actual.name)
      (hresult : (GroupPlan.between actual spec.toRemote policy.excludeFields).Achieved actual
        result) :
      Synced spec name policy p
        (.updated (.between actual spec.toRemote policy.excludeFields)) ⟨p.services, j.fill result⟩
  | skipped (hforbidden : policy.noCreate = true ∨ policy.noUpdate = true) :
      Synced spec name policy p .skipped p

/-- A group that is located on a platform with keys is one among others of other names. -/
lemma exists_slot_of_located (hp : p.Keyed) {actual : RemoteGroup}
    (h : p.locatedGroup name spec.toRemote = some actual) :
    ∃ j : Slot RemoteGroup, p.groups = j.fill actual ∧ j.Free RemoteGroup.name actual.name := by
  rcases Option.or_eq_some_iff.1 h with h | ⟨-, h⟩
  · obtain ⟨j, hj, -, hfree⟩ := hp.exists_groupSlot h
    exact ⟨j, hj, hfree⟩
  · obtain ⟨j, hj, -, hfree⟩ := hp.exists_groupSlot h
    exact ⟨j, hj, hfree⟩

/-- A name under which no group is found is free around the end of the list. -/
lemma free_last_of_group? {n : String} (h : p.group? n = none) :
    Slot.Free ⟨p.groups, []⟩ RemoteGroup.name n := by
  intro t ht hi
  rw [Slot.others, List.append_nil] at ht
  exact List.find?_eq_none.1 h t ht ((isGroup_iff t).2 hi)

/-- An addition under a free name appends the group. -/
lemma exec_addGroup {expected : RemoteGroup} (h : p.group? expected.name = none) :
    Program.exec idealAnswer (Remote.perform (.addGroup expected.name expected.description)) p =
      (.ok (), ⟨p.services, p.groups ++ [expected.added]⟩) := by
  rw [exec_perform]
  simp only [idealAnswer, collides, keyedAnswer, answer, h, Option.isSome_none]
  rfl

/-- **Creation.** Under a free name, an ideal platform adds a group and completes it. -/
theorem exec_create {expected : RemoteGroup} (h : p.group? expected.name = none) :
    ∃ result, Program.exec idealAnswer expected.create p =
      (.ok (), ⟨p.services, p.groups ++ [result]⟩) ∧
        expected.completion.Achieved expected.added result := by
  obtain ⟨result, hchange, hresult⟩ := GroupPlan.exists_changeAll?_between
    ⟨p.groups, []⟩ p.services expected.added expected []
  have hfree := free_last_of_group? h
  have hname : result.name = expected.name := hresult.name_eq
  have hrename : (expected.completion.params.get? groupRenameParam).getD expected.added.name =
      expected.name :=
    (hresult ⟨"name", groupRenameParam, RemoteGroup.name⟩ List.mem_cons_self).symm.trans hname
  obtain ⟨q, hq, hfill⟩ := Stage.performAll_ok (s := ⟨p.services, p.groups ++ [expected.added]⟩)
    faulty_idealAnswer hfree rfl hchange (fun _ _ _ => rfl) fun before c w hb hw => by
      have hw : w.name = expected.name := by
        rcases GroupPlan.name_of_changeAll? hchange hb hw with hi | hi | hi
        · exact hi
        · exact hi.trans hrename
        · exact hi.trans hname
      exact (congrArg _ hw).mpr hfree
  refine ⟨result, ?_, hresult⟩
  rw [RemoteGroup.create_eq, Program.exec_bind, exec_addGroup h]
  exact hq.trans (congrArg _ hfill)

/-- **What a pass did.** A pass that succeeded on an ideal platform left it alone, completed a group
that it added, or carried out its plan on the group that it found. -/
theorem synced_of_exec (hp : p.Keyed) {o : Outcome GroupPlan}
    (h : Program.exec idealAnswer (spec.sync name policy) p = (.ok o, q)) :
    spec.Synced name policy p o q := by
  rw [sync_eq, Program.exec_bind, exec_findGroup] at h
  dsimp only at h
  rcases hfound : p.locatedGroup name spec.toRemote with _ | actual
  · rw [hfound, Option.map_none, exec_settle_none] at h
    split at h
    · next hforbidden =>
      cases h
      exact .skipped (.inl hforbidden)
    · obtain ⟨result, hexec, hresult⟩ := exec_create (Option.or_eq_none_iff.1 hfound).2
      rw [hexec] at h
      cases h
      exact .created hfound hresult
  · rw [hfound, Option.map_some, change, exec_settle_some] at h
    split at h
    · next hdiff =>
      cases h
      exact .unchanged hfound hdiff
    · split at h
      · next hforbidden =>
        cases h
        exact .skipped (.inr hforbidden)
      · obtain ⟨j, hj, hfree⟩ := exists_slot_of_located hp hfound
        obtain ⟨result, hchange, hresult⟩ := GroupPlan.exists_changeAll?_between j p.services
          actual spec.toRemote policy.excludeFields
        have hp' : p = ⟨p.services, j.fill actual⟩ := by rw [← hj]
        rcases Stage.performAll_cases (S := groupStage j p.services) faulty_idealAnswer hfree hp'
          hchange with
          ⟨t, hexec, ht, -⟩ | ⟨e, t, -, -, -, -, -, hexec, -⟩
        · rw [hexec] at h
          cases h
          change t = _ at ht
          rw [ht]
          exact .updated hfound hj hfree hresult
        · rw [hexec] at h
          cases h

end GroupSpec

/-! ## Passes that stop -/

/-- **Wherever a pass stops.** A pass over a group that is found leaves all others alone, whether it
succeeds or not. -/
theorem Faulty.exec_groupSync_of_located {σ : Type}
    {answer : (c : RemoteCall) → σ → c.Answer × σ} {view : σ → InMemoryPlatform} {spec : GroupSpec}
    {name : String} (hf : Faulty answer view) (policy : Policy) (s : σ) {j : Slot RemoteGroup}
    {actual : RemoteGroup} {ss : List RemoteService} (hv : view s = ⟨ss, j.fill actual⟩)
    (hfree : j.Free RemoteGroup.name actual.name)
    (hfound : (view s).locatedGroup name spec.toRemote = some actual) :
    ∃ x, view (Program.exec answer (spec.sync name policy) s).2 = ⟨ss, j.fill x⟩ := by
  rw [GroupSpec.sync_eq, Program.exec_bind]
  obtain ⟨t, ht, ⟨-, e, hexec⟩ | hexec⟩ :=
    hf.reads_findGroup name spec.toRemote (fun _ => trivial) s
  · rw [hexec]
    exact ⟨actual, ht.trans hv⟩
  · rw [hexec]
    dsimp only
    rw [hfound, Option.map_some, GroupSpec.change, exec_settle_some]
    split
    · exact ⟨actual, ht.trans hv⟩
    · split
      · exact ⟨actual, ht.trans hv⟩
      · obtain ⟨result, hchange, -⟩ := GroupPlan.exists_changeAll?_between j ss
          actual spec.toRemote policy.excludeFields
        rcases Stage.performAll_cases (S := groupStage j ss) hf hfree (ht.trans hv) hchange with
          ⟨u, hexec, hu, -⟩ | ⟨e, u, before, c, after, y, w, hexec, hu, -⟩
        · rw [hexec]
          exact ⟨result, hu⟩
        · rw [hexec]
          exact ⟨y, hu⟩

end MonitorSync
