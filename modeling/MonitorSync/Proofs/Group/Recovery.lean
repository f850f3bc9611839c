import MonitorSync.Proofs.Group.Pass
import MonitorSync.Proofs.Remote.Doubt
set_option autoImplicit false

/-!
# Recovery of a service group from passes that break

A pass may break between adding a group and completing it, or between renaming it and the other
changes, with the last call in doubt. The next pass looks the group up under the name it was last
known by and under the wanted one, and finds it there in every case.

## Main definitions

* `InMemoryPlatform.OneAmong` — a platform that differs from another one in the groups of some names
  only, and has at most one of these.
* `RemoteGroup.InLine` — a group as its specification wants it.
* `GroupSpec.brokenPass`, `GroupSpec.afterPasses` — passes over a group some of whose calls break.

## Main results

* `Doubtful.exec_groupSync` — a pass keeps to one group, however its calls fail.
* `GroupSpec.recovers_from_breaks` — at every moment of every pass there is at most one group of the
  two names, and a pass that succeeds brings it in line.
-/

namespace MonitorSync

open InMemoryPlatform

/-! ## The groups of some names -/

namespace InMemoryPlatform

/-- The groups that have one of the names. -/
def groupsAmong (names : List String) (p : InMemoryPlatform) : List RemoteGroup :=
  p.groups.filter fun g => g.name ∈ names

/-- The groups that have none of the names. -/
def groupsBeside (names : List String) (p : InMemoryPlatform) : List RemoteGroup :=
  p.groups.filter fun g => g.name ∉ names

/-- `q` differs from `p` in the groups of the names only, of which it has at most one. -/
structure OneAmong (names : List String) (p q : InMemoryPlatform) : Prop where
  services : q.services = p.services
  beside : q.groupsBeside names = p.groupsBeside names
  atMostOne : (q.groupsAmong names).length ≤ 1

variable {names : List String} {p q : InMemoryPlatform} {k : Slot RemoteGroup} {x : RemoteGroup}
  {ss : List RemoteService}

/-- The groups of the names are the one at a place around which there is none. -/
lemma groupsAmong_fill (hfree : ∀ n ∈ names, k.Free RemoteGroup.name n) (hx : x.name ∈ names) :
    groupsAmong names ⟨ss, k.fill x⟩ = [x] := by
  have hnone : ∀ l : List RemoteGroup, (∀ t ∈ l, t ∈ k.others) →
      l.filter (fun g => g.name ∈ names) = [] := by
    intro l hl
    refine List.filter_eq_nil_iff.2 fun t ht hmem => ?_
    exact hfree t.name (of_decide_eq_true hmem) t (hl t ht) rfl
  rw [groupsAmong, Slot.fill, List.filter_append,
    hnone k.before fun t ht => List.mem_append_left _ ht, List.nil_append,
    List.filter_cons_of_pos (by simpa using hx),
    hnone k.after fun t ht => List.mem_append_right _ ht]

/-- The other groups are those around the place. -/
lemma groupsBeside_fill (hx : x.name ∈ names) :
    groupsBeside names ⟨ss, k.fill x⟩ = groupsBeside names ⟨ss, k.others⟩ := by
  simp only [groupsBeside, Slot.fill, Slot.others, List.filter_append]
  rw [List.filter_cons_of_neg (by simpa using hx)]

/-- Filling the place with another group of the names changes no other group. -/
lemma OneAmong.fill {y : RemoteGroup} (hfree : ∀ n ∈ names, k.Free RemoteGroup.name n)
    (h : OneAmong names p ⟨ss, k.fill x⟩) (hx : x.name ∈ names) (hy : y.name ∈ names) :
    OneAmong names p ⟨ss, k.fill y⟩ where
  services := h.services
  beside := by rw [groupsBeside_fill hy, ← groupsBeside_fill hx, h.beside]
  atMostOne := by rw [groupsAmong_fill hfree hy, List.length_singleton]

/-- Adding a group of the names changes no other group. -/
lemma OneAmong.append {y : RemoteGroup} (h : OneAmong names p q)
    (hnone : ∀ n ∈ names, q.group? n = none) (hy : y.name ∈ names) :
    OneAmong names p ⟨q.services, q.groups ++ [y]⟩ where
  services := h.services
  beside := by
    rw [← h.beside]
    simpa [groupsBeside] using hy
  atMostOne := by
    have hempty : q.groups.filter (fun g => g.name ∈ names) = [] := by
      refine List.filter_eq_nil_iff.2 fun t ht hmem => ?_
      exact List.find?_eq_none.1 (hnone t.name (of_decide_eq_true hmem)) t ht
        ((isGroup_iff t).2 rfl)
    rw [groupsAmong, List.filter_append, hempty, List.nil_append]
    exact (List.length_filter_le _ _).trans (Nat.le_refl 1)

/-- At most one group of the names: there is none, or one at a place around which there is none. -/
lemma OneAmong.none_or_slot (h : OneAmong names p q) :
    (∀ n ∈ names, q.group? n = none) ∨
      ∃ (k : Slot RemoteGroup) (x : RemoteGroup), q = ⟨q.services, k.fill x⟩ ∧ x.name ∈ names ∧
        ∀ n ∈ names, k.Free RemoteGroup.name n := by
  have hone := h.atMostOne
  rw [groupsAmong] at hone
  rcases hl : q.groups.filter (fun g => g.name ∈ names) with _ | ⟨x, rest⟩
  · left
    intro n hn
    refine List.find?_eq_none.2 fun t ht hg => ?_
    obtain rfl := (isGroup_iff t).1 hg
    exact List.filter_eq_nil_iff.1 hl t ht (decide_eq_true hn)
  · right
    obtain rfl : rest = [] := by
      rw [hl, List.length_cons] at hone
      exact List.length_eq_zero_iff.1 (by omega)
    obtain ⟨before, after, hq, hbefore, hx, hafter⟩ := List.filter_eq_cons_iff.1 hl
    refine ⟨⟨before, after⟩, x, by rw [Slot.fill, ← hq], of_decide_eq_true hx, ?_⟩
    intro n hn t ht hname
    subst hname
    rcases List.mem_append.1 ht with ht | ht
    · exact hbefore t ht (decide_eq_true hn)
    · exact List.filter_eq_nil_iff.1 hafter t ht (decide_eq_true hn)

/-- A platform with keys on which two names are not both taken has at most one group of them. -/
lemma Keyed.oneAmong {name other : String} (hp : p.Keyed)
    (hfree : name ≠ other → p.group? name = none ∨ p.group? other = none) :
    OneAmong [name, other] p p := by
  have hamong : ∀ g ∈ p.groupsAmong [name, other], p.group? g.name ≠ none ∧
      (g.name = name ∨ g.name = other) := by
    intro g hg
    obtain ⟨hmem, hname⟩ := List.mem_filter.1 hg
    refine ⟨fun hnone => ?_, by simpa using hname⟩
    exact List.find?_eq_none.1 hnone g hmem ((isGroup_iff g).2 rfl)
  -- the groups of the two names share one name, and names are keys
  obtain ⟨m, hm⟩ : ∃ m, ∀ g ∈ p.groupsAmong [name, other], g.name = m := by
    by_cases hsame : name = other
    · refine ⟨name, fun g hg => ?_⟩
      simpa [← hsame] using (hamong g hg).2
    · rcases hfree hsame with hnone | hnone
      · exact ⟨other, fun g hg => (hamong g hg).2.resolve_left fun h => (hamong g hg).1 (h ▸ hnone)⟩
      · exact ⟨name, fun g hg => (hamong g hg).2.resolve_right fun h => (hamong g hg).1 (h ▸ hnone)⟩
  have hnodup : ((p.groupsAmong [name, other]).map RemoteGroup.name).Nodup :=
    hp.groups.sublist (List.filter_sublist.map _)
  have hsame : (p.groupsAmong [name, other]).map RemoteGroup.name =
      List.replicate (p.groupsAmong [name, other]).length m :=
    List.eq_replicate_iff.2 ⟨List.length_map _, by simpa using hm⟩
  rw [hsame, List.nodup_replicate] at hnodup
  exact ⟨rfl, rfl, hnodup⟩

end InMemoryPlatform

/-! ## Plans on the way -/

namespace GroupPlan

variable {j : Slot RemoteGroup} {ss : List RemoteService} {actual expected result x : RemoteGroup}

/-- After the plan between two groups of which no field is ignored, there is nothing to change. -/
theorem Achieved.isDiff_eq_false (h : (between actual expected []).Achieved actual result) :
    (between result expected []).isDiff = false := by
  rw [isDiff, Bool.not_eq_false']
  refine isEmpty_changedParams_iff.2 fun s hs => .inr ?_
  rw [h s hs]
  exact getD_get?_changedParams (by decide) hs

/-- A group has the wanted name if there is nothing to change. -/
lemma name_of_isDiff_eq_false (h : (between actual expected []).isDiff = false) :
    actual.name = expected.name := by
  rw [isDiff, Bool.not_eq_false'] at h
  exact (isEmpty_changedParams_iff.1 h ⟨"name", groupRenameParam, RemoteGroup.name⟩
    List.mem_cons_self).resolve_left (by simp)

/-- Between two calls of the plan between two groups, the group has the name of one of them. -/
theorem name_on_way (hresult : (groupStage j ss).changeAll?
      ((between actual expected []).calls actual.name) actual = some result)
    (hachieved : (between actual expected []).Achieved actual result) {before : List RemoteCall}
    (hb : before <+: (between actual expected []).calls actual.name)
    (hx : (groupStage j ss).changeAll? before actual = some x) :
    x.name = actual.name ∨ x.name = expected.name := by
  have hname : result.name = expected.name := hachieved.name_eq
  have hrename : ((between actual expected []).params.get? groupRenameParam).getD actual.name =
      expected.name :=
    (hachieved ⟨"name", groupRenameParam, RemoteGroup.name⟩ List.mem_cons_self).symm.trans hname
  rcases name_of_changeAll? hresult hb hx with h | h | h
  · exact .inl h
  · exact .inr (h.trans hrename)
  · exact .inr (h.trans hname)

end GroupPlan

/-! ## One pass -/

/-- A group is as its specification wants it. -/
structure RemoteGroup.InLine (spec : GroupSpec) (g : RemoteGroup) : Prop where
  name : g.name = spec.name
  same : (GroupPlan.between g spec.toRemote []).isDiff = false

/-- A group that its plan was achieved for is in line. -/
lemma GroupPlan.Achieved.inLine {spec : GroupSpec} {actual result : RemoteGroup}
    (h : (between actual spec.toRemote []).Achieved actual result) : result.InLine spec :=
  ⟨h.name_eq, h.isDiff_eq_false⟩

section Pass

variable {σ : Type} {answer : (c : RemoteCall) → σ → c.Answer × σ} {view : σ → InMemoryPlatform}
  {s : σ} {spec : GroupSpec} {name : String} {k : Slot RemoteGroup} {x : RemoteGroup}
  {ss : List RemoteService} {p : InMemoryPlatform}

/-- Work succeeded if its mapped result says so. -/
private lemma eq_ok_of_map {ε α : Type} {r : Except ε Unit} {f : Unit → α} {a : α}
    (h : r.map f = .ok a) : r = .ok () := by
  rcases r with e | _
  · cases h
  · rfl

/-- A group at a place around which there is none of the two names is found. -/
lemma locatedGroup_fill (hfree : ∀ n ∈ [name, spec.name], k.Free RemoteGroup.name n)
    (hx : x.name ∈ [name, spec.name]) :
    locatedGroup ⟨ss, k.fill x⟩ name spec.toRemote = some x := by
  have hself : group? ⟨ss, k.fill x⟩ x.name = some x := group?_fill (hfree _ hx)
  have hwanted : spec.toRemote.name = spec.name := rfl
  rw [locatedGroup, hwanted]
  by_cases hname : x.name = name
  · rw [← hname, hself, Option.some_or]
  · have hspec : x.name = spec.name := by simpa [hname] using hx
    rw [(group?_fill_eq_none_iff hname).2 (hfree name (by simp)), Option.none_or, ← hspec, hself]

/-- Looking a group up changes nothing, and finds it by its last or its wanted name unless a call
fails. -/
lemma Doubtful.exec_findGroup (hd : Doubtful answer view) (name : String) (expected : RemoteGroup)
    (s : σ) :
    ∃ t, view t = view s ∧ ((∃ e, Program.exec answer (findGroup name expected) s = (.error e, t)) ∨
      Program.exec answer (findGroup name expected) s =
        (.ok ((view s).locatedGroup name expected), t)) := by
  have hget (name : String) : Reads answer view True
      (Remote.call (.getGroup name)) fun p => p.group? name := by
    intro s
    obtain ⟨t, ht, h⟩ := hd.reads (c := .getGroup name) (fun _ => rfl) s
    exact ⟨t, ht, h.imp_left fun he => ⟨trivial, he⟩⟩
  rw [findGroup_eq]
  have hsame : decide (name = expected.name) →
      (fun p : InMemoryPlatform => p.group? expected.name) = fun p => p.group? name := by
    intro h
    rw [of_decide_eq_true h]
  obtain ⟨t, ht, h⟩ := (hget name).lookUp (hget expected.name) hsame s
  exact ⟨t, ht, h.imp_left And.right⟩

/-- **A pass over a group that is there.** It leaves the group at its place, under one of the two
names, and in line if the pass succeeded. -/
private lemma Doubtful.exec_groupSync_fill (hd : Doubtful answer view)
    (hv : view s = ⟨ss, k.fill x⟩) (hfree : ∀ n ∈ [name, spec.name], k.Free RemoteGroup.name n)
    (hx : x.name ∈ [name, spec.name]) :
    ∃ y, view (Program.exec answer (spec.sync name .permissive) s).2 = ⟨ss, k.fill y⟩ ∧
      y.name ∈ [name, spec.name] ∧
      ∀ o, (Program.exec answer (spec.sync name .permissive) s).1 = .ok o → y.InLine spec := by
  obtain ⟨t, ht, ⟨e, hfind⟩ | hfind⟩ := hd.exec_findGroup name spec.toRemote s
  · rw [GroupSpec.sync_eq, Program.exec_bind, hfind]
    exact ⟨x, ht.trans hv, hx, fun o h => by cases h⟩
  · rw [GroupSpec.sync_eq, Program.exec_bind, hfind, hv, locatedGroup_fill hfree hx]
    dsimp only
    have hexclude : Policy.permissive.excludeFields = [] := rfl
    have hallowed : ¬ Policy.permissive.noUpdate = true := Bool.false_ne_true
    rw [Option.map_some, GroupSpec.change, exec_settle_some, hexclude, if_neg hallowed]
    by_cases hdiff : (GroupPlan.between x spec.toRemote []).isDiff = false
    · rw [if_pos hdiff]
      exact ⟨x, ht.trans hv, hx, fun _ _ => ⟨GroupPlan.name_of_isDiff_eq_false hdiff, hdiff⟩⟩
    · rw [if_neg hdiff]
      obtain ⟨result, hchange, hachieved⟩ :=
        GroupPlan.exists_changeAll?_between k ss x spec.toRemote []
      obtain ⟨before, y, hb, hy, -, hfill, hdone⟩ := Stage.performAll_in_doubt
        (S := groupStage k ss) hd (hfree _ hx) (ht.trans hv) hchange
      refine ⟨y, hfill, ?_, fun o ho => ?_⟩
      · rcases GroupPlan.name_on_way hchange hachieved hb hy with h | h
        · exact h ▸ hx
        · exact List.mem_cons_of_mem _ (List.mem_singleton.2 h)
      · obtain rfl := hdone (eq_ok_of_map ho)
        exact hachieved.inLine

/-- **A pass over a group that is not there.** It leaves the platform as it was, or adds the group
under its wanted name, and brings it in line if the pass succeeded. -/
private lemma Doubtful.exec_groupSync_none (hd : Doubtful answer view)
    (hnone : ∀ n ∈ [name, spec.name], (view s).group? n = none) :
    let r := Program.exec answer (spec.sync name .permissive) s
    (view r.2 = view s ∧ ∀ o, r.1 ≠ .ok o) ∨
      ∃ y, view r.2 = ⟨(view s).services, (view s).groups ++ [y]⟩ ∧ y.name = spec.name ∧
        ∀ o, r.1 = .ok o → y.InLine spec := by
  dsimp only
  have hwanted : (view s).group? spec.toRemote.name = none := hnone spec.name (by simp)
  have hlocated : (view s).locatedGroup name spec.toRemote = none := by
    rw [locatedGroup, hnone name (by simp), hwanted, Option.none_or]
  obtain ⟨t, ht, ⟨e, hfind⟩ | hfind⟩ := hd.exec_findGroup name spec.toRemote s
  · rw [GroupSpec.sync_eq, Program.exec_bind, hfind]
    exact .inl ⟨ht, fun o h => by cases h⟩
  · rw [GroupSpec.sync_eq, Program.exec_bind, hfind, hlocated]
    dsimp only
    have hallowed : ¬ Policy.permissive.noCreate = true := Bool.false_ne_true
    rw [Option.map_none, exec_settle_none, if_neg hallowed, RemoteGroup.create_eq]
    simp only [Program.exec_bind]
    rw [← ht] at hwanted ⊢
    have hadd := GroupSpec.exec_addGroup hwanted
    rcases hd.exec_perform (.addGroup spec.toRemote.name spec.toRemote.description) t with
      hi | ⟨e, u, he, hu⟩
    · rw [hadd] at hi
      rcases hp : Program.exec answer (Remote.perform _) t with ⟨r, u⟩
      rw [hp] at hi
      obtain ⟨rfl, hu⟩ := Prod.mk.inj hi
      obtain ⟨result, hchange, hachieved⟩ := GroupPlan.exists_changeAll?_between
        ⟨(view t).groups, []⟩ (view t).services spec.toRemote.added spec.toRemote []
      have hfree : Slot.Free ⟨(view t).groups, []⟩ RemoteGroup.name spec.toRemote.added.name :=
        GroupSpec.free_last_of_group? hwanted
      obtain ⟨before, y, hb, hy, -, hfill, hdone⟩ := Stage.performAll_in_doubt
        (S := groupStage ⟨(view t).groups, []⟩ (view t).services) hd hfree hu.symm hchange
      refine .inr ⟨y, hfill, ?_, fun o ho => ?_⟩
      · exact (GroupPlan.name_on_way hchange hachieved hb hy).elim id id
      · obtain rfl := hdone (eq_ok_of_map ho)
        exact hachieved.inLine
    · rw [he]
      rcases hu with hu | hu
      · exact .inl ⟨hu, fun o h => by cases h⟩
      · rw [hadd] at hu
        exact .inr ⟨spec.toRemote.added, hu, rfl, fun o h => by cases h⟩

/-- **One group at most.** However the calls of a pass fail, it leaves at most one group of the two
names and all other groups as they were, and the one in line if it succeeded. -/
theorem Doubtful.exec_groupSync (hd : Doubtful answer view)
    (h : OneAmong [name, spec.name] p (view s)) :
    let r := Program.exec answer (spec.sync name .permissive) s
    OneAmong [name, spec.name] p (view r.2) ∧
      ∀ o, r.1 = .ok o → ∃ g, (view r.2).groupsAmong [name, spec.name] = [g] ∧ g.InLine spec := by
  dsimp only
  rcases h.none_or_slot with hnone | ⟨k, x, hv, hx, hfree⟩
  · rcases hd.exec_groupSync_none hnone with ⟨hsame, hfails⟩ | ⟨y, hadded, hy, hok⟩
    · exact ⟨hsame ▸ h, fun o ho => absurd ho (hfails o)⟩
    · have hmem : y.name ∈ [name, spec.name] := by simp [hy]
      have hfree : ∀ n ∈ [name, spec.name],
          Slot.Free ⟨(view s).groups, []⟩ RemoteGroup.name n :=
        fun n hn => GroupSpec.free_last_of_group? (hnone n hn)
      rw [hadded]
      exact ⟨h.append hnone hmem, fun o ho => ⟨y, groupsAmong_fill hfree hmem, hok o ho⟩⟩
  · obtain ⟨y, hfill, hy, hok⟩ := hd.exec_groupSync_fill hv hfree hx
    rw [hfill]
    rw [hv] at h
    exact ⟨h.fill hfree hx hy, fun o ho => ⟨y, groupsAmong_fill hfree hy, hok o ho⟩⟩

/-- A pass over at most one group succeeds on an ideal platform. -/
theorem GroupSpec.exec_sync_of_oneAmong (h : OneAmong [name, spec.name] p p) :
    ∃ o q, Program.exec idealAnswer (spec.sync name .permissive) p = (.ok o, q) := by
  rw [sync_eq, Program.exec_bind, exec_findGroup]
  dsimp only
  rcases h.none_or_slot with hnone | ⟨k, x, hp, hx, hfree⟩
  · have hwanted : p.group? spec.toRemote.name = none := hnone spec.name (by simp)
    have hlocated : p.locatedGroup name spec.toRemote = none := by
      rw [locatedGroup, hnone name (by simp), hwanted, Option.none_or]
    have hallowed : ¬ Policy.permissive.noCreate = true := Bool.false_ne_true
    obtain ⟨result, hcreate, -⟩ := exec_create hwanted
    rw [hlocated, Option.map_none, exec_settle_none, if_neg hallowed, hcreate]
    exact ⟨_, _, rfl⟩
  · have hexclude : Policy.permissive.excludeFields = [] := rfl
    have hallowed : ¬ Policy.permissive.noUpdate = true := Bool.false_ne_true
    have hlocated : p.locatedGroup name spec.toRemote = some x := by
      rw [hp]
      exact locatedGroup_fill hfree hx
    rw [hlocated, Option.map_some, change, exec_settle_some, hexclude, if_neg hallowed]
    split
    · exact ⟨_, _, rfl⟩
    · obtain ⟨result, hchange, hachieved⟩ :=
        GroupPlan.exists_changeAll?_between k p.services x spec.toRemote []
      obtain ⟨q, hq, -⟩ := Stage.performAll_ok (S := groupStage k p.services) faulty_idealAnswer
        (hfree _ hx) hp hchange (fun _ _ _ => rfl) fun before c w hb hw => by
          rcases GroupPlan.name_on_way hchange hachieved hb hw with hname | hname
          · exact (congrArg (k.Free RemoteGroup.name) hname).mpr (hfree _ hx)
          · exact (congrArg (k.Free RemoteGroup.name) hname).mpr (hfree spec.name (by simp))
      rw [hq]
      exact ⟨_, _, rfl⟩

end Pass

/-! ## All passes -/

namespace GroupSpec

/-- A pass over the group last known as `name` on an ideal platform some of whose calls break. -/
def brokenPass (spec : GroupSpec) (name : String) (broken : Nat → RemoteCall → Option Breakage)
    (p : InMemoryPlatform) : Except Failure (Outcome GroupPlan) × InMemoryPlatform :=
  let (result, r) := Program.exec (Run.brokenAnswer broken) (spec.sync name spec.policy) ⟨[], p⟩
  (result, r.platform)

/-- The platform after passes one after the other. -/
def afterPasses (spec : GroupSpec) (name : String)
    (passes : List (Nat → RemoteCall → Option Breakage)) (p : InMemoryPlatform) :
    InMemoryPlatform :=
  passes.foldl (fun p broken => (spec.brokenPass name broken p).2) p

/-- The platforms that a pass goes through. -/
def moments (spec : GroupSpec) (name : String) (broken : Nat → RemoteCall → Option Breakage)
    (p : InMemoryPlatform) : List InMemoryPlatform :=
  Run.visited broken (ExceptT.run (spec.sync name spec.policy)) ⟨[], p⟩

variable {spec : GroupSpec} {name : String} {broken : Nat → RemoteCall → Option Breakage}
  {p q : InMemoryPlatform}

/-- A pass that breaks keeps to one group, and one that succeeds brings it in line. -/
private lemma oneAmong_brokenPass (hpolicy : spec.policy = .permissive)
    (broken : Nat → RemoteCall → Option Breakage) (h : OneAmong [name, spec.name] p q) :
    OneAmong [name, spec.name] p (spec.brokenPass name broken q).2 ∧
      ∀ o, (spec.brokenPass name broken q).1 = .ok o →
        ∃ g, (spec.brokenPass name broken q).2.groupsAmong [name, spec.name] = [g] ∧
          g.InLine spec := by
  rw [brokenPass, hpolicy]
  exact (Run.doubtful_brokenAnswer broken).exec_groupSync (s := ⟨[], q⟩) h

/-- Passes keep to one group. -/
private lemma oneAmong_afterPasses (hpolicy : spec.policy = .permissive)
    (passes : List (Nat → RemoteCall → Option Breakage)) (h : OneAmong [name, spec.name] p q) :
    OneAmong [name, spec.name] p (spec.afterPasses name passes q) := by
  induction passes generalizing q with
  | nil => exact h
  | cons broken passes ih => exact ih (oneAmong_brokenPass hpolicy broken h).1

/-- A pass keeps to one group all the way. -/
private lemma oneAmong_moments (hpolicy : spec.policy = .permissive)
    (h : OneAmong [name, spec.name] p q) {t : InMemoryPlatform}
    (ht : t ∈ spec.moments name broken q) : OneAmong [name, spec.name] p t := by
  obtain ⟨n, -, rfl⟩ := Run.exists_cutOff _ ht
  exact (oneAmong_brokenPass hpolicy (Run.cutOff n broken) h).1

/-- **Recovery from passes that break.** Take a group that may be created, updated and deleted and
of which no field is excluded, on an ideal platform that does not hold groups under both its last
and its wanted name. However many passes over it break, at whatever calls, with their effect or
without: at every moment of the next pass the platform has at most one group of the two names, and
all other groups and all services as they were; if that pass succeeds, then the one group is there,
under the wanted name and with nothing left to change; and it does succeed if no call of it breaks.

**Proof sketch.** Every pass leaves at most one group of the two names, which both of its lookups
cover: it finds that group, wherever the passes before broke. Each call of its plan changes only
this group and gives it one of the two names; a call in doubt is made or not. Every moment of a pass
is the end of a pass that breaks there. -/
theorem recovers_from_breaks (hpolicy : spec.policy = .permissive) (hp : p.Keyed)
    (hfree : name ≠ spec.name → p.group? name = none ∨ p.group? spec.name = none)
    (passes : List (Nat → RemoteCall → Option Breakage))
    (broken : Nat → RemoteCall → Option Breakage) :
    let q := spec.afterPasses name passes p
    (∀ t ∈ spec.moments name broken q, OneAmong [name, spec.name] p t) ∧
    (∀ o t, spec.brokenPass name broken q = (.ok o, t) → OneAmong [name, spec.name] p t ∧
      ∃ g, t.groupsAmong [name, spec.name] = [g] ∧ g.InLine spec) ∧
    ∃ o t, spec.brokenPass name (fun _ _ => none) q = (.ok o, t) := by
  dsimp only
  have hq := oneAmong_afterPasses hpolicy passes (hp.oneAmong hfree)
  refine ⟨fun t ht => oneAmong_moments hpolicy hq ht, fun o t hpass => ?_, ?_⟩
  · obtain ⟨hone, hline⟩ := oneAmong_brokenPass hpolicy broken hq
    rw [hpass] at hone hline
    exact ⟨hone, hline o rfl⟩
  · obtain ⟨o, t, hideal⟩ := exec_sync_of_oneAmong ⟨rfl, rfl, hq.atMostOne⟩
    refine ⟨o, t, ?_⟩
    have hreliable : ∀ c, Reliable (Run.brokenAnswer fun _ _ => none) Run.platform c :=
      fun _ _ => rfl
    have hr := exec_of_reliable hreliable (spec.sync name .permissive)
      ⟨[], spec.afterPasses name passes p⟩
    rw [brokenPass, hpolicy]
    exact hr.symm.trans hideal

/-- A group that is known as `old` and shall be named `web`. -/
def renamed : GroupSpec := { name := "web", description := "Web servers", activate := true }

/-- Renaming breaks after it has taken effect. -/
def renamingBreaks (_ : Nat) : RemoteCall → Option Breakage
  | .setGroupParam _ param _ =>
    if param = groupRenameParam then some (.after (.timeout "")) else none
  | _ => none

/-- A pass that breaks after the rename leaves the group under its new name, and the next one
completes it there. -/
theorem recovers_from_breaks_renaming :
    let p : InMemoryPlatform := ⟨[], [{ name := "old", description := "Web" }, { name := "db" }]⟩
    let q := renamed.afterPasses "old" [renamingBreaks] p
    renamed.policy = .permissive ∧ p.Keyed ∧
    (("old" ≠ renamed.name) → p.group? "old" = none ∨ p.group? renamed.name = none) ∧
    q.groups.map RemoteGroup.name = ["web", "db"] ∧
    ∃ o t, renamed.brokenPass "old" (fun _ _ => none) q = (.ok o, t) ∧
      OneAmong ["old", "web"] p t ∧ ∃ g, t.groupsAmong ["old", "web"] = [g] ∧ g.InLine renamed := by
  have hp : Keyed ⟨[], [{ name := "old", description := "Web" }, { name := "db" }]⟩ :=
    ⟨by decide, by decide⟩
  have hpolicy : renamed.policy = .permissive := rfl
  have hfree : "old" ≠ renamed.name →
      group? ⟨[], [{ name := "old", description := "Web" }, { name := "db" }]⟩ "old" = none ∨
        group? ⟨[], [{ name := "old", description := "Web" }, { name := "db" }]⟩
          renamed.name = none :=
    fun _ => .inr (by decide)
  obtain ⟨-, hrecovers, o, t, hpass⟩ :=
    recovers_from_breaks hpolicy hp hfree [renamingBreaks] fun _ _ => none
  exact ⟨hpolicy, hp, hfree, by decide +kernel, o, t, hpass, hrecovers o t hpass⟩

end GroupSpec

end MonitorSync
