import MonitorSync.Proofs.Group.Pass
import MonitorSync.Proofs.Plan.Pairing
import MonitorSync.Proofs.Service.Pass
set_option autoImplicit false

/-!
# Creation reaches the wanted state

An element is created by adding it and then carrying out the plan from what adding leaves to what is
wanted. So a scalar, list or macro would be lost for every created element if adding left something
else behind, or if the plan missed it.

## Main definitions

* `ServiceMacro.asDirect` — a macro as it is once it was set on a service.

## Main results

* `setMacros_nil` — macros of different names that are set on a service without macros are its
  macros.
* `ServicePlan.Achieved.isDiff_reverse_eq_false` — a service that was created has nothing that is
  not wanted.
* `GroupPlan.Achieved.eq_expected` — a group after the plan to a wanted one is the wanted one.
* `create_reaches_expected` — creation succeeds under a free key and leaves what is wanted.
-/

namespace MonitorSync

open InMemoryPlatform

/-! ## Macros that are set where there are none -/

section Macros

variable {ms present : List ServiceMacro}

/-- A macro as it is once it was set on a service. -/
def ServiceMacro.asDirect (m : ServiceMacro) : ServiceMacro := { m with source := directSource }

/-- A macro of a new name goes to the end. -/
private lemma putMacro_of_notMem {m : ServiceMacro} (h : m.name ∉ macroNames present) :
    putMacro m present = present ++ [m] := by
  rw [putMacro, if_neg]
  simpa [macroNames] using h

/-- Macros of different names that no present one has go to the end, in order. -/
private lemma setMacros_of_nodup (hn : (macroNames (present ++ ms)).Nodup) :
    setMacros ms present = present ++ ms.map ServiceMacro.asDirect := by
  induction ms generalizing present with
  | nil => exact (List.append_nil _).symm
  | cons m ms ih =>
    have hput : putMacro m.asDirect present = present ++ [m.asDirect] := by
      refine putMacro_of_notMem fun hm => ?_
      rw [macroNames, List.map_append, List.map_cons] at hn
      exact List.disjoint_of_nodup_append hn hm List.mem_cons_self
    have hrest : (macroNames (present ++ [m.asDirect] ++ ms)).Nodup := by
      simpa [macroNames, ServiceMacro.asDirect] using hn
    change setMacros ms (putMacro m.asDirect present) = _
    rw [hput, ih hrest, List.append_assoc]
    rfl

/-- Macros of different names that are set on a service without macros are its macros. -/
theorem setMacros_nil (hn : (macroNames ms).Nodup) :
    setMacros ms [] = ms.map ServiceMacro.asDirect :=
  setMacros_of_nodup hn

/-- Where there are no macros, all that are wanted are to be set, and none is to be deleted. -/
lemma macroChanges_nil (expected : List ServiceMacro) :
    macroChanges [] expected = (expected, []) := by
  have hmatch : matchMacros [] expected = (expected, []) := by
    induction expected with
    | nil => rfl
    | cons w rest ih => rw [matchMacros_cons_of_none rfl, ih]
  rw [macroChanges, hmatch]
  rfl

/-- The macros of a name are still those of the name once they were set. -/
private lemma macrosNamed_map_asDirect (n : String) :
    macrosNamed n (ms.map ServiceMacro.asDirect) =
      (macrosNamed n ms).map ServiceMacro.asDirect :=
  List.filter_map

/-- Macros agree with what they are once they were set. -/
theorem macrosAgree_map_asDirect (ms : List ServiceMacro) :
    MacrosAgree ms (ms.map ServiceMacro.asDirect) where
  met n k w hw := by
    rw [macrosNamed_map_asDirect, List.getElem?_map] at hw
    obtain ⟨m, hm, rfl⟩ := Option.map_eq_some_iff.1 hw
    exact ⟨m, hm, rfl, rfl⟩
  leftOver n k m hm hw := by
    rw [macrosNamed_map_asDirect, List.getElem?_map, hm] at hw
    cases hw

end Macros

/-! ## Services -/

namespace ServicePlan

variable {actual expected result : RemoteService} {ignored : List String}

/-- Where there is nothing to change, ignoring fields leaves nothing to change. -/
theorem isDiff_eq_false_of_nil (h : (between actual expected []).isDiff = false) :
    (between actual expected ignored).isDiff = false := by
  rw [isDiff_between_eq_false_iff] at h ⊢
  simp only [List.contains_nil, Bool.false_eq_true, false_or] at h
  obtain ⟨hscalars, hhost, hgroups, hcategories, hmacros⟩ := h
  exact ⟨fun s hs => .inr (hscalars s hs), .inr hhost, .inr hgroups, .inr hcategories,
    .inr hmacros⟩

/-- **Nothing else.** A service that was added and completed has nothing that is not wanted: taken
as what is wanted, the service that was wanted does not differ from it. -/
theorem Achieved.isDiff_reverse_eq_false (he : (macroNames expected.macros).Nodup)
    (h : expected.completion.Achieved expected.added result) :
    (between expected result []).isDiff = false := by
  have hgroups : result.groups = changedNames [] expected.groups := h.groups
  have hcategories : result.categories = changedNames [] expected.categories := h.categories
  have hmacros : result.macros = expected.macros.map ServiceMacro.asDirect := by
    rw [← setMacros_nil he, h.macros]
    change deleteMacros (macroChanges [] expected.macros).2
      (setMacros (macroChanges [] expected.macros).1 []) = _
    rw [macroChanges_nil]
    rfl
  refine isDiff_between_eq_false_iff.2 ⟨fun s hs => .inr (h.read_eq hs).symm, .inr h.host_eq.symm,
    .inr ?_, .inr ?_, .inr ?_⟩
  · rw [hgroups]
    exact (missingNames_changedNames _ _).symm
  · rw [hcategories]
    exact (missingNames_changedNames _ _).symm
  · rw [hmacros]
    exact macroChanges_eq_nil_iff.2 (macrosAgree_map_asDirect _)

end ServicePlan

/-! ## Groups -/

namespace GroupPlan

variable {actual expected result : RemoteGroup}

/-- A group after the plan to a wanted one is the wanted one, since a group has only scalars. -/
theorem Achieved.eq_expected (h : (between actual expected []).Achieved actual result) :
    result = expected := by
  have hreads : ∀ s ∈ groupScalars, s.read result = s.read expected := fun s hs =>
    (h s hs).trans (getD_get?_changedParams (by decide) hs)
  simp only [groupScalars, List.forall_mem_cons] at hreads
  obtain ⟨hname, hactivated, hdescription, hcomment, -⟩ := hreads
  rcases result with ⟨_, _, _, _⟩
  rcases expected with ⟨_, _, _, _⟩
  cases hname
  cases hactivated
  cases hdescription
  cases hcomment
  rfl

/-- There is nothing to change between a group and itself. -/
lemma isDiff_between_self (g : RemoteGroup) (ignored : List String) :
    (between g g ignored).isDiff = false := by
  rw [isDiff, Bool.not_eq_false']
  exact isEmpty_changedParams_iff.2 fun _ _ => .inr rfl

end GroupPlan

/-! ## Main result -/

/-- **Creation reaches the wanted state.** On an ideal platform without a service of the wanted host
and name, creating a service whose macros have different names succeeds. It leaves a service with
nothing to change, whatever fields are ignored, and with nothing that is not wanted, and it leaves
all other services and all groups alone. The same holds for groups.

**Proof sketch.** Adding leaves the service with its key and template and nothing else, and the plan
from there is achieved. Plans converge, so nothing is to be changed; and as no list and no macro was
there before, the lists have the wanted names only and the macros are the wanted ones. -/
theorem create_reaches_expected :
    (∀ (p : InMemoryPlatform) (expected : RemoteService), (macroNames expected.macros).Nodup →
      p.service? expected.host expected.name = none →
      ∃ result, Program.exec idealAnswer expected.create p =
          (.ok (), ⟨p.services ++ [result], p.groups⟩) ∧
        (∀ ignored, (ServicePlan.between result expected ignored).isDiff = false) ∧
        (ServicePlan.between expected result []).isDiff = false) ∧
    (∀ (p : InMemoryPlatform) (expected : RemoteGroup), p.group? expected.name = none →
      ∃ result, Program.exec idealAnswer expected.create p =
          (.ok (), ⟨p.services, p.groups ++ [result]⟩) ∧
        (∀ ignored, (GroupPlan.between result expected ignored).isDiff = false) ∧
        (GroupPlan.between expected result []).isDiff = false) := by
  constructor
  · intro p expected he hfree
    obtain ⟨result, hexec, hachieved⟩ := ServiceSpec.exec_create hfree
    have hsame : (ServicePlan.between result expected []).isDiff = false :=
      hachieved.isDiff_eq_false List.nodup_nil he
    exact ⟨result, hexec, fun _ => ServicePlan.isDiff_eq_false_of_nil hsame,
      hachieved.isDiff_reverse_eq_false he⟩
  · intro p expected hfree
    obtain ⟨result, hexec, hachieved⟩ := GroupSpec.exec_create hfree
    obtain rfl : result = expected := hachieved.eq_expected
    exact ⟨result, hexec, GroupPlan.isDiff_between_self result,
      GroupPlan.isDiff_between_self result []⟩

/-- A service with a group, a macro and a comment, and a group with a comment, are created beside
others. -/
theorem create_reaches_expected_beside :
    (∃ result, Program.exec idealAnswer
        { host := "h", name := "n", template := "t", comment := "c", groups := ["g"],
          macros := [.direct "PORT" "80"] : RemoteService }.create
        ⟨[{ host := "h", name := "m" }], [{ name := "web" }]⟩ =
          (.ok (), ⟨[{ host := "h", name := "m" }, result], [{ name := "web" }]⟩) ∧
      result.comment = "c") ∧
    (∃ result, Program.exec idealAnswer { name := "db", comment := "c" : RemoteGroup }.create
        ⟨[{ host := "h", name := "m" }], [{ name := "web" }]⟩ =
          (.ok (), ⟨[{ host := "h", name := "m" }], [{ name := "web" }, result]⟩) ∧
      result.comment = "c") := by
  constructor
  · obtain ⟨result, hexec, hsame, -⟩ := create_reaches_expected.1
      ⟨[{ host := "h", name := "m" }], [{ name := "web" }]⟩
      { host := "h", name := "n", template := "t", comment := "c", groups := ["g"],
        macros := [.direct "PORT" "80"] } (by decide) (by decide)
    have hcomment := (ServicePlan.isDiff_between_eq_false_iff.1 (hsame [])).1
      ⟨"comment", "comment", RemoteService.comment⟩ (by simp [serviceScalars])
    exact ⟨result, hexec, hcomment.resolve_left (by simp)⟩
  · obtain ⟨result, hexec, hsame, -⟩ := create_reaches_expected.2
      ⟨[{ host := "h", name := "m" }], [{ name := "web" }]⟩ { name := "db", comment := "c" }
      (by decide)
    have hnone := (Bool.not_eq_false' _).mp (hsame [])
    have hcomment := isEmpty_changedParams_iff.1 hnone ⟨"comment", "comment", RemoteGroup.comment⟩
      (by simp [groupScalars])
    exact ⟨result, hexec, hcomment.resolve_left (by simp)⟩

end MonitorSync
