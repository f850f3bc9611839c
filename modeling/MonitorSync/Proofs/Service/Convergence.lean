import MonitorSync.Proofs.Service.Calls
set_option autoImplicit false

/-!
# Plans converge

The plan from one service to another is achieved by a service that has no difference left from the
wanted one, ignored fields aside.

## Main results

* `ServicePlan.isDiff_between_eq_false_iff` — when there is nothing to change.
* `ServicePlan.Achieved.read_eq`, `ServicePlan.Achieved.host_eq` — the scalars and the host after
  a plan.
* `ServicePlan.Achieved.isDiff_eq_false` — after a plan there is nothing to change.
* `ServicePlan.nodup_of_isDiff_eq_false` — there is always something to change for wanted macros of
  one name.
-/

namespace MonitorSync

namespace ServicePlan

variable {actual expected result : RemoteService} {ignored : List String}

private lemma isEmpty_watched {α : Type} {c : Bool} {l : List α} :
    (if c then [] else l).isEmpty = true ↔ c = true ∨ l = [] := by
  cases c <;> simp

private lemma isSome_watched {c : Bool} {host wanted : String} :
    (if c then none else if host = wanted then none else some wanted).isSome = false ↔
      c = true ∨ host = wanted := by
  cases c <;> simp

private lemma watched_eq_nil {c : Bool} {changes : List ServiceMacro × List ServiceMacro} :
    (if c then ([], []) else changes).1.isEmpty = true ∧
      (if c then ([], []) else changes).2.isEmpty = true ↔ c = true ∨ changes = ([], []) := by
  cases c <;> simp [Prod.ext_iff]

/-- There is nothing to change if no field differs that is not ignored. -/
theorem isDiff_between_eq_false_iff :
    (between actual expected ignored).isDiff = false ↔
      (∀ s ∈ serviceScalars, ignored.contains s.field ∨ s.read actual = s.read expected) ∧
      (ignored.contains "host" ∨ actual.host = expected.host) ∧
      (ignored.contains "groups" ∨ missingNames expected.groups actual.groups = [] ∧
        missingNames actual.groups expected.groups = []) ∧
      (ignored.contains "categories" ∨
        missingNames expected.categories actual.categories = [] ∧
          missingNames actual.categories expected.categories = []) ∧
      (ignored.contains "macros" ∨ macroChanges actual.macros expected.macros = ([], [])) := by
  rw [← isEmpty_changedParams_iff]
  simp only [isDiff, between, Bool.or_eq_false_iff, Bool.not_eq_false', and_assoc, or_and_left,
    isEmpty_watched, isSome_watched, watched_eq_nil]

/-- The plan between two services keeps its parameters in order. -/
lemma increasing_params_between : (between actual expected ignored).params.Increasing :=
  KeyMap.increasing_ofList

/-- The plan between two services sets parameters of scalars only. -/
lemma params_between_subset {param : String}
    (h : param ∈ (between actual expected ignored).params.keys) :
    param ∈ serviceScalars.map Scalar.param :=
  mem_params_of_mem_changedParams h

namespace Achieved

variable (h : (between actual expected ignored).Achieved actual result)

include h

/-- After the plan between two services, a scalar is as wanted, or as it was if it is ignored. -/
theorem read_eq {s : Scalar RemoteService} (hs : s ∈ serviceScalars) :
    s.read result = if ignored.contains s.field then s.read actual else s.read expected := by
  rw [h.scalars s hs]
  exact getD_get?_changedParams (by decide) hs

/-- After the plan between two services, the host is the wanted one, or as it was if it is
ignored. -/
theorem host_eq :
    result.host = if ignored.contains "host" then actual.host else expected.host := by
  rw [h.host]
  simp only [between]
  by_cases hi : "host" ∈ ignored <;> by_cases hr : actual.host = expected.host <;>
    simp [hi, hr]

/-- After the plan between two services, the name is the wanted one, or as it was if it is
ignored. -/
theorem name_eq :
    result.name = if ignored.contains "name" then actual.name else expected.name :=
  h.read_eq (s := ⟨"name", serviceRenameParam, RemoteService.name⟩) List.mem_cons_self

/-- Macros that are not ignored are changed as the plan says. -/
private lemma macros_eq (hi : ignored.contains "macros" = false) :
    result.macros = changedMacros actual.macros expected.macros := by
  rw [h.macros]
  simp only [between, hi]
  rfl

/-- **Plans converge.** After the plan between two services whose macros have different names,
there is nothing left to change. -/
theorem isDiff_eq_false (ha : (macroNames actual.macros).Nodup)
    (he : (macroNames expected.macros).Nodup) :
    (between result expected ignored).isDiff = false := by
  refine isDiff_between_eq_false_iff.2 ⟨fun s hs => ?_, ?_, ?_, ?_, ?_⟩
  · rw [h.read_eq hs, or_iff_not_imp_left]
    intro hi
    rw [if_neg hi]
  · rw [h.host_eq, or_iff_not_imp_left]
    intro hi
    rw [if_neg hi]
  · rw [or_iff_not_imp_left]
    intro hi
    have hgroups : result.groups = changedNames actual.groups expected.groups := by
      rw [h.groups]
      simp only [between, if_neg hi]
      rfl
    rw [hgroups]
    exact missingNames_changedNames _ _
  · rw [or_iff_not_imp_left]
    intro hi
    have hcategories : result.categories =
        changedNames actual.categories expected.categories := by
      rw [h.categories]
      simp only [between, if_neg hi]
      rfl
    rw [hcategories]
    exact missingNames_changedNames _ _
  · rw [or_iff_not_imp_left]
    intro hi
    rw [h.macros_eq (by simpa using hi)]
    exact macroChanges_changedMacros ha he

end Achieved

/-- The plan between two services applies to the first and is achieved. -/
theorem exists_changeAll?_between (k : Slot RemoteService) (gs : List RemoteGroup)
    (actual expected : RemoteService) (ignored : List String) :
    ∃ result, (serviceStage k gs).changeAll?
      ((between actual expected ignored).calls actual.host actual.name) actual = some result ∧
        (between actual expected ignored).Achieved actual result :=
  changeAll?_calls increasing_params_between (fun _ => params_between_subset) actual

/-- Where nothing is ignored, the plan between two services takes the first from its identity to
the wanted one, at most by way of its host and the wanted name. -/
lemma passes_between_iff {i : String × String} :
    (between actual expected []).Passes actual i ↔
      i = actual.identity ∨ i = (actual.host, expected.name) ∨ i = expected.identity := by
  obtain ⟨result, -, h⟩ := exists_changeAll?_between ⟨[], []⟩ [] actual expected []
  have hname : ((between actual expected []).params.get? serviceRenameParam).getD actual.name =
      expected.name := h.name.symm.trans h.name_eq
  have hhost : (between actual expected []).host.getD actual.host = expected.host :=
    h.host.symm.trans h.host_eq
  rw [Passes, hname, hhost]
  rfl

/-- Where nothing is ignored, the scalars of a plan give the service its wanted name on its old
host. -/
theorem exists_changeAll?_scalarCalls (k : Slot RemoteService) (gs : List RemoteGroup)
    (actual expected : RemoteService) :
    ∃ x, (serviceStage k gs).changeAll? (scalarCalls (.setServiceParam actual.host)
      serviceRenameParam (between actual expected []).params actual.name) actual = some x ∧
        x.identity = (actual.host, expected.name) := by
  obtain ⟨x, hx, ⟨hhost, -⟩, hreads⟩ :=
    (settable_serviceScalars k gs actual).changeAll?_scalarCalls
      increasing_params_between
      (fun _ => params_between_subset) ⟨rfl, rfl, rfl, rfl⟩
  obtain ⟨result, -, h⟩ := exists_changeAll?_between k gs actual expected []
  have hname : x.name = result.name :=
    (hreads ⟨"name", serviceRenameParam, RemoteService.name⟩ List.mem_cons_self).trans h.name.symm
  exact ⟨x, hx, Prod.ext hhost (hname.trans h.name_eq)⟩

/-- There is always something to change for wanted macros of one name. -/
theorem nodup_of_isDiff_eq_false (ha : (macroNames actual.macros).Nodup)
    (h : (between actual expected []).isDiff = false) : (macroNames expected.macros).Nodup := by
  obtain ⟨-, -, -, -, hmacros⟩ := isDiff_between_eq_false_iff.1 h
  have hmacros : macroChanges actual.macros expected.macros = ([], []) := by simpa using hmacros
  exact nodup_of_matchMacros ha (congrArg Prod.fst hmacros)

end ServicePlan

end MonitorSync
