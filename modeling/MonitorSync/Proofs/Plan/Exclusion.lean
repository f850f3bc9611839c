import MonitorSync.Group.Sync
import MonitorSync.Proofs.Plan.Scalars
set_option autoImplicit false

/-!
# Excluded fields

A policy may exclude fields by name. The plan under such a policy is the plan that excludes nothing,
less what it has for the excluded fields, and what stands in these fields makes no difference to it.

## Main definitions

* `serviceFieldOf?`, `groupFieldOf?` — the field of a parameter.
* `ServicePlan.excluding`, `GroupPlan.excluding` — a plan without what it has for some fields.
* `RemoteService.blanked`, `RemoteGroup.blanked` — a service and a group without what stands in some
  fields.

## Main results

* `changedParams_eq_filter` — ignoring fields takes their parameters out of a plan.
* `changedParams_congr` — the parameters of a plan depend on fields that are not ignored only.
* `ignored_fields_have_no_influence` — ignored fields are taken out of a plan and do not matter to
  it.
-/

namespace MonitorSync

/-! ## Definitions -/

/-- The field of a parameter of a service, under the name by which a policy may exclude it. -/
def serviceFieldOf? : String → Option String
  | "description" => some "name"
  | "activate" => some "activate"
  | "active_checks_enabled" => some "activeChecksEnabled"
  | "check_command" => some "checkCommand"
  | "check_command_arguments" => some "arguments"
  | "max_check_attempts" => some "maxCheckAttempts"
  | "normal_check_interval" => some "normalCheckInterval"
  | "passive_checks_enabled" => some "passiveChecksEnabled"
  | "retry_check_interval" => some "retryCheckInterval"
  | "template" => some "template"
  | "comment" => some "comment"
  | _ => none

/-- The field of a parameter of a group, under the name by which a policy may exclude it. -/
def groupFieldOf? : String → Option String
  | "name" => some "name"
  | "activate" => some "activate"
  | "alias" => some "description"
  | "comment" => some "comment"
  | _ => none

/-- A plan without what it has for some fields. -/
def ServicePlan.excluding (p : ServicePlan) (fields : List String) : ServicePlan where
  params := p.params.filter fun param _ => !(serviceFieldOf? param).any fields.contains
  host := if "host" ∈ fields then none else p.host
  groupsToSet := if "groups" ∈ fields then [] else p.groupsToSet
  groupsToDelete := if "groups" ∈ fields then [] else p.groupsToDelete
  categoriesToSet := if "categories" ∈ fields then [] else p.categoriesToSet
  categoriesToDelete := if "categories" ∈ fields then [] else p.categoriesToDelete
  macrosToSet := if "macros" ∈ fields then [] else p.macrosToSet
  macrosToDelete := if "macros" ∈ fields then [] else p.macrosToDelete

/-- A plan without what it has for some fields. -/
def GroupPlan.excluding (p : GroupPlan) (fields : List String) : GroupPlan where
  params := p.params.filter fun param _ => !(groupFieldOf? param).any fields.contains

/-- A service without what stands in some fields. -/
def RemoteService.blanked (s : RemoteService) (fields : List String) : RemoteService where
  host := if "host" ∈ fields then "" else s.host
  name := if "name" ∈ fields then "" else s.name
  checkCommand := if "checkCommand" ∈ fields then "" else s.checkCommand
  checkArguments := if "arguments" ∈ fields then "" else s.checkArguments
  normalInterval := if "normalCheckInterval" ∈ fields then "" else s.normalInterval
  retryInterval := if "retryCheckInterval" ∈ fields then "" else s.retryInterval
  maxAttempts := if "maxCheckAttempts" ∈ fields then "" else s.maxAttempts
  activeChecks := if "activeChecksEnabled" ∈ fields then "" else s.activeChecks
  passiveChecks := if "passiveChecksEnabled" ∈ fields then "" else s.passiveChecks
  activated := if "activate" ∈ fields then "" else s.activated
  template := if "template" ∈ fields then "" else s.template
  comment := if "comment" ∈ fields then "" else s.comment
  groups := if "groups" ∈ fields then [] else s.groups
  categories := if "categories" ∈ fields then [] else s.categories
  macros := if "macros" ∈ fields then [] else s.macros

/-- A group without what stands in some fields. -/
def RemoteGroup.blanked (g : RemoteGroup) (fields : List String) : RemoteGroup where
  name := if "name" ∈ fields then "" else g.name
  activated := if "activate" ∈ fields then "" else g.activated
  comment := if "comment" ∈ fields then "" else g.comment
  description := if "description" ∈ fields then "" else g.description

/-! ## Scalars -/

section Scalars

variable {σ : Type} {scalars : List (Scalar σ)} {actual expected actual' expected' : σ}
  {ignored : List String}

/-- **Exclusion of scalars.** Ignoring fields takes their parameters out of a plan and leaves the
others as they are. -/
theorem changedParams_eq_filter {fieldOf? : String → Option String}
    (hn : (scalars.map Scalar.param).Nodup)
    (hfield : ∀ s ∈ scalars, fieldOf? s.param = some s.field) :
    changedParams scalars actual expected ignored =
      (changedParams scalars actual expected []).filter
        fun param _ => !(fieldOf? param).any ignored.contains := by
  refine increasing_changedParams.ext_get? (increasing_changedParams.filter _) fun param => ?_
  rw [KeyMap.get?_filter_key]
  by_cases hparam : param ∈ scalars.map Scalar.param
  · obtain ⟨s, hs, rfl⟩ := List.mem_map.1 hparam
    rw [get?_changedParams hn hs, get?_changedParams hn hs, hfield s hs]
    by_cases hi : s.field ∈ ignored <;> simp [hi]
  · have hnone (ignored : List String) :
        (changedParams scalars actual expected ignored).get? param = none :=
      KeyMap.get?_eq_none_iff.2 fun h => hparam (mem_params_of_mem_changedParams h)
    rw [hnone, hnone, ite_self]

/-- The parameters of a plan depend on fields that are not ignored only. -/
theorem changedParams_congr (h : ∀ s ∈ scalars, s.field ∉ ignored →
      s.read actual' = s.read actual ∧ s.read expected' = s.read expected) :
    changedParams scalars actual' expected' ignored =
      changedParams scalars actual expected ignored := by
  rw [changedParams, changedParams]
  congr 1
  refine List.filterMap_congr fun s hs => ?_
  by_cases hi : s.field ∈ ignored
  · simp [hi]
  · rw [(h s hs hi).1, (h s hs hi).2]

end Scalars

/-! ## Services -/

/-- Each scalar of a service is blanked with its field. -/
private lemma RemoteService.read_blanked {s : Scalar RemoteService} (hs : s ∈ serviceScalars)
    (x : RemoteService) (fields : List String) :
    s.read (x.blanked fields) = if s.field ∈ fields then "" else s.read x := by
  simp only [serviceScalars, List.mem_cons, List.not_mem_nil, or_false] at hs
  rcases hs with rfl | rfl | rfl | rfl | rfl | rfl | rfl | rfl | rfl | rfl | rfl <;> rfl

/-- The plan between two services under a policy is the plan without one, less the excluded
fields. -/
theorem ServicePlan.between_eq_excluding (actual expected : RemoteService) (ignored : List String) :
    between actual expected ignored = (between actual expected []).excluding ignored := by
  have hparams : changedParams serviceScalars actual expected ignored =
      (changedParams serviceScalars actual expected []).filter
        fun param _ => !(serviceFieldOf? param).any ignored.contains :=
    changedParams_eq_filter (by decide) (by decide)
  rw [between, hparams]
  simp only [between, excluding, List.contains_nil, List.contains_iff_mem, Bool.false_eq_true,
    if_false]
  by_cases hm : "macros" ∈ ignored <;> simp only [hm, if_true, if_false]

/-- What stands in ignored fields makes no difference to a plan. -/
theorem ServicePlan.between_blanked (actual expected : RemoteService) (ignored : List String) :
    between (actual.blanked ignored) (expected.blanked ignored) ignored =
      between actual expected ignored := by
  have hparams : changedParams serviceScalars (actual.blanked ignored) (expected.blanked ignored)
      ignored = changedParams serviceScalars actual expected ignored := by
    refine changedParams_congr fun s hs hi => ?_
    rw [RemoteService.read_blanked hs, RemoteService.read_blanked hs, if_neg hi, if_neg hi]
    exact ⟨rfl, rfl⟩
  rw [between, hparams]
  simp only [between, RemoteService.blanked, List.contains_iff_mem]
  by_cases hhost : "host" ∈ ignored <;> by_cases hgroups : "groups" ∈ ignored <;>
    by_cases hcategories : "categories" ∈ ignored <;> by_cases hmacros : "macros" ∈ ignored <;>
    simp only [hhost, hgroups, hcategories, hmacros, if_true, if_false]

/-! ## Groups -/

/-- Each scalar of a group is blanked with its field. -/
private lemma RemoteGroup.read_blanked {s : Scalar RemoteGroup} (hs : s ∈ groupScalars)
    (g : RemoteGroup) (fields : List String) :
    s.read (g.blanked fields) = if s.field ∈ fields then "" else s.read g := by
  simp only [groupScalars, List.mem_cons, List.not_mem_nil, or_false] at hs
  rcases hs with rfl | rfl | rfl | rfl <;> rfl

/-- The plan between two groups under a policy is the plan without one, less the excluded fields. -/
theorem GroupPlan.between_eq_excluding (actual expected : RemoteGroup) (ignored : List String) :
    between actual expected ignored = (between actual expected []).excluding ignored :=
  congrArg GroupPlan.mk (changedParams_eq_filter (by decide) (by decide))

/-- What stands in ignored fields makes no difference to a plan. -/
theorem GroupPlan.between_blanked (actual expected : RemoteGroup) (ignored : List String) :
    between (actual.blanked ignored) (expected.blanked ignored) ignored =
      between actual expected ignored := by
  refine congrArg GroupPlan.mk (changedParams_congr fun s hs hi => ?_)
  rw [RemoteGroup.read_blanked hs, RemoteGroup.read_blanked hs, if_neg hi, if_neg hi]
  exact ⟨rfl, rfl⟩

/-! ## Main result -/

/-- **Ignored fields have no influence.** Whatever texts are ignored, the plan between two services
is the plan that ignores nothing, less what it has for the ignored fields, and so is whether there
is something to change. Hence whatever else stands in ignored fields of either service, the plan is
the same. The same holds for groups.

**Proof sketch.** Each scalar has a parameter of its own, and the plan has a value for it exactly if
it differs and is not ignored. The host and the lists each have their own parts of the plan. -/
theorem ignored_fields_have_no_influence :
    (∀ (actual expected : RemoteService) (ignored : List String),
      ServicePlan.between actual expected ignored =
          (ServicePlan.between actual expected []).excluding ignored ∧
        ∀ actual' expected' : RemoteService, actual'.blanked ignored = actual.blanked ignored →
          expected'.blanked ignored = expected.blanked ignored →
          ServicePlan.between actual' expected' ignored =
            ServicePlan.between actual expected ignored) ∧
    (∀ (actual expected : RemoteGroup) (ignored : List String),
      GroupPlan.between actual expected ignored =
          (GroupPlan.between actual expected []).excluding ignored ∧
        ∀ actual' expected' : RemoteGroup, actual'.blanked ignored = actual.blanked ignored →
          expected'.blanked ignored = expected.blanked ignored →
          GroupPlan.between actual' expected' ignored =
            GroupPlan.between actual expected ignored) := by
  constructor
  · refine fun actual expected ignored =>
      ⟨ServicePlan.between_eq_excluding actual expected ignored, fun actual' expected' ha he => ?_⟩
    rw [← ServicePlan.between_blanked actual', ha, he, ServicePlan.between_blanked]
  · refine fun actual expected ignored =>
      ⟨GroupPlan.between_eq_excluding actual expected ignored, fun actual' expected' ha he => ?_⟩
    rw [← GroupPlan.between_blanked actual', ha, he, GroupPlan.between_blanked]

/-- Where the host and the macros are ignored, and an unknown field besides, neither another host
nor another macro changes the plan, which sets the comment; nor does another description change the
plan for a group that ignores it. -/
theorem ignored_fields_have_no_influence_host :
    (ServicePlan.between { host := "h", name := "n", macros := [.direct "PORT" "80"] }
        { host := "g", name := "n", comment := "c" } ["host", "macros", "host", "other"] =
      ServicePlan.between { host := "x", name := "n" }
        { host := "y", name := "n", comment := "c", macros := [.direct "PORT" "1"] }
        ["host", "macros", "host", "other"] ∧
      (ServicePlan.between { host := "x", name := "n" } { host := "y", name := "n", comment := "c" }
        ["host", "macros", "host", "other"]).params = .ofList [("comment", "c")]) ∧
    GroupPlan.between { name := "web", description := "d" } { name := "web", description := "e" }
        ["description"] =
      GroupPlan.between { name := "web" } { name := "web" } ["description"] :=
  ⟨⟨(ignored_fields_have_no_influence.1 _ _ _).2 _ _ (by decide) (by decide), by decide⟩,
    (ignored_fields_have_no_influence.2 _ _ _).2 _ _ (by decide) (by decide)⟩

end MonitorSync
