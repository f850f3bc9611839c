import MonitorSync.Proofs.Plan.Pairing
import MonitorSync.Proofs.Service.Convergence
set_option autoImplicit false

/-!
# When services differ

A plan has something to change exactly if the two services differ in a field that is not ignored,
where the groups and the categories count as sets and the macros as those of each name in order.

## Main definitions

* `RemoteService.SameBut` — two services are the same, ignored fields aside.

## Main results

* `ServicePlan.isDiff_iff` — a plan has something to change if one of its parts is not empty.
* `ServicePlan.no_difference_iff_same` — there is nothing to change exactly between services that
  are the same, ignored fields aside.
-/

namespace MonitorSync

/-- Two services are the same, fields aside whose names a policy excludes: their scalars are equal,
their groups and their categories are equal as sets, and their macros agree. -/
structure RemoteService.SameBut (ignored : List String) (actual expected : RemoteService) :
    Prop where
  host : "host" ∉ ignored → actual.host = expected.host
  name : "name" ∉ ignored → actual.name = expected.name
  activated : "activate" ∉ ignored → actual.activated = expected.activated
  activeChecks : "activeChecksEnabled" ∉ ignored → actual.activeChecks = expected.activeChecks
  checkCommand : "checkCommand" ∉ ignored → actual.checkCommand = expected.checkCommand
  checkArguments : "arguments" ∉ ignored → actual.checkArguments = expected.checkArguments
  maxAttempts : "maxCheckAttempts" ∉ ignored → actual.maxAttempts = expected.maxAttempts
  normalInterval : "normalCheckInterval" ∉ ignored →
    actual.normalInterval = expected.normalInterval
  passiveChecks : "passiveChecksEnabled" ∉ ignored → actual.passiveChecks = expected.passiveChecks
  retryInterval : "retryCheckInterval" ∉ ignored → actual.retryInterval = expected.retryInterval
  template : "template" ∉ ignored → actual.template = expected.template
  comment : "comment" ∉ ignored → actual.comment = expected.comment
  groups : "groups" ∉ ignored → ∀ g, g ∈ actual.groups ↔ g ∈ expected.groups
  categories : "categories" ∉ ignored → ∀ c, c ∈ actual.categories ↔ c ∈ expected.categories
  macros : "macros" ∉ ignored → MacrosAgree actual.macros expected.macros

namespace ServicePlan

variable {actual expected : RemoteService} {ignored : List String}

/-- No name is missing in either of two lists exactly if they are equal as sets. -/
private lemma missingNames_eq_nil_both_iff {left right : List String} :
    missingNames right left = [] ∧ missingNames left right = [] ↔ ∀ n, n ∈ left ↔ n ∈ right := by
  rw [missingNames_eq_nil_iff, missingNames_eq_nil_iff]
  exact ⟨fun h n => ⟨fun hn => h.2 hn, fun hn => h.1 hn⟩,
    fun h => ⟨fun n hn => (h n).2 hn, fun n hn => (h n).1 hn⟩⟩

/-- A field is ignored or satisfies `P` exactly if it satisfies `P` unless it is ignored. -/
private lemma contains_or_iff {field : String} {P : Prop} :
    (ignored.contains field = true ∨ P) ↔ (field ∉ ignored → P) := by
  rw [List.contains_iff_mem, or_iff_not_imp_left]

/-- A plan has something to change if one of its parts is not empty. -/
lemma isDiff_iff {p : ServicePlan} :
    p.isDiff = true ↔ p.params ≠ .empty ∨ p.host ≠ none ∨ p.groupsToSet ≠ [] ∨
      p.groupsToDelete ≠ [] ∨ p.categoriesToSet ≠ [] ∨ p.categoriesToDelete ≠ [] ∨
      p.macrosToSet ≠ [] ∨ p.macrosToDelete ≠ [] := by
  have hparams : p.params.isEmpty = false ↔ p.params ≠ .empty := by
    rcases hp : p.params with ⟨_ | ⟨e, entries⟩⟩ <;> simp [KeyMap.isEmpty, KeyMap.empty]
  simp only [isDiff, Bool.or_eq_true, Bool.not_eq_true', List.isEmpty_eq_false_iff, hparams,
    Option.isSome_iff_ne_none, or_assoc]

/-- **No difference means equal.** There is nothing to change exactly between services that are the
same, ignored fields aside, and there is something to change exactly if a part of the plan is not
empty.

**Proof sketch.** Each part of the plan is empty exactly if its field is ignored or does not differ.
For the macros this is pairing them off name by name. -/
theorem no_difference_iff_same (actual expected : RemoteService) (ignored : List String) :
    let plan := between actual expected ignored
    (plan.isDiff = false ↔ actual.SameBut ignored expected) ∧
      (plan.isDiff = true ↔ plan.params ≠ .empty ∨ plan.host ≠ none ∨ plan.groupsToSet ≠ [] ∨
        plan.groupsToDelete ≠ [] ∨ plan.categoriesToSet ≠ [] ∨ plan.categoriesToDelete ≠ [] ∨
        plan.macrosToSet ≠ [] ∨ plan.macrosToDelete ≠ []) := by
  refine ⟨?_, isDiff_iff⟩
  simp only [isDiff_between_eq_false_iff, missingNames_eq_nil_both_iff, macroChanges_eq_nil_iff,
    contains_or_iff, serviceScalars, List.forall_mem_cons]
  constructor
  · rintro ⟨⟨hname, hactivated, hactive, hcommand, harguments, hmax, hnormal, hpassive, hretry,
      htemplate, hcomment, -⟩, hhost, hgroups, hcategories, hmacros⟩
    exact ⟨hhost, hname, hactivated, hactive, hcommand, harguments, hmax, hnormal, hpassive, hretry,
      htemplate, hcomment, hgroups, hcategories, hmacros⟩
  · intro h
    exact ⟨⟨h.name, h.activated, h.activeChecks, h.checkCommand, h.checkArguments, h.maxAttempts,
      h.normalInterval, h.passiveChecks, h.retryInterval, h.template, h.comment, by simp⟩,
      h.host, h.groups, h.categories, h.macros⟩

/-- Of two rows of one name that a service is read with, the second one is left over: it is no
difference if it is inherited. -/
example : (between
    { macros := [.direct "FOO" "1", ⟨"FOO", "2", "", "template"⟩] }
    { macros := [.direct "FOO" "1"] } []).isDiff = false := by
  decide

end ServicePlan

end MonitorSync
