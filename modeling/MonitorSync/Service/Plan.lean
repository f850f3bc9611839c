import MonitorSync.KeyMap
import MonitorSync.Remote.Service
set_option autoImplicit false

/-!
# The plan that turns one service into another

## Main definitions

* `Scalar` — a scalar field with its policy name and its parameter on the platform
* `changedParams` — the parameters whose scalars differ
* `missingNames` — the elements of one list that another lacks, sorted
* `macroChanges` — the macros to set and to delete
* `ServicePlan.between` — the smallest plan from one service to another, ignored fields aside
-/

namespace MonitorSync

/-- A scalar field of a service or group. -/
structure Scalar (σ : Type) where
  /-- The name under which a policy may exclude the field. -/
  field : String
  /-- The parameter of the field on the platform. -/
  param : String
  read : σ → String

/-- The scalars of a service other than its host. -/
def serviceScalars : List (Scalar RemoteService) :=
  [⟨"name", serviceRenameParam, (·.name)⟩,
    ⟨"activate", "activate", (·.activated)⟩,
    ⟨"activeChecksEnabled", "active_checks_enabled", (·.activeChecks)⟩,
    ⟨"checkCommand", "check_command", (·.checkCommand)⟩,
    ⟨"arguments", "check_command_arguments", (·.checkArguments)⟩,
    ⟨"maxCheckAttempts", "max_check_attempts", (·.maxAttempts)⟩,
    ⟨"normalCheckInterval", "normal_check_interval", (·.normalInterval)⟩,
    ⟨"passiveChecksEnabled", "passive_checks_enabled", (·.passiveChecks)⟩,
    ⟨"retryCheckInterval", "retry_check_interval", (·.retryInterval)⟩,
    ⟨"template", "template", (·.template)⟩,
    ⟨"comment", "comment", (·.comment)⟩]

/-- The parameters of the scalars that differ and are not ignored, with the values wanted. -/
def changedParams {σ : Type} (scalars : List (Scalar σ)) (actual expected : σ)
    (ignored : List String) : KeyMap String :=
  KeyMap.ofList <| scalars.filterMap fun s =>
    if ignored.contains s.field || s.read actual = s.read expected then none
    else some (s.param, s.read expected)

/-- The elements of `left` that `right` lacks, sorted and each once. -/
def missingNames (left right : List String) : List String :=
  (KeyMap.ofList ((left.filter fun n => !right.contains n).map (·, ()))).keys

/-- Takes the first element that satisfies `p` out of a list. -/
def takeFirst? {α : Type} (p : α → Bool) : List α → Option (α × List α)
  | [] => none
  | x :: xs => if p x then some (x, xs) else (takeFirst? p xs).map fun r => (r.1, x :: r.2)

/-- Pairs each expected macro with the next actual one of its name. Gives the expected macros
that have no partner or one with another value or password flag, and the actual macros that are
left over. -/
def matchMacros : List ServiceMacro → List ServiceMacro → List ServiceMacro × List ServiceMacro
  | actual, [] => ([], actual)
  | actual, wanted :: rest =>
    match takeFirst? (fun m => m.name = wanted.name) actual with
    | none =>
      let (toSet, left) := matchMacros actual rest
      (wanted :: toSet, left)
    | some (current, remaining) =>
      let (toSet, left) := matchMacros remaining rest
      if current.value ≠ wanted.value || current.effectiveFlag ≠ wanted.effectiveFlag then
        (wanted :: toSet, left)
      else (toSet, left)

/-- The macros to set and the macros to delete. A macro that comes from a template or a command is
not removed, and neither is an empty one. -/
def macroChanges (actual expected : List ServiceMacro) : List ServiceMacro × List ServiceMacro :=
  let (toSet, left) := matchMacros actual expected
  (toSet, left.filter fun m => m.source = ServiceMacro.directSource && !m.value.isEmpty)

/-- What has to be changed on a service. -/
structure ServicePlan where
  /-- The values of parameters; the new name is among them. -/
  params : KeyMap String := .empty
  host : Option String := none
  groupsToSet : List String := []
  groupsToDelete : List String := []
  categoriesToSet : List String := []
  categoriesToDelete : List String := []
  macrosToSet : List ServiceMacro := []
  macrosToDelete : List ServiceMacro := []
deriving DecidableEq, Inhabited

namespace ServicePlan

/-- Whether there is something to change. -/
def isDiff (p : ServicePlan) : Bool :=
  !p.params.isEmpty || p.host.isSome || !p.groupsToSet.isEmpty || !p.groupsToDelete.isEmpty ||
    !p.categoriesToSet.isEmpty || !p.categoriesToDelete.isEmpty || !p.macrosToSet.isEmpty ||
    !p.macrosToDelete.isEmpty

/-- The smallest plan that turns `actual` into `expected`, leaving the ignored fields alone. -/
def between (actual expected : RemoteService) (ignored : List String) : ServicePlan :=
  let watched {α : Type} (field : String) (changes : α) (nothing : α) : α :=
    if ignored.contains field then nothing else changes
  let macros := watched "macros" (macroChanges actual.macros expected.macros) ([], [])
  { params := changedParams serviceScalars actual expected ignored
    host := watched "host" (if actual.host = expected.host then none else some expected.host) none
    groupsToSet := watched "groups" (missingNames expected.groups actual.groups) []
    groupsToDelete := watched "groups" (missingNames actual.groups expected.groups) []
    categoriesToSet := watched "categories" (missingNames expected.categories actual.categories) []
    categoriesToDelete :=
      watched "categories" (missingNames actual.categories expected.categories) []
    macrosToSet := macros.1
    macrosToDelete := macros.2 }

end ServicePlan

end MonitorSync
