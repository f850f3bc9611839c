set_option autoImplicit false

/-!
# Services and service groups on the monitoring platform

All scalars have the text form that the platform uses: flags are `0`, `1` or, for "as the
platform has it", `2`.

## Main definitions

* `ServiceMacro` — a macro of a service
* `RemoteService`, `RemoteGroup` — a service and a service group as the platform holds them
* `RemoteService.setParam?`, `RemoteGroup.setParam?` — changing the scalar of a parameter
-/

namespace MonitorSync

/-- A macro of a service. -/
structure ServiceMacro where
  name : String
  value : String
  /-- Whether the value is hidden, empty for no. -/
  passwordFlag : String
  /-- Where the macro comes from: `direct` when it was set on the service itself. -/
  source : String
deriving DecidableEq, Repr, Inhabited

namespace ServiceMacro

/-- The source of a macro that was set on the service itself. -/
def directSource : String := "direct"

/-- A macro set on the service itself, its value visible. -/
def direct (name value : String) : ServiceMacro := ⟨name, value, "0", directSource⟩

/-- The password flag, `0` when it is not given. -/
def effectiveFlag (m : ServiceMacro) : String :=
  if m.passwordFlag.isEmpty then "0" else m.passwordFlag

end ServiceMacro

/-- A service of the platform. -/
structure RemoteService where
  host : String := ""
  name : String := ""
  checkCommand : String := ""
  checkArguments : String := ""
  normalInterval : String := ""
  retryInterval : String := ""
  maxAttempts : String := ""
  activeChecks : String := ""
  passiveChecks : String := ""
  activated : String := ""
  template : String := ""
  comment : String := ""
  groups : List String := []
  categories : List String := []
  macros : List ServiceMacro := []
deriving DecidableEq, Repr, Inhabited

/-- A service group of the platform. -/
structure RemoteGroup where
  name : String := ""
  activated : String := ""
  comment : String := ""
  description : String := ""
deriving DecidableEq, Repr, Inhabited

/-- The parameter whose change renames a service. -/
def serviceRenameParam : String := "description"

/-- The parameter whose change renames a service group. -/
def groupRenameParam : String := "name"

/-- Changes the scalar of a parameter, if there is such a parameter. -/
def RemoteService.setParam? (s : RemoteService) (param value : String) : Option RemoteService :=
  match param with
  | "description" => some { s with name := value }
  | "activate" => some { s with activated := value }
  | "active_checks_enabled" => some { s with activeChecks := value }
  | "check_command" => some { s with checkCommand := value }
  | "check_command_arguments" => some { s with checkArguments := value }
  | "max_check_attempts" => some { s with maxAttempts := value }
  | "normal_check_interval" => some { s with normalInterval := value }
  | "passive_checks_enabled" => some { s with passiveChecks := value }
  | "retry_check_interval" => some { s with retryInterval := value }
  | "template" => some { s with template := value }
  | "comment" => some { s with comment := value }
  | _ => none

/-- Changes the scalar of a parameter, if there is such a parameter. -/
def RemoteGroup.setParam? (g : RemoteGroup) (param value : String) : Option RemoteGroup :=
  match param with
  | "name" => some { g with name := value }
  | "activate" => some { g with activated := value }
  | "alias" => some { g with description := value }
  | "comment" => some { g with comment := value }
  | _ => none

end MonitorSync
