import MonitorSync.Effect.Program
import MonitorSync.Failure
import MonitorSync.Remote.Service
set_option autoImplicit false

/-!
# Calls to the monitoring platform

## Main definitions

* `RemoteCall` — what can be asked of the platform
* `RemoteCall.Reply` — what a call gives when it succeeds
* `Remote` — work on the platform that ends at the first failing call
-/

namespace MonitorSync

/-- What can be asked of the platform. A service is addressed by host and name, a group by name. -/
inductive RemoteCall where
  | getService (host name : String)
  | addService (host name template : String)
  | setServiceParam (host name param value : String)
  | setServiceGroups (host name : String) (groups : List String)
  | deleteServiceGroups (host name : String) (groups : List String)
  | setServiceCategories (host name : String) (categories : List String)
  | deleteServiceCategories (host name : String) (categories : List String)
  | setServiceMacro (host name : String) (m : ServiceMacro)
  | deleteServiceMacro (host name macroName : String)
  | setServiceHost (host name newHost : String)
  | deleteService (host name : String)
  | getGroup (name : String)
  | addGroup (name description : String)
  | setGroupParam (name param value : String)
  | deleteGroup (name : String)
deriving DecidableEq, Repr

namespace RemoteCall

/-- What a call gives when it succeeds. -/
@[reducible] def Reply : RemoteCall → Type
  | getService _ _ => Option RemoteService
  | getGroup _ => Option RemoteGroup
  | _ => Unit

/-- The answer to a call. -/
@[reducible] def Answer (c : RemoteCall) : Type := Except Failure c.Reply

/-- The name of the method of a call. -/
def method : RemoteCall → String
  | getService .. => "get_service"
  | addService .. => "add_service"
  | setServiceParam .. => "set_service_param"
  | setServiceGroups .. => "set_service_groups"
  | deleteServiceGroups .. => "delete_service_groups"
  | setServiceCategories .. => "set_service_categories"
  | deleteServiceCategories .. => "delete_service_categories"
  | setServiceMacro .. => "set_service_macro"
  | deleteServiceMacro .. => "delete_service_macro"
  | setServiceHost .. => "set_service_host"
  | deleteService .. => "delete_service"
  | getGroup .. => "get_service_group"
  | addGroup .. => "add_service_group"
  | setGroupParam .. => "set_service_group_param"
  | deleteGroup .. => "delete_service_group"

end RemoteCall

/-- Work on the platform. It ends at the first call that fails. -/
abbrev Remote (α : Type) := ExceptT Failure (Program RemoteCall RemoteCall.Answer) α

/-- A single call. -/
def Remote.call (c : RemoteCall) : Remote c.Reply := ExceptT.mk (Program.call c)

end MonitorSync
