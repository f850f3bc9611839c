import MonitorSync.Json.Basic
import MonitorSync.Remote.Call
set_option autoImplicit false

/-!
# Commands of the platform

Every call to the platform is a command: an action on a kind of object, and values separated by
semicolons.

## Main definitions

* `Command` — an action, a kind of object, and values
* `RemoteCall.mutation?` — the command of a call that changes something
-/

namespace MonitorSync

/-- An action on a kind of object, with its values. -/
structure Command where
  action : String
  object : String
  values : String
deriving DecidableEq, Repr, Inhabited

namespace Command

/-- Puts values one after the other. -/
def joinValues (values : List String) : String := String.intercalate ";" values

/-- Puts the names of a list one after the other. -/
def joinNames (names : List String) : String := String.intercalate "|" names

/-- The kind of object of services. -/
def serviceObject : String := "SERVICE"

/-- The kind of object of service groups. -/
def groupObject : String := "SG"

/-- A command about services. -/
def onService (action : String) (values : List String) : Command :=
  ⟨action, serviceObject, joinValues values⟩

/-- A command about service groups. -/
def onGroup (action : String) (values : List String) : Command :=
  ⟨action, groupObject, joinValues values⟩

/-- The action and the kind of object. -/
def display (c : Command) : String := c.action ++ " " ++ c.object

/-- The written form. -/
def toJson (c : Command) : Json := .ofEntries
  [("action", .str c.action), ("object", .str c.object), ("values", .str c.values)]

end Command

open Command

/-- The command of a call that changes something. -/
def RemoteCall.mutation? : RemoteCall → Option Command
  | getService _ _ => none
  | addService host name template => some (onService "add" [host, name, template])
  | setServiceParam host name param value =>
    some (onService "setparam" [host, name, param, value])
  | setServiceGroups host name groups =>
    some (onService "addservicegroup" [host, name, joinNames groups])
  | deleteServiceGroups host name groups =>
    some (onService "delservicegroup" [host, name, joinNames groups])
  | setServiceCategories host name categories =>
    some (onService "addcategory" [host, name, joinNames categories])
  | deleteServiceCategories host name categories =>
    some (onService "delcategory" [host, name, joinNames categories])
  | setServiceMacro host name m =>
    some (onService "setmacro" [host, name, m.name, m.value, m.effectiveFlag, ""])
  | deleteServiceMacro host name macroName =>
    some (onService "delmacro" [host, name, macroName])
  | setServiceHost host name newHost => some (onService "sethost" [host, name, newHost])
  | deleteService host name => some (onService "del" [host, name])
  | getGroup _ => none
  | addGroup name description => some (onGroup "add" [name, description])
  | setGroupParam name param value => some (onGroup "setparam" [name, param, value])
  | deleteGroup name => some (onGroup "del" [name])

end MonitorSync
