import MonitorSync.Remote.Call
set_option autoImplicit false

/-!
# A monitoring platform in memory

The rules by which a platform answers calls: services are found by host and name and groups by
name, adding what exists is refused, and so is changing what does not exist.

## Main definitions

* `InMemoryPlatform` — the services and groups that the platform holds
* `InMemoryPlatform.answer` — the answer to a call, and the platform after it
* `InMemoryPlatform.run` — running work, where chosen calls fail without effect
-/

namespace MonitorSync

/-- The content of a platform. -/
structure InMemoryPlatform where
  services : List RemoteService
  groups : List RemoteGroup
deriving DecidableEq, Repr, Inhabited

namespace InMemoryPlatform

/-- Changes the first element that satisfies `p`. -/
def modifyFirst {α : Type} (p : α → Bool) (f : α → α) : List α → List α
  | [] => []
  | x :: xs => if p x then f x :: xs else x :: modifyFirst p f xs

/-- Whether a service has the given host and name. -/
def isService (host name : String) (s : RemoteService) : Bool := s.host = host && s.name = name

/-- Whether a group has the given name. -/
def isGroup (name : String) (g : RemoteGroup) : Bool := g.name = name

/-- The first service of a host and name. -/
def service? (p : InMemoryPlatform) (host name : String) : Option RemoteService :=
  p.services.find? (isService host name)

/-- The first group of a name. -/
def group? (p : InMemoryPlatform) (name : String) : Option RemoteGroup :=
  p.groups.find? (isGroup name)

/-- The refusal of a call. -/
def refusal (method : String) (code : Nat) (text : String) : Failure :=
  .methodFailed method code text

/-- Changes an existing service; the call `method` is refused if there is none, or if the change
does not apply to it. -/
def changeService (p : InMemoryPlatform) (method host name : String)
    (f : RemoteService → Option RemoteService) : Except Failure Unit × InMemoryPlatform :=
  match p.service? host name with
  | none => (.error (refusal method 404 "not found"), p)
  | some s =>
    match f s with
    | none => (.error (refusal method 400 "unknown param"), p)
    | some t =>
      (.ok (), { p with services := modifyFirst (isService host name) (fun _ => t) p.services })

/-- Changes an existing group, in the same way. -/
def changeGroup (p : InMemoryPlatform) (method name : String)
    (f : RemoteGroup → Option RemoteGroup) : Except Failure Unit × InMemoryPlatform :=
  match p.group? name with
  | none => (.error (refusal method 404 "not found"), p)
  | some g =>
    match f g with
    | none => (.error (refusal method 400 "unknown param"), p)
    | some h => (.ok (), { p with groups := modifyFirst (isGroup name) (fun _ => h) p.groups })

/-- Appends the names that are not there yet. -/
def addNames (present names : List String) : List String :=
  names.foldl (fun acc n => if acc.contains n then acc else acc ++ [n]) present

/-- Removes names. -/
def removeNames (present names : List String) : List String :=
  present.filter fun n => !names.contains n

/-- Replaces the first macro of the same name, or appends. -/
def putMacro (m : ServiceMacro) (ms : List ServiceMacro) : List ServiceMacro :=
  if ms.any fun x => x.name = m.name then modifyFirst (fun x => x.name = m.name) (fun _ => m) ms
  else ms ++ [m]

/-- The answer to a call and the platform after it. -/
def answer : (c : RemoteCall) → InMemoryPlatform → c.Answer × InMemoryPlatform
  | .getService host name, p => (.ok (p.service? host name), p)
  | .addService host name template, p =>
    if (p.service? host name).isSome then
      (.error (refusal "add_service" 409 "already exists"), p)
    else
      let s : RemoteService := { host := host, name := name, template := template }
      (.ok (), { p with services := p.services ++ [s] })
  | .setServiceParam host name param value, p =>
    p.changeService "set_service_param" host name fun s => s.setParam? param value
  | .setServiceGroups host name groups, p =>
    p.changeService "set_service_groups" host name fun s =>
      some { s with groups := addNames s.groups groups }
  | .deleteServiceGroups host name groups, p =>
    p.changeService "delete_service_groups" host name fun s =>
      some { s with groups := removeNames s.groups groups }
  | .setServiceCategories host name categories, p =>
    p.changeService "set_service_categories" host name fun s =>
      some { s with categories := addNames s.categories categories }
  | .deleteServiceCategories host name categories, p =>
    p.changeService "delete_service_categories" host name fun s =>
      some { s with categories := removeNames s.categories categories }
  | .setServiceMacro host name m, p =>
    p.changeService "set_service_macro" host name fun s =>
      some { s with macros := putMacro m s.macros }
  | .deleteServiceMacro host name macroName, p =>
    p.changeService "delete_service_macro" host name fun s =>
      some { s with macros := s.macros.filter fun m => m.name ≠ macroName }
  | .setServiceHost host name newHost, p =>
    p.changeService "set_service_host" host name fun s => some { s with host := newHost }
  | .deleteService host name, p =>
    (.ok (), { p with services := p.services.filter fun s => !isService host name s })
  | .getGroup name, p => (.ok (p.group? name), p)
  | .addGroup name description, p =>
    if (p.group? name).isSome then
      (.error (refusal "add_service_group" 409 "already exists"), p)
    else
      let g : RemoteGroup := { name := name, description := description }
      (.ok (), { p with groups := p.groups ++ [g] })
  | .setGroupParam name param value, p =>
    p.changeGroup "set_service_group_param" name fun g => g.setParam? param value
  | .deleteGroup name, p =>
    (.ok (), { p with groups := p.groups.filter fun g => !isGroup name g })

/-- The calls made so far, newest first, and the platform after them. -/
structure Run where
  calls : List RemoteCall
  platform : InMemoryPlatform

/-- Answers a call and records it. `failing n c` is the failure of the call `c` if it is the `n`th
from zero and shall fail; a failing call has no effect. -/
def Run.answer (failing : Nat → RemoteCall → Option Failure) (c : RemoteCall) (r : Run) :
    c.Answer × Run :=
  let calls := c :: r.calls
  match failing r.calls.length c with
  | some e => (.error e, ⟨calls, r.platform⟩)
  | none =>
    let result := InMemoryPlatform.answer c r.platform
    (result.1, ⟨calls, result.2⟩)

/-- Runs work on the platform: its result, the calls it made in order, and the platform after
it. -/
def run {α : Type} (p : InMemoryPlatform) (failing : Nat → RemoteCall → Option Failure)
    (work : Remote α) : Except Failure α × List RemoteCall × InMemoryPlatform :=
  let (result, r) := Program.run (Run.answer failing) (ExceptT.run work) ⟨[], p⟩
  (result, r.calls.reverse, r.platform)

end InMemoryPlatform

end MonitorSync
