import MonitorSync.Mustache.Tools
set_option autoImplicit false

/-!
# The arguments of helpers

## Main definitions

* `Mustache.Arguments` — the evaluated arguments of a call
* `Mustache.ValueHelper` — a helper that gives a value
-/

namespace MonitorSync

namespace Mustache

/-- The evaluated arguments of a call; what is missing in the data is null. -/
structure Arguments where
  /-- What the helper works with. -/
  tools : Tools
  args : List Json
  named : List (String × Json)

namespace Arguments

/-- An argument by position. -/
def get (a : Arguments) (i : Nat) : Except String Json :=
  match a.args[i]? with
  | some v => .ok v
  | none => .error "missing argument"

/-- A named argument, the last one of its name. -/
def named? (a : Arguments) (name : String) : Option Json := KeyMap.lookup name a.named.reverse

/-- An argument that must be of some kind. -/
def typed {α : Type} (a : Arguments) (read : Json → Option α) (i : Nat) : Except String α := do
  match read (← a.get i) with
  | some v => .ok v
  | none => .error "argument of the wrong type"

/-- An argument that must be a text. -/
def text (a : Arguments) (i : Nat) : Except String String := a.typed Json.toText? i

/-- An argument that must be a list. -/
def list (a : Arguments) (i : Nat) : Except String (List Json) :=
  a.typed (fun v => match v with | .arr items => some items | _ => none) i

/-- An argument that must be an object. -/
def object (a : Arguments) (i : Nat) : Except String (List (String × Json)) :=
  a.typed (fun v => match v with | .obj entries => some entries | _ => none) i

/-- An argument that must be a signed integer. -/
def integer (a : Arguments) (i : Nat) : Except String Int :=
  a.typed (fun v => match v with | .num n => n.toSigned? | _ => none) i

/-- A named argument that must be a text. -/
def namedText (a : Arguments) (name : String) : Except String String :=
  match a.named? name with
  | some (.str s) => .ok s
  | some _ => .error "argument of the wrong type"
  | none => .error "missing argument"

/-- A named argument that must be a text if it is there. -/
def namedTextOr (a : Arguments) (name default : String) : Except String String :=
  if (a.named? name).isNone then .ok default else a.namedText name

end Arguments

/-- A helper that gives a value. -/
abbrev ValueHelper := Arguments → Except String Json

/-- A helper of a text. -/
def onText (f : String → String) : ValueHelper := fun a => do return .str (f (← a.text 0))

end Mustache

end MonitorSync
