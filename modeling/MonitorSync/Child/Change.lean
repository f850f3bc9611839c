import MonitorSync.Child.Kind
set_option autoImplicit false

/-!
# What applying a child changes

## Main definitions

* `Json.contains` — whether every part of a value is found in another one
* `childChange?` — what applying a child changes
-/

namespace MonitorSync

mutual

/-- Whether every part of `wanted` is found in `actual`. Further fields of objects are ignored, as
the API server adds defaults. -/
def Json.contains (actual wanted : Json) : Bool :=
  match wanted with
  | .obj entries =>
    match actual with
    | .obj present => Json.containsEntries present entries
    | _ => false
  | .null => actual == .null
  | .bool b => actual == .bool b
  | .num n => actual == .num n
  | .str s => actual == .str s
  | .arr items => actual == .arr items

/-- Whether the entries of an object are found among those of another. -/
def Json.containsEntries (present : List (String × Json)) : List (String × Json) → Bool
  | [] => true
  | (key, v) :: rest =>
    (match KeyMap.lookup key present with
      | some a => Json.contains a v
      | none => false) && Json.containsEntries present rest

end

/-- What applying a child changes. -/
inductive ChildChange where
  | create
  | update
deriving DecidableEq, Repr

/-- The last object of a key. -/
def lastOfKey? (key : ChildKey) (objects : List ClusterObject) : Option ClusterObject :=
  objects.reverse.find? fun o => o.childKey = key

/-- What applying a child changes, nothing if the present one has its specification already. -/
def childChange? (current : List ClusterObject) (child : ClusterObject) : Option ChildChange :=
  match lastOfKey? child.childKey current with
  | none => some .create
  | some present => if present.spec.contains child.spec then none else some .update

end MonitorSync
