import MonitorSync.Datum.Basic
import MonitorSync.Encoding.Base64
import MonitorSync.Time.Instant
set_option autoImplicit false

/-!
# The shapes of cluster objects

The parts of a cluster object have fixed types. A shape describes them, and reading data by a shape
checks every part, drops unknown fields, and gives the value in its written form.

## Main definitions

* `Shape` — the type of a part of an object
* `Shape.read?` — the value that data stands for, if it has the shape
-/

namespace MonitorSync

/-- The type of a part of an object. -/
inductive Shape where
  | text
  | flag
  /-- An integer of 32 bits. -/
  | small
  /-- An integer of 64 bits. -/
  | integer
  | instant
  /-- Bytes as base64 digits. -/
  | bytes
  | anything
  | list (item : Shape)
  | map (value : Shape)
  /-- Fields by name; a field that is `always` there has a default. -/
  | object (fields : List (String × Bool × Shape))

namespace Shape

/-- An integer of 32 bits. -/
def small? (d : Datum) : Option Int := do
  let n ← d.integer?
  if -(twoPow 31 : Int) ≤ n && n < (twoPow 31 : Int) then some n else none

/-- Base64 digits of bytes. -/
def bytes? (d : Datum) : Option String := do
  let s ← d.text?
  let _ ← Base64.decode? s.toList
  some s

mutual

/-- The value of a part that must be there and is not. -/
def default : Shape → Json
  | .text => .str ""
  | .flag => .bool false
  | .small => .int 0
  | .integer => .int 0
  | .instant => .str ""
  | .bytes => .str ""
  | .anything => .null
  | .list _ => .arr []
  | .map _ => .obj []
  | .object fields => .ofEntries (defaults fields)

/-- The fields of an object that must be there, with their defaults. -/
def defaults : List (String × Bool × Shape) → List (String × Json)
  | [] => []
  | (name, always, shape) :: rest =>
    if always then (name, default shape) :: defaults rest else defaults rest

end

/-- The last value of a key, where null is as good as none. -/
def lastValue? (name : String) (entries : List (String × Datum)) : Option Datum :=
  KeyMap.lookup name entries.reverse

mutual

/-- The value that data stands for, in its written form. A field may be null, which is as if it
were not there; unknown fields are ignored. -/
def read? : Shape → Datum → Option Json
  | .text, d => d.text?.map .str
  | .flag, d => d.flag?.map .bool
  | .small, d => (small? d).map .int
  | .integer, d => d.integer?.map .int
  | .instant, d => do
    let t ← Instant.read? (← d.text?)
    some (.str t.toText)
  | .bytes, d => (bytes? d).map .str
  | .anything, d => d.toJson?
  | .list item, d => do
    let items ← d.items?
    let values ← items.mapM (read? item)
    some (.arr values)
  | .map value, d => do
    let m ← d.map? (read? value)
    some (.ofMap m)
  | .object fields, d => do
    let entries ← match d with
      | .list _ => none
      | _ => d.namedEntries?
    let values ← readFields? fields entries
    some (.ofEntries values)

/-- The fields of an object in their written form. -/
def readFields? : List (String × Bool × Shape) → List (String × Datum) →
    Option (List (String × Json))
  | [], _ => some []
  | (name, always, shape) :: rest, entries => do
    let given ← match lastValue? name entries with
      | none => some none
      | some d => Datum.optional? (read? shape) d
    let others ← readFields? rest entries
    match given with
    | some v => some ((name, v) :: others)
    | none => some (if always then (name, default shape) :: others else others)

end

/-- An optional field. -/
def field (name : String) (shape : Shape) : String × Bool × Shape := (name, false, shape)

/-- A field that is always there. -/
def always (name : String) (shape : Shape) : String × Bool × Shape := (name, true, shape)

/-- Optional text fields. -/
def textFields (names : List String) : List (String × Bool × Shape) := names.map (field · text)

/-- Text fields that are always there. -/
def alwaysTexts (names : List String) : List (String × Bool × Shape) := names.map (always · text)

end Shape

end MonitorSync
