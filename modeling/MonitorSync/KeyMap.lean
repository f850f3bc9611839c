set_option autoImplicit false

/-!
# Maps with text keys

Labels, annotations, macros, plans and structured values are finite maps from texts to values
that are always read in increasing key order. `KeyMap` keeps its entries in that order, so a map
has one representation and a traversal needs no sorting.

## Main definitions

* `KeyMap` — entries in strictly increasing key order
* `KeyMap.get?`, `KeyMap.insert`, `KeyMap.erase` — lookup and update
* `KeyMap.ofList`, `KeyMap.extend` — building a map, where the last value of a key wins
-/

namespace MonitorSync

/-- A finite map from texts to `α`, listed by increasing key. -/
structure KeyMap (α : Type) where
  entries : List (String × α)
deriving DecidableEq, Repr

namespace KeyMap

variable {α β : Type}

/-- The map without entries. -/
protected def empty : KeyMap α := ⟨[]⟩

instance : Inhabited (KeyMap α) := ⟨.empty⟩
instance : EmptyCollection (KeyMap α) := ⟨.empty⟩

/-- The value stored first under `key` in a list of entries. -/
def lookup (key : String) : List (String × α) → Option α
  | [] => none
  | (k, v) :: rest => if k = key then some v else lookup key rest

/-- Puts an entry at its place in a sorted list of entries, replacing one of the same key. -/
def insertEntry (key : String) (value : α) : List (String × α) → List (String × α)
  | [] => [(key, value)]
  | (k, v) :: rest =>
    if key = k then (key, value) :: rest
    else if key < k then (key, value) :: (k, v) :: rest
    else (k, v) :: insertEntry key value rest

/-- The value of a key. -/
def get? (m : KeyMap α) (key : String) : Option α := lookup key m.entries

/-- Whether a key has a value. -/
def contains (m : KeyMap α) (key : String) : Bool := (m.get? key).isSome

/-- Gives `key` the value `value`. -/
def insert (m : KeyMap α) (key : String) (value : α) : KeyMap α :=
  ⟨insertEntry key value m.entries⟩

/-- Removes a key. -/
def erase (m : KeyMap α) (key : String) : KeyMap α :=
  ⟨m.entries.filter fun e => e.1 ≠ key⟩

/-- The entries by increasing key. -/
def toList (m : KeyMap α) : List (String × α) := m.entries

/-- The keys in increasing order. -/
def keys (m : KeyMap α) : List String := m.entries.map Prod.fst

/-- The values by increasing key. -/
def values (m : KeyMap α) : List α := m.entries.map Prod.snd

/-- Whether the map has no entry. -/
def isEmpty (m : KeyMap α) : Bool := m.entries.isEmpty

/-- The number of entries. -/
def size (m : KeyMap α) : Nat := m.entries.length

/-- Adds entries from left to right: of two entries of one key, the last wins. -/
def extendList (m : KeyMap α) (entries : List (String × α)) : KeyMap α :=
  entries.foldl (fun acc e => acc.insert e.1 e.2) m

/-- The map of a list of entries: of two entries of one key, the last wins. -/
def ofList (entries : List (String × α)) : KeyMap α := extendList .empty entries

/-- Adds all entries of `other`, which win over present ones. -/
def extend (m other : KeyMap α) : KeyMap α := m.extendList other.entries

/-- Applies a function to every value. -/
def map (f : α → β) (m : KeyMap α) : KeyMap β := ⟨m.entries.map fun e => (e.1, f e.2)⟩

/-- Keeps the entries that satisfy `p`. -/
def filter (p : String → α → Bool) (m : KeyMap α) : KeyMap α :=
  ⟨m.entries.filter fun e => p e.1 e.2⟩

end KeyMap

end MonitorSync
