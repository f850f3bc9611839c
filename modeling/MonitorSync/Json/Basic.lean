import MonitorSync.KeyMap
import MonitorSync.Decimal.Binary64
set_option autoImplicit false

/-!
# Structured values

The free-form data of the system: the fields of cluster objects, the variables of a template and
the rows of the monitoring platform.

## Main definitions

* `Number` — an integer of 64 bits or a double
* `Json` — null, booleans, numbers, texts, lists and objects
* `Json.same` — equality of values, in which the two zeros of a double are equal
* `Json.get?`, `Json.field` — the value under a key of an object
-/

namespace MonitorSync

/-- A number as it was written: without a fraction or exponent it is an integer, else a double. -/
inductive Number where
  | integer (value : Int)
  | float (value : Binary64)
deriving DecidableEq, Repr

namespace Number

/-- The least integer that is kept as one. -/
def minInteger : Int := -(twoPow 63 : Int)

/-- The greatest integer that is kept as one. -/
def maxInteger : Int := (twoPow 64 : Int) - 1

/-- The greatest signed integer. -/
def maxSigned : Int := (twoPow 63 : Int) - 1

/-- Equality of numbers: an integer never equals a double. -/
def same : Number → Number → Bool
  | .integer a, .integer b => a == b
  | .float a, .float b => a.equal b
  | _, _ => false

/-- The signed integer, if the number is one. -/
def toSigned? : Number → Option Int
  | .integer a => if a ≤ maxSigned then some a else none
  | .float _ => none

/-- The unsigned integer, if the number is one. -/
def toUnsigned? : Number → Option Nat
  | .integer a => if 0 ≤ a then some a.toNat else none
  | .float _ => none

/-- The nearest double. -/
def toDouble : Number → Binary64
  | .integer a => (Binary64.ofInt a).getD (.zero false)
  | .float x => x

/-- The written form. -/
def toText : Number → String
  | .integer a => toString a
  | .float x => x.toText

end Number

/-- A structured value. The entries of an object built by this library stand in increasing key
order, each key once. -/
inductive Json where
  | null
  | bool (value : Bool)
  | num (value : Number)
  | str (value : String)
  | arr (items : List Json)
  | obj (entries : List (String × Json))

namespace Json

instance : Inhabited Json := ⟨.null⟩

mutual

/-- Equality of values: numbers by `Number.same`, lists and objects entry by entry. -/
def same : Json → Json → Bool
  | .null, .null => true
  | .bool a, .bool b => a == b
  | .num a, .num b => a.same b
  | .str a, .str b => a == b
  | .arr a, .arr b => sameItems a b
  | .obj a, .obj b => sameEntries a b
  | _, _ => false

/-- Equality of the items of two lists, in order. -/
def sameItems : List Json → List Json → Bool
  | [], [] => true
  | a :: as, b :: bs => same a b && sameItems as bs
  | _, _ => false

/-- Equality of the entries of two objects, in order. -/
def sameEntries : List (String × Json) → List (String × Json) → Bool
  | [], [] => true
  | (k, a) :: as, (l, b) :: bs => k == l && same a b && sameEntries as bs
  | _, _ => false

end

instance : BEq Json := ⟨same⟩

/-- An object with the given entries, where the last value of a key wins. -/
def ofEntries (entries : List (String × Json)) : Json := .obj (KeyMap.ofList entries).entries

/-- An object made of a map. -/
def ofMap (m : KeyMap Json) : Json := .obj m.entries

/-- An integer value. -/
def int (n : Int) : Json := .num (.integer n)

/-- A natural number. -/
def nat (n : Nat) : Json := .num (.integer n)

/-- A list of texts. -/
def texts (xs : List String) : Json := .arr (xs.map .str)

/-- An object whose values are texts. -/
def textMap (m : KeyMap String) : Json := ofMap (m.map .str)

/-- A text, or null when absent. -/
def text? (s : Option String) : Json := s.elim .null .str

/-- An entry that is left out when there is no value. -/
def entry? (key : String) (value : Option Json) : List (String × Json) :=
  value.elim [] fun v => [(key, v)]

/-- An entry that is left out when its text is empty. -/
def textEntry (key value : String) : List (String × Json) :=
  if value.isEmpty then [] else [(key, .str value)]

/-- An entry that is left out when its list is empty. -/
def textsEntry (key : String) (values : List String) : List (String × Json) :=
  if values.isEmpty then [] else [(key, texts values)]

/-- The value under a key of an object. -/
def get? (key : String) : Json → Option Json
  | .obj entries => KeyMap.lookup key entries
  | _ => none

/-- The value under a key of an object, null when there is none. -/
def field (key : String) (v : Json) : Json := (v.get? key).getD .null

/-- The text, if the value is one. -/
def toText? : Json → Option String
  | .str s => some s
  | _ => none

/-- Whether the value is an object. -/
def isObject : Json → Bool
  | .obj _ => true
  | _ => false

/-- Sets a key of an object; other values are left alone. -/
def set (v : Json) (key : String) (value : Json) : Json :=
  match v with
  | .obj entries => .obj (KeyMap.insertEntry key value entries)
  | v => v

/-- Removes a key of an object; other values are left alone. -/
def remove (key : String) : Json → Json
  | .obj entries => .obj (entries.filter fun e => e.1 ≠ key)
  | v => v

mutual

/-- Merges `patch` into `target`: objects are merged key by key, any other value replaces. -/
def merge (target : Json) (patch : Json) : Json :=
  match patch with
  | .obj entries =>
    match target with
    | .obj present => .obj (mergeEntries present entries)
    | _ => .obj (mergeEntries [] entries)
  | .null => .null
  | .bool b => .bool b
  | .num n => .num n
  | .str s => .str s
  | .arr xs => .arr xs

/-- Merges the entries of a patch into the entries of an object. -/
def mergeEntries (present : List (String × Json)) :
    List (String × Json) → List (String × Json)
  | [] => present
  | (k, v) :: rest =>
    mergeEntries (KeyMap.insertEntry k (merge ((KeyMap.lookup k present).getD .null) v) present)
      rest

end

end Json

end MonitorSync
