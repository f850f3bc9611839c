import MonitorSync.Json.Parser
set_option autoImplicit false

/-!
# Values in templates

## Main definitions

* `Mustache.printed` — what a value tag prints
* `Mustache.isTruthy` — whether a value counts as true
* `Mustache.order?` — the order of two values, if they are comparable
-/

namespace MonitorSync

namespace Mustache

mutual

/-- What a value tag prints: nothing for null, the items of a list, but not the entries of an
object. -/
def printed : Json → String
  | .null => ""
  | .bool b => if b then "true" else "false"
  | .num n => n.toText
  | .str s => s
  | .arr items => "[" ++ String.intercalate ", " (printedItems items) ++ "]"
  | .obj _ => "[object]"

/-- What is printed for the items of a list. -/
def printedItems : List Json → List String
  | [] => []
  | v :: rest => printed v :: printedItems rest

end

/-- Whether a value counts as true: it is neither empty nor null nor zero, unless zero is
included. -/
def isTruthy (includeZero : Bool) : Json → Bool
  | .null => false
  | .bool b => b
  | .num n => includeZero || n.toDouble.isNormal
  | .str s => !s.isEmpty
  | .arr items => !items.isEmpty
  | .obj entries => !entries.isEmpty

/-- The order of two numbers by their exact values. -/
def orderNumbers : Number → Number → Ordering
  | .integer a, .integer b => compare a b
  | .float x, .float y => x.compare y
  | .integer a, .float y => compareMixed a y
  | .float x, .integer b => (compareMixed b x).swap
where
  /-- The order of an integer and a double. -/
  compareMixed (a : Int) (y : Binary64) : Ordering :=
    let (n, d) := y.ratio
    compare (a * d) (if y.negative then -(n : Int) else n)

/-- The order of two values. Numbers are comparable with one another and with texts that write a
number, texts with texts and flags with flags. -/
def order? : Json → Json → Option Ordering
  | .num a, .num b => some (orderNumbers a b)
  | .str a, .str b => some (compare a b)
  | .bool a, .bool b => some (compare a b)
  | .num a, .str b => (Json.Token.readNumber? b.toList).map (orderNumbers a)
  | .str a, .num b => (Json.Token.readNumber? a.toList).map fun n => orderNumbers n b
  | _, _ => none

end Mustache

end MonitorSync
