import MonitorSync.Encoding.Base64
import MonitorSync.Json.Printer
import MonitorSync.Mustache.TextHelper
import MonitorSync.Mustache.Value
set_option autoImplicit false

/-!
# The helpers of templates

Most helpers give a value. Others are directives: they decide what of a block is printed, or change
what the rest of the template sees.

## Main definitions

* `Mustache.valueHelper?` — the helper of a name that gives a value
* `Mustache.isDirective` — the names of the other helpers
* `Mustache.convertedText?` — what a block prints whose text is read in one notation and written in
  another
-/

namespace MonitorSync

namespace Mustache

/-- A value as part of a longer text: a text as it is, nothing for null, and the compact form of
any other value. -/
def joined : Json → String
  | .str s => s
  | .null => ""
  | v => v.compact

/-- The result of an operation on integers, null beyond 64 bits. -/
def checkedInteger (n : Int) : Json :=
  if Number.minInteger ≤ n && n ≤ Number.maxSigned then .int n else .null

/-- The number of items of a value, or of bytes of a text; other values have none. -/
def sizeOfValue : Json → Nat
  | .arr items => items.length
  | .obj entries => entries.length
  | .str s => s.utf8ByteSize
  | _ => 0

/-- The text that base64 digits stand for, empty if they are not valid. -/
def decodedText (digits : String) : String :=
  ((Base64.decode? digits.toList).bind utf8Text?).getD ""

/-- A helper of two values that gives a flag. -/
def comparison (p : Json → Json → Bool) : ValueHelper := fun a => do
  return .bool (p (← a.get 0) (← a.get 1))

/-- A helper of two integers. -/
def arithmetic (f : Int → Int → Int) : ValueHelper := fun a => do
  return checkedInteger (f (← a.integer 0) (← a.integer 1))

/-- The item of a list or the value of an object's key, null if there is none. -/
def lookUp (collection index : Json) : Json :=
  match collection, index with
  | .arr items, .num n => (n.toUnsigned?.bind (items[·]?)).getD .null
  | .obj entries, .str key => (KeyMap.lookup key entries).getD .null
  | _, _ => .null

/-- The items of a list as one text. -/
def joinList : ValueHelper := fun a => do
  let items ← a.list 0
  let separator ← a.namedTextOr "sep" ","
  return .str (String.intercalate separator (items.map joined))

/-- Reads a text in a notation. -/
def decodeAs (tools : Tools) (format text : String) : Except String Json :=
  if format = "json" || format = "json_pretty" then
    match Json.read? text with
    | some v => .ok v
    | none => .error "not a value"
  else tools.decode format text

/-- Writes a value in a notation. -/
def encodeAs (tools : Tools) (format : String) (v : Json) : Except String String :=
  match format with
  | "json" => .ok v.compact
  | "json_pretty" => .ok v.pretty
  | _ => tools.encode format v

/-- The notation that a call asks for. -/
def Arguments.format (a : Arguments) : String := ((a.named? "format").bind Json.toText?).getD "json"

/-- What the block of a name prints if it turns its text from one notation into another. -/
def convertedText? : String → Option (Arguments → String → Except String String)
  | "to_json" => some fun a text => do
    return (← decodeAs a.tools a.format text).pretty
  | "from_json" => some fun a text => do
    encodeAs a.tools a.format (← decodeAs a.tools "json" text)
  | _ => none

/-- The helper of a name that gives a value. -/
def valueHelper? : String → Option ValueHelper
  | "lookup" => some fun a => do return lookUp (← a.get 0) (← a.get 1)
  | "len" => some fun a => do return .nat (sizeOfValue (← a.get 0))
  | "eq" => some (comparison fun x y => x == y)
  | "ne" => some (comparison fun x y => !(x == y))
  | "gt" => some (comparison fun x y => order? x y = some .gt)
  | "gte" => some (comparison fun x y => (order? x y).any (· ≠ .lt))
  | "lt" => some (comparison fun x y => order? x y = some .lt)
  | "lte" => some (comparison fun x y => (order? x y).any (· ≠ .gt))
  | "and" => some (comparison fun x y => isTruthy false x && isTruthy false y)
  | "or" => some (comparison fun x y => isTruthy false x || isTruthy false y)
  | "not" => some fun a => do return .bool (!isTruthy false (← a.get 0))
  | "concat" => some fun a => do return .str (joined (← a.get 0) ++ joined (← a.get 1))
  | "join" => some joinList
  | "first" => some fun a => do return (← a.list 0).head?.getD .null
  | "last" => some fun a => do return (← a.list 0).getLast?.getD .null
  | "has_key" => some fun a => do
    let entries ← a.object 0
    return .bool (KeyMap.lookup (← a.text 1) entries).isSome
  | "default" => some fun a => do
    let value ← a.get 0
    let fallback ← a.get 1
    match value with
    | .null => return fallback
    | .str "" => return fallback
    | v => return v
  | "add" => some (arithmetic (· + ·))
  | "sub" => some (arithmetic (· - ·))
  | "mul" => some (arithmetic (· * ·))
  | "base64_encode" => some fun a => do
    let text := (← a.get 0).toText?.getD ""
    return .str (String.ofList (Base64.encode (utf8Bytes text)))
  | "base64_decode" => some fun a => do
    return .str (decodedText ((← a.get 0).toText?.getD ""))
  | "json_to_str" => some fun a => do return .str (← encodeAs a.tools a.format (← a.get 0))
  | "str_to_json" => some fun a => do decodeAs a.tools a.format (← a.text 0)
  | "json_query" => some fun a => do a.tools.query (← a.text 0) (← a.get 1)
  | "json_str_query" => some fun a => do
    let selected ← a.tools.query (← a.text 0) (← decodeAs a.tools a.format (← a.text 1))
    return .str (← encodeAs a.tools a.format selected)
  | name => textHelper? name

/-- Whether a name is that of a helper that does something else than give a value. -/
def isDirective (name : String) : Bool :=
  ["if", "unless", "each", "with", "raw", "log", "assign", "to_json", "from_json"].contains name

end Mustache

end MonitorSync
