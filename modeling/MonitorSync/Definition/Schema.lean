import MonitorSync.Json.Basic
set_option autoImplicit false

/-!
# Schemas of resources

## Main definitions

* `Schema` — the schema of a value, in its written form
* `Schema.object` — the schema of an object with the given properties
-/

namespace MonitorSync

/-- The schema of a value, as the entries of its written form. -/
structure Schema where
  entries : List (String × Json)

namespace Schema

/-- The written form. -/
def toJson (s : Schema) : Json := .ofEntries s.entries

/-- A schema with a further entry. -/
def having (key : String) (v : Json) (s : Schema) : Schema := ⟨s.entries ++ [(key, v)]⟩

/-- A schema of the given type. -/
def ofType (type : String) : Schema := ⟨[("type", .str type)]⟩

/-- Texts. -/
def text : Schema := ofType "string"

/-- Flags. -/
def flag : Schema := ofType "boolean"

/-- Integers of 64 bits. -/
def integer : Schema := having "format" (.str "int64") (ofType "integer")

/-- Points in time. -/
def instant : Schema := having "format" (.str "date-time") text

/-- One of some words. -/
def oneOf (words : List String) : Schema := having "enum" (.texts words) text

/-- Lists. -/
def list (item : Schema) : Schema := having "items" item.toJson (ofType "array")

/-- Maps from texts. -/
def map (value : Schema) : Schema := having "additionalProperties" value.toJson (ofType "object")

/-- Objects, some of whose properties are required. -/
def object (required : List String) (properties : List (String × Schema)) : Schema :=
  let properties := Json.ofEntries (properties.map fun p => (p.1, p.2.toJson))
  let s := having "properties" properties (ofType "object")
  if required.isEmpty then s else having "required" (.texts required) s

/-- A schema with a description. -/
def described (text : String) (s : Schema) : Schema := having "description" (.str text) s

/-- A schema that also allows null. -/
def nullable (s : Schema) : Schema := having "nullable" (.bool true) s

/-- A schema with a default value. -/
def defaultsTo (v : Json) (s : Schema) : Schema := having "default" v s

end Schema

end MonitorSync
