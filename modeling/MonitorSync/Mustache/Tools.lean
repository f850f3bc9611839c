import MonitorSync.Json.Basic
set_option autoImplicit false

/-!
# What helpers work with

Some helpers of templates look at the process that renders, or hand their work on to libraries of
their own: regular expressions, queries, other notations of values, and the grammar of English
nouns. These are a parameter of rendering.

## Main definitions

* `Mustache.PatternMatch` — where a regular expression matches a text
* `Mustache.Tools` — what helpers work with
-/

namespace MonitorSync

namespace Mustache

/-- Where a regular expression matches a text. -/
structure PatternMatch where
  /-- The texts of the groups by number, the whole match first. -/
  groups : List (Option String)
  /-- The texts of the groups that have names. -/
  named : List (String × Option String)

/-- A match as a value, without the groups that have no part in it. -/
def PatternMatch.toJson (m : PatternMatch) : Json :=
  let numbered := m.groups.zipIdx.map fun (text, i) => ("_" ++ toString i, text)
  .ofEntries ((numbered ++ m.named).filterMap fun (name, text) => text.map fun s => (name, .str s))

/-- What helpers work with. Where nothing is said, nothing is there. -/
structure Tools where
  /-- The variables of the process. -/
  environment? : String → Option String := fun _ => none
  /-- The text of a file. -/
  file? : String → Option String := fun _ => none
  /-- The path of a file without links. -/
  realPath? : String → Option String := fun _ => none
  /-- The first match of a regular expression in a text. -/
  search : (pattern text : String) → Except String (Option PatternMatch) :=
    fun _ _ => .error "no regular expressions"
  /-- What a query selects of a value. -/
  query : (expression : String) → Json → Except String Json := fun _ _ => .error "no queries"
  /-- Reads a text in a notation other than that of JSON. -/
  decode : (format text : String) → Except String Json := fun _ _ => .error "unknown notation"
  /-- Writes a value in such a notation. -/
  encode : (format : String) → Json → Except String String := fun _ _ => .error "unknown notation"
  /-- The plural of a noun. -/
  plural : String → String := id
  /-- The singular of a noun. -/
  singular : String → String := id

end Mustache

end MonitorSync
