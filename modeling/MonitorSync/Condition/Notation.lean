import MonitorSync.Condition
import MonitorSync.Datum.Basic
set_option autoImplicit false

/-!
# The written form of conditions

## Main definitions

* `Condition.toJson`, `Condition.ofDatum?` — the written form, and reading it
-/

namespace MonitorSync

/-- A point in time written as a text. -/
def Datum.instant? (d : Datum) : Option Instant := do Instant.read? (← d.text?)

/-- One of a fixed list of words, which may also be written as the key of a record. -/
def Datum.word? (d : Datum) : Option String :=
  match d with
  | .record [(key, .null)] => key.text?
  | _ => d.text?

namespace ConditionType

/-- The word for a type. -/
def toText : ConditionType → String
  | ready => "Ready"
  | synchronized => "Synchronized"
  | error => "Error"

/-- Reads the word for a type. -/
def ofText? : String → Option ConditionType
  | "Ready" => some ready
  | "Synchronized" => some synchronized
  | "Error" => some error
  | _ => none

/-- Reads a type. -/
def ofDatum? (d : Datum) : Option ConditionType := do ofText? (← d.word?)

end ConditionType

namespace Condition

/-- The word that tells whether a condition holds. -/
def statusText (holds : Bool) : String := if holds then "True" else "False"

/-- Reads the word that tells whether a condition holds. -/
def readStatus? (d : Datum) : Option Bool :=
  match d.word? with
  | some "True" => some true
  | some "False" => some false
  | _ => none

/-- The written form. -/
def toJson (c : Condition) : Json := .ofEntries
  [("lastTransitionTime", .text? (c.lastTransition.map Instant.toText)),
    ("message", .str c.message), ("type", .str c.type.toText),
    ("status", .str (statusText c.holds)), ("generation", .int c.generation)]

/-- Reads a condition. Only the time may be absent. -/
def ofDatum? (d : Datum) : Option Condition := do
  let f ← Datum.Fields.ofDatum?
    ["lastTransitionTime", "message", "type", "status", "generation"] d
  return {
    lastTransition := ← f.nullable "lastTransitionTime" Datum.instant?
    message := ← f.required "message" Datum.text?
    type := ← f.required "type" ConditionType.ofDatum?
    holds := ← f.required "status" readStatus?
    generation := ← f.required "generation" Datum.integer? }

/-- The written form of a list of conditions. -/
def listToJson (cs : List Condition) : Json := .arr (cs.map toJson)

end Condition

end MonitorSync
