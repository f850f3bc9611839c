import MonitorSync.Datum.Basic
import MonitorSync.Policy
set_option autoImplicit false

/-!
# The written form of a policy

## Main definitions

* `Policy.toJson`, `Policy.ofDatum?` — the written form, and reading it
-/

namespace MonitorSync

namespace Policy

/-- The written form; an empty list of excluded fields is left out. -/
def toJson (p : Policy) : Json := .ofEntries <|
  [("noCreate", .bool p.noCreate), ("noUpdate", .bool p.noUpdate),
    ("noDelete", .bool p.noDelete)] ++
  (if p.excludeFields.isEmpty then [] else [("excludeFields", .texts p.excludeFields)])

/-- Reads a policy. Every field has a default. -/
def ofDatum? (d : Datum) : Option Policy := do
  let f ← Datum.Fields.ofDatum? ["noCreate", "noUpdate", "noDelete", "excludeFields"] d
  return {
    noCreate := ← f.defaulted "noCreate" Datum.flag? false
    noUpdate := ← f.defaulted "noUpdate" Datum.flag? false
    noDelete := ← f.defaulted "noDelete" Datum.flag? false
    excludeFields := ← f.defaulted "excludeFields" (Datum.list? Datum.text?) [] }

end Policy

end MonitorSync
