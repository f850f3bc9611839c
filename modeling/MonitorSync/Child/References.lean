import MonitorSync.Datum.Basic
import MonitorSync.Domain
import MonitorSync.Failure
import MonitorSync.Json.Skip
import MonitorSync.Label
set_option autoImplicit false

/-!
# References to templates

A source lists the templates to render for it in an annotation.

## Main definitions

* `templateReferences` — the templates of a source
-/

namespace MonitorSync

/-- The names of the fields of a reference. -/
def Reference.fieldNames : List String := ["namespace", "name"]

/-- Reads a reference. The namespace may be left out. -/
def Reference.ofDatum? (d : Datum) : Option Reference := do
  let f ← Datum.Fields.ofDatum? fieldNames d
  return {
    ns := ← f.defaulted "namespace" Datum.text? ""
    name := ← f.required "name" Datum.text? }

/-- A reference in the given namespace, unless it names one. -/
def Reference.within (ns : String) (r : Reference) : Reference :=
  if r.ns.isEmpty then { r with ns := ns } else r

/-- Reads a list of references, whose other fields are skipped. -/
def readReferences? (text : String) : Option (List Reference) := do
  (Datum.ofJson (← Json.readRecords? Reference.fieldNames text)).list? Reference.ofDatum?

/-- The templates that the annotations of a source list. A blank list is as good as none. -/
def templateReferences (domain : Domain) (annotations : KeyMap String) (ns : String) :
    Except Failure (List Reference) :=
  match annotations.get? domain.templatesAnnotation with
  | none => .ok []
  | some text =>
    if text.toList.all isBlank then .ok []
    else match readReferences? text with
      | some references => .ok (references.map (Reference.within ns))
      | none => .error (.badJson "not a list of references")

end MonitorSync
