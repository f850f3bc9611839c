import MonitorSync.Child.Kind
import MonitorSync.Failure
import MonitorSync.Label
import MonitorSync.Mustache.Delimiters
import MonitorSync.Mustache.Template
set_option autoImplicit false

/-!
# Templates

A template describes an object to monitor for every source that refers to it.

## Main definitions

* `TemplateSpec` — the body of a template and how to read it
* `Template` — a template as it stands in the cluster
* `Template.childKind` — the kind of the objects that a template produces, if it fixes one
* `Template.validate` — refuses a template that could never be rendered
-/

namespace MonitorSync

/-- The body of a template and how to read it. -/
structure TemplateSpec where
  /-- The kind of the produced object, of which the body gives the specification only. Without a
  kind, the body gives a full object. -/
  kind : Option String := none
  body : String
  /-- The name of the produced object, itself a template. -/
  name : Option String := none
  delimiters : Option Mustache.Delimiters := none
deriving DecidableEq, Repr

/-- A template as it stands in the cluster. -/
structure Template where
  metadata : Metadata
  spec : TemplateSpec

/-- Reads delimiters. -/
def Mustache.Delimiters.ofDatum? (d : Datum) : Option Mustache.Delimiters := do
  let f ← Datum.Fields.ofDatum? ["left", "right"] d
  return ⟨← f.required "left" Datum.text?, ← f.required "right" Datum.text?⟩

/-- Reads the specification of a template; only the body is needed. -/
def TemplateSpec.ofDatum? (d : Datum) : Option TemplateSpec := do
  let f ← Datum.Fields.ofDatum? ["type", "template", "name", "templateDelimiter"] d
  return {
    kind := ← f.optional "type" Datum.text?
    body := ← f.required "template" Datum.text?
    name := ← f.optional "name" Datum.text?
    delimiters := ← f.optional "templateDelimiter" Mustache.Delimiters.ofDatum? }

namespace Template

/-- Reads a template. -/
def ofDatum? (d : Datum) : Option Template := do
  let f ← Datum.Fields.ofDatum? ["metadata", "spec"] d
  return {
    metadata := ← f.required "metadata" Metadata.ofDatum?
    spec := ← f.required "spec" TemplateSpec.ofDatum? }

/-- The name and namespace of a template. -/
def reference (t : Template) : Reference := ⟨t.metadata.nsOrEmpty, t.metadata.anyName⟩

/-- The text by which failures name a template. -/
def id (t : Template) : String := t.reference.ns ++ "/" ++ t.reference.name

/-- A text of the template, brought to double braces. -/
def normalized (t : Template) (text : String) : String :=
  Mustache.normalize (t.spec.delimiters.getD .braces) text

/-- The kind of the produced objects, nothing if the body says it. -/
def childKind (t : Template) : Except Failure (Option ChildKind) :=
  match t.spec.kind with
  | none => .ok none
  | some name =>
    if name.isEmpty then .ok none
    else match ChildKind.ofName? name with
      | some k => .ok (some k)
      | none => .error (.unsupportedKind name)

/-- Refuses a text that is not a template; the failure says which one it is. -/
def checkText (t : Template) (what text : String) : Except Failure Unit :=
  match Mustache.Template.read? (t.normalized text) with
  | some _ => .ok ()
  | none =>
    let reason := Failure.templateSyntax "not a template"
    .error (.invalidTemplate (what ++ ": " ++ reason.message))

/-- Refuses a template that could never be rendered. -/
def validate (t : Template) : Except Failure Unit := do
  if let some d := t.spec.delimiters then
    if d.left.isEmpty || d.right.isEmpty then
      throw (.invalidTemplate "delimiters must not be empty")
  t.checkText "template" t.spec.body
  if let some name := t.spec.name then
    t.checkText "name" name
  match t.childKind with
  | .ok _ => return ()
  | .error e => throw (.invalidTemplate e.message)

end Template

end MonitorSync
