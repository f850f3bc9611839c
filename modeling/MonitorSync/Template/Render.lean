import MonitorSync.Mustache.Render
import MonitorSync.Source.Placeholders
import MonitorSync.Template.Spec
import MonitorSync.Yaml.Document
set_option autoImplicit false

/-!
# Rendering templates

## Main definitions

* `ChildKind.readSpec` — the specification of a child, if it is a valid one
* `ChildKind.readObject` — a full child
* `Template.render` — the child that a template produces for a source
-/

namespace MonitorSync

namespace ChildKind

/-- The failure of a template that produced something else than a child of this kind. -/
def invalid (k : ChildKind) (template reason : String) : Failure :=
  .invalidGenerated template k.name reason

/-- The specification of a child in its written form, if it is a valid one. -/
def readSpec (k : ChildKind) (template text : String) : Except Failure Json :=
  let unreadable : Failure := k.invalid template "not a specification"
  let checked (spec : Json) (error : Option String) : Except Failure Json :=
    match error with
    | some reason => .error (k.invalid template reason)
    | none => .ok spec
  match k with
  | service =>
    match (Yaml.read? text).bind ServiceSpec.ofDatum? with
    | some spec => checked spec.toJson spec.validationError?
    | none => .error unreadable
  | group =>
    match (Yaml.read? text).bind GroupSpec.ofDatum? with
    | some spec => checked spec.toJson spec.validationError?
    | none => .error unreadable

/-- A full child in its written form. -/
def writtenObject? (k : ChildKind) (text : String) : Option Json :=
  match k with
  | service => ((Yaml.read? text).bind MonitoredService.ofDatum?).map MonitoredService.toJson
  | group => ((Yaml.read? text).bind MonitoredGroup.ofDatum?).map MonitoredGroup.toJson

/-- A full child. -/
def readObject (k : ChildKind) (template text : String) : Except Failure ClusterObject :=
  match k.writtenObject? text with
  | none => .error (k.invalid template "not an object")
  | some v =>
    match ClusterObject.ofJson? v with
    | some o => .ok o
    | none => .error (.badJson "not an object")

end ChildKind

namespace Template

/-- Renders a text of the template. -/
def renderPart (tools : Mustache.Tools) (t : Template) (data : Json) (text : String) :
    Except Failure String :=
  match Mustache.renderText tools (t.normalized text) data with
  | .ok s => .ok (trimBlanks s)
  | .error reason => .error (.rendering reason)

/-- The name of a child whose kind is fixed: the rendered one, or that of the template. -/
def childName (tools : Mustache.Tools) (t : Template) (data : Json) : Except Failure String :=
  match t.spec.name with
  | none => .ok t.metadata.anyName
  | some text =>
    if text.toList.all isBlank then .ok t.metadata.anyName
    else t.renderPart tools data text

/-- The child of a kind that the rendered body describes. -/
def typedChild (tools : Mustache.Tools) (t : Template) (k : ChildKind) (p : Placeholders)
    (text : String) : Except Failure ClusterObject := do
  let spec ← k.readSpec t.id text
  let name ← t.childName tools p.toJson
  return {
    types := some k.type
    metadata := { name := some name, ns := some p.childNs }
    content := .ofList [("spec", spec)] }

/-- The child that the rendered body is. -/
def fullChild (t : Template) (text : String) : Except Failure ClusterObject := do
  let head ← match Yaml.readValue? text with
    | some v => pure v
    | none => throw (.badYaml "not a value")
  let kind := (head.field "kind").toText?.getD ""
  match ChildKind.ofName? kind with
  | some k => k.readObject t.id text
  | none => throw (.unsupportedKind kind)

/-- The child that a template produces for a source. -/
def render (tools : Mustache.Tools) (t : Template) (source : Placeholders) :
    Except Failure ClusterObject := do
  let p := source.forTemplate t.reference.ns t.reference.name
  let text ← t.renderPart tools p.toJson t.spec.body
  match ← t.childKind with
  | some k => t.typedChild tools k p text
  | none => t.fullChild text

end Template

end MonitorSync
