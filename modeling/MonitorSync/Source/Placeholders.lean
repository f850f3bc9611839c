import MonitorSync.Certificate.Basic
import MonitorSync.Source.Kind
set_option autoImplicit false

/-!
# Placeholders

The data that templates are rendered with: who the source is, and what its kind has to offer.

## Main definitions

* `Placeholders` — the data of a source
* `Placeholders.toJson` — the data as a template sees it
* `SourceObject.placeholders` — the data of an object
* `SourceObject.context?` — the data of an object that can be a source
-/

namespace MonitorSync

/-- A host that is served by an ingress or a route. -/
structure HostRule where
  host : String
  scheme : String
  paths : List String
deriving DecidableEq, Repr

/-- What the kind of a source has to offer. -/
inductive Extras where
  | none
  | rules (rules : List HostRule)
  | node (info addresses : Json) (unschedulable : Bool)
  | certificates (certificates : List Certificate)

/-- The data of a source, with the template that it is rendered with. -/
structure Placeholders where
  name : String := ""
  ns : String := ""
  labels : KeyMap String := .empty
  annotations : KeyMap String := .empty
  templateName : String := ""
  templateNs : String := ""
  extras : Extras := .none

instance : Inhabited Placeholders := ⟨{}⟩

/-- A host as a template sees it. -/
def HostRule.toJson (r : HostRule) : Json := .ofEntries
  [("host", .str r.host), ("scheme", .str r.scheme), ("paths", .texts r.paths)]

/-- A certificate as a template sees it. -/
def Certificate.toJson (c : Certificate) : Json := .ofEntries
  [("subject", .str c.subject), ("issuer", .str c.issuer), ("serialNumber", .str c.serialNumber),
    ("notBefore", .str c.notBefore), ("notAfter", .str c.notAfter),
    ("dnsNames", .texts c.dnsNames)]

/-- What a kind has to offer, as a template sees it. -/
def Extras.entries : Extras → List (String × Json)
  | none => []
  | rules rs => [("rules", .arr (rs.map HostRule.toJson))]
  | node info addresses unschedulable =>
    [("nodeInfo", info), ("addresses", addresses), ("unschedulable", .bool unschedulable)]
  | certificates cs => [("certificates", .arr (cs.map Certificate.toJson))]

namespace Placeholders

/-- The data that every object has. -/
def ofMetadata (m : Metadata) (extras : Extras) : Placeholders where
  name := m.name.getD ""
  ns := m.ns.getD ""
  labels := m.labels.getD .empty
  annotations := m.annotations.getD .empty
  extras := extras

/-- The data for a template. -/
def forTemplate (p : Placeholders) (ns name : String) : Placeholders :=
  { p with templateNs := ns, templateName := name }

/-- The namespace of the children: that of the source, or that of the template for a source outside
of any. -/
def childNs (p : Placeholders) : String := if p.ns.isEmpty then p.templateNs else p.ns

/-- The source as a reference. -/
def source (p : Placeholders) : String × String := (p.ns, p.name)

/-- The data as a template sees it. -/
def toJson (p : Placeholders) : Json := .ofEntries <|
  p.extras.entries ++
  [("name", .str p.name), ("namespace", .str p.ns), ("labels", .textMap p.labels),
    ("annotations", .textMap p.annotations), ("templateName", .str p.templateName),
    ("templateNamespace", .str p.templateNs)]

end Placeholders

namespace SourceObject

/-- The items under a key, none if there is no list. -/
def itemsOf (v : Json) (key : String) : List Json := (Metadata.itemsIn v key).getD []

/-- The text under a key, empty if there is none. -/
def textOf (v : Json) (key : String) : String := (Metadata.textIn v key).getD ""

/-- The hosts of an ingress. A host is served with encryption if it is listed for it. -/
def ingressRules (content : Json) : List HostRule :=
  let spec := content.field "spec"
  let secured := (itemsOf spec "tls").flatMap fun tls =>
    (itemsOf tls "hosts").filterMap Json.toText?
  (itemsOf spec "rules").map fun rule =>
    let host := textOf rule "host"
    { host := host
      scheme := if secured.contains host then "https" else "http"
      paths := (itemsOf (rule.field "http") "paths").filterMap fun p => Metadata.textIn p "path" }

/-- The host of a route. -/
def routeRule (content : Json) : HostRule :=
  let spec := content.field "spec"
  let path := textOf spec "path"
  { host := textOf spec "host"
    scheme := if (spec.field "tls").isObject then "https" else "http"
    paths := [if path.isEmpty then "/" else path] }

/-- The certificates in a secret. -/
def secretCertificates (content : Json) : List Certificate :=
  let digits := Metadata.textIn (content.field "data") "tls.crt"
  ((digits.bind fun s => Base64.decode? s.toList).map Certificate.parseAll).getD []

/-- What an object has to offer by its kind. -/
def extras (o : SourceObject) : Extras :=
  match o.kind with
  | .ingress => .rules (ingressRules o.content)
  | .route => .rules [routeRule o.content]
  | .node =>
    let status := o.content.field "status"
    .node (status.field "nodeInfo") (.arr (itemsOf status "addresses"))
      ((Metadata.flagIn (o.content.field "spec") "unschedulable").getD false)
  | .ns => .none
  | .secret => .certificates (secretCertificates o.content)

/-- The data of an object. -/
def placeholders (o : SourceObject) : Placeholders := .ofMetadata o.metadata o.extras

/-- The type of secrets that hold certificates. -/
def certificateSecretType : String := "kubernetes.io/tls"

/-- Whether templates are rendered for an object: of the secrets, only those with certificates. -/
def isSource (o : SourceObject) : Bool :=
  match o.kind with
  | .secret => Metadata.textIn o.content "type" = some certificateSecretType
  | _ => true

/-- The data of an object that can be a source. -/
def context? (o : SourceObject) : Option Placeholders :=
  if o.isSource then some o.placeholders else none

end SourceObject

end MonitorSync
