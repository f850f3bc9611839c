import MonitorSync.Kube.Object
set_option autoImplicit false

/-!
# Sources

Templates are rendered for objects of a few kinds of the cluster.

## Main definitions

* `SourceKind` — the kinds
* `SourceKind.shape?` — the shape of the objects of a kind
* `SourceObject` — an object of one of the kinds
-/

namespace MonitorSync

/-- The kinds of objects that templates are rendered for. -/
inductive SourceKind where
  | ingress
  | node
  | ns
  | secret
  | route
deriving DecidableEq, Repr

namespace SourceKind

/-- The API version and kind. -/
def type : SourceKind → ObjectType
  | ingress => ⟨"networking.k8s.io/v1", "Ingress"⟩
  | node => ⟨"v1", "Node"⟩
  | ns => ⟨"v1", "Namespace"⟩
  | secret => ⟨"v1", "Secret"⟩
  | route => ⟨"route.openshift.io/v1", "Route"⟩

/-- All kinds. -/
def all : List SourceKind := [ingress, node, ns, secret, route]

/-- The kind of a name. -/
def ofName? (name : String) : Option SourceKind := all.find? fun k => k.type.kind = name

open Shape

/-- The shape of the backend of an ingress. -/
def backendShape : Shape := .object
  [field "resource" (.object (field "apiGroup" .text :: alwaysTexts ["kind", "name"])),
    field "service" (.object
      [always "name" .text, field "port" (.object [field "name" .text, field "number" .small])])]

/-- The shape of an ingress, metadata aside. -/
def ingressFields : List (String × Bool × Shape) :=
  let path := Shape.object
    [always "backend" backendShape, field "path" .text, always "pathType" .text]
  let rule := Shape.object
    [field "host" .text, field "http" (.object [always "paths" (.list path)])]
  let port := Shape.object [field "error" .text, always "port" .small, always "protocol" .text]
  let balancer := Shape.object
    [field "hostname" .text, field "ip" .text, field "ports" (.list port)]
  [field "spec" (.object
      [field "defaultBackend" backendShape, field "ingressClassName" .text,
        field "rules" (.list rule),
        field "tls" (.list (.object [field "hosts" (.list .text), field "secretName" .text]))]),
    field "status" (.object
      [field "loadBalancer" (.object [field "ingress" (.list balancer)])])]

/-- The shape of the source of a node's configuration. -/
def nodeConfigShape : Shape := .object
  [field "configMap" (.object (alwaysTexts ["kubeletConfigKey", "name", "namespace"] ++
    textFields ["resourceVersion", "uid"]))]

/-- The shape of the description of a node's system. -/
def nodeInfoShape : Shape := .object <| alwaysTexts
  ["architecture", "bootID", "containerRuntimeVersion", "kernelVersion", "kubeProxyVersion",
    "kubeletVersion", "machineID", "operatingSystem", "osImage", "systemUUID"]

/-- The shape of a node, metadata aside. -/
def nodeFields : List (String × Bool × Shape) :=
  let taint := Shape.object
    (alwaysTexts ["effect", "key"] ++ [field "timeAdded" .instant, field "value" .text])
  let condition := Shape.object
    ([field "lastHeartbeatTime" .instant, field "lastTransitionTime" .instant] ++
      textFields ["message", "reason"] ++ alwaysTexts ["status", "type"])
  let config := Shape.object
    [field "active" nodeConfigShape, field "assigned" nodeConfigShape, field "error" .text,
      field "lastKnownGood" nodeConfigShape]
  let handler := Shape.object
    [field "features" (.object
      [field "recursiveReadOnlyMounts" .flag, field "userNamespaces" .flag]), field "name" .text]
  [field "spec" (.object
      [field "configSource" nodeConfigShape, field "externalID" .text, field "podCIDR" .text,
        field "podCIDRs" (.list .text), field "providerID" .text, field "taints" (.list taint),
        field "unschedulable" .flag]),
    field "status" (.object
      [field "addresses" (.list (.object (alwaysTexts ["address", "type"]))),
        field "allocatable" (.map .text), field "capacity" (.map .text),
        field "conditions" (.list condition), field "config" config,
        field "daemonEndpoints" (.object
          [field "kubeletEndpoint" (.object [always "Port" .small])]),
        field "features" (.object [field "supplementalGroupsPolicy" .flag]),
        field "images" (.list (.object
          [field "names" (.list .text), field "sizeBytes" .integer])),
        field "nodeInfo" nodeInfoShape, field "phase" .text,
        field "runtimeHandlers" (.list handler),
        field "volumesAttached" (.list (.object (alwaysTexts ["devicePath", "name"]))),
        field "volumesInUse" (.list .text)])]

/-- The shape of a namespace, metadata aside. -/
def namespaceFields : List (String × Bool × Shape) :=
  let condition := Shape.object
    (field "lastTransitionTime" .instant :: textFields ["message", "reason"] ++
      alwaysTexts ["status", "type"])
  [field "spec" (.object [field "finalizers" (.list .text)]),
    field "status" (.object [field "conditions" (.list condition), field "phase" .text])]

/-- The shape of a secret, metadata aside. -/
def secretFields : List (String × Bool × Shape) :=
  [field "data" (.map .bytes), field "immutable" .flag, field "stringData" (.map .text),
    field "type" .text]

/-- The shape of the objects of a kind, metadata aside; a route may hold anything. -/
def shape? : SourceKind → Option Shape
  | ingress => some (.object ingressFields)
  | node => some (.object nodeFields)
  | ns => some (.object namespaceFields)
  | secret => some (.object secretFields)
  | route => none

end SourceKind

/-- An object of one of the kinds. -/
structure SourceObject where
  kind : SourceKind
  metadata : Metadata
  /-- The fields other than the type and metadata. -/
  content : Json

namespace SourceObject

/-- Whether an object says of itself that it is of another type. -/
def contradicts (t : ObjectType) (v : Json) : Bool :=
  let differs (key expected : String) : Bool :=
    match v.get? key with
    | none => false
    | some (.str s) => s ≠ expected
    | some _ => true
  differs "apiVersion" t.apiVersion || differs "kind" t.kind

/-- Reads an object of the given kind. -/
def ofJson? (kind : SourceKind) (v : Json) : Option SourceObject :=
  match kind.shape? with
  | none => do
    let o ← ClusterObject.ofJson? v
    some ⟨kind, o.metadata, .ofMap o.content⟩
  | some shape =>
    if contradicts kind.type v then none
    else do
      let content ← shape.read? (.ofJson v)
      let metadata ← match v.get? "metadata" with
        | none => some {}
        | some .null => some {}
        | some m => Metadata.ofDatum? (.ofJson m)
      some ⟨kind, metadata, content⟩

/-- Refers to an object as the owner of its children. -/
def owner? (o : SourceObject) : Option OwnerReference :=
  o.metadata.owner? o.kind.type.apiVersion o.kind.type.kind

/-- Refers to an object. -/
def reference (o : SourceObject) : ObjectReference :=
  o.metadata.reference o.kind.type.apiVersion o.kind.type.kind

end SourceObject

end MonitorSync
