import MonitorSync.Definition.Schema
import MonitorSync.Group.Status
import MonitorSync.Platform.Spec
import MonitorSync.Service.Status
set_option autoImplicit false

/-!
# Definitions of the resources

The cluster has to know the resources that the operator works with before they can be created.

## Main definitions

* `ResourceKind` — the kinds of resources
* `ResourceKind.definition` — the definition of a kind in its written form
-/

namespace MonitorSync

/-- The kinds of resources that the operator defines. -/
inductive ResourceKind where
  | platform
  | template
  | service
  | group
deriving DecidableEq, Repr

/-- A column in a listing of resources. -/
structure PrinterColumn where
  name : String
  type : String := "string"
  description : String
  path : String

/-- The written form. -/
def PrinterColumn.toJson (c : PrinterColumn) : Json := .ofEntries
  [("name", .str c.name), ("type", .str c.type), ("description", .str c.description),
    ("jsonPath", .str c.path)]

/-- The column that tells whether a resource is ready. -/
def readyColumn : PrinterColumn where
  name := "ready"
  description := "Ready"
  path := ".status.conditions[?(@.type == 'Ready')].status"

/-- The column with the messages of failures. -/
def errorsColumn : PrinterColumn where
  name := "errors"
  description := "Errors"
  path := ".status.conditions[?(@.status == 'False')].message"

namespace Schema

/-- Conditions. -/
def condition : Schema :=
  described ("ApplicationCondition contains details about the synchronization state, " ++
    "which is usually an error or warning") <|
  object ["generation", "message", "status", "type"]
    [("lastTransitionTime", described
        "LastTransitionTime is the time the condition was last observed" (nullable instant)),
      ("message", described
        "Message contains human-readable message indicating details about condition" text),
      ("type", described "Type is an application condition type"
        (oneOf ["Ready", "Synchronized", "Error"])),
      ("status", described "Status (\"True\" or \"False\") describe if the condition is enabled"
        (oneOf ["True", "False"])),
      ("generation", described "Generation for that status" integer)]

/-- Policies. -/
def policy (what : String) : Schema :=
  let rule (description : String) : Schema :=
    described description (defaultsTo (.bool false) flag)
  described ("What the operator is allowed to do on the " ++ what) <|
  defaultsTo (.ofEntries
    [("noCreate", .bool false), ("noUpdate", .bool false), ("noDelete", .bool false)]) <|
  object []
    [("noCreate", rule "Never create the remote object"),
      ("noUpdate", rule "Never update the remote object"),
      ("noDelete", rule "Never delete the remote object"),
      ("excludeFields", described
        "Fields ignored when computing the difference with the remote object" (list text))]

/-- A reference to a platform. -/
def platformRef : Schema :=
  described "Platform to use, default platform when empty" (nullable text)

/-- A text that is empty by default. -/
def emptyByDefault (description : String) : Schema :=
  described description (defaultsTo (.str "") text)

/-- A flag that is not set by default. -/
def unsetByDefault (description : String) : Schema :=
  described description (defaultsTo (.bool false) flag)

/-- How to reach a platform. -/
def platformConnection : Schema :=
  described "Centreon settings" <| nullable <| object ["secret", "url"]
    [("url", described "Centreon base URL, e.g. https://centreon.local/centreon" text),
      ("selfSignedCertificate", unsetByDefault "Accept self-signed certificates"),
      ("secret", described
        ("Name of the secret in the platform namespace holding \x60username\x60 and " ++
          "\x60password\x60") text),
      ("endpoint", described
        "CLAPI path relative to \x60url\x60, default to \x60api/index.php\x60" (nullable text))]

/-- Specifications of platforms. -/
def platformSpec : Schema :=
  described "Describe a monitoring platform the services are pushed to" <| object []
    [("isDefault", unsetByDefault "Used when a resource does not name its platform"),
      ("name", described "Name used by \x60platformRef\x60, default to the resource name"
        (nullable text)),
      ("platformType", described "Platform type"
        (defaultsTo (.str platformType) (oneOf [platformType]))),
      ("centreonSettings", platformConnection)]

/-- Specifications of templates. -/
def templateSpec : Schema :=
  described "A reusable, parametrized monitoring object" <| object ["template"]
    [("type", described
        ("Kind produced, the body then only holds its spec. " ++
          "Without it the body is a full object") (nullable text)),
      ("template", described "Template body" text),
      ("name", described "Name of the produced object, rendered with the same placeholders"
        (nullable text)),
      ("templateDelimiter", described "Alternative delimiters for the body and the name"
        (nullable (object ["left", "right"] [("left", text), ("right", text)])))]

/-- Specifications of services. -/
def serviceSpec : Schema :=
  let keptDefault := described "Unset keeps the Centreon default" (nullable flag)
  described "Describe a Centreon service to keep in sync" <| object []
    [("platformRef", platformRef), ("host", emptyByDefault "Host the service is attached to"),
      ("name", emptyByDefault "Service name"), ("template", described "Service template" text),
      ("checkCommand", described "Check command" text),
      ("arguments", described "Check command arguments" (list text)),
      ("groups", described "Service groups" (list text)),
      ("categories", described "Service categories" (list text)),
      ("normalCheckInterval", nullable text), ("retryCheckInterval", nullable text),
      ("maxCheckAttempts", nullable text), ("activeCheckEnabled", keptDefault),
      ("passiveCheckEnabled", keptDefault), ("activate", unsetByDefault "Enable the service"),
      ("macros", described "Service macros" (map text)), ("policy", policy "remote service")]

/-- Specifications of service groups. -/
def groupSpec : Schema :=
  described "Describe a Centreon service group to keep in sync" <| object []
    [("platformRef", platformRef), ("name", emptyByDefault "Service group name"),
      ("description", emptyByDefault "Service group description"),
      ("activate", unsetByDefault "Enable the service group"),
      ("policy", policy "remote service group")]

/-- Statuses of platforms. -/
def platformStatus : Schema :=
  described "The status object of \x60Platform\x60" <| nullable <| object ["conditions"]
    [("conditions", described "Platform Conditions" (list condition))]

/-- Conditions in a status, none by default. -/
def conditions : Schema := described "Conditions" (defaultsTo (.arr []) (list condition))

/-- Statuses of services. -/
def serviceStatus : Schema :=
  described "The status object of \x60CentreonService\x60" <| nullable <| object []
    [("host", described "Host of the service on the platform" (nullable text)),
      ("name", described "Name of the service on the platform" (nullable text)),
      ("conditions", conditions)]

/-- Statuses of service groups. -/
def groupStatus : Schema :=
  described "The status object of \x60CentreonServiceGroup\x60" <| nullable <| object []
    [("name", described "Name of the service group on the platform" (nullable text)),
      ("conditions", conditions)]

end Schema

namespace ResourceKind

/-- All kinds. -/
def all : List ResourceKind := [platform, template, service, group]

/-- The name of a kind. -/
def name : ResourceKind → String
  | platform => "Platform"
  | template => "Template"
  | service => "CentreonService"
  | group => "CentreonServiceGroup"

/-- The type of the resources of a kind. -/
def type (k : ResourceKind) : ObjectType := ⟨monitorApiVersion, k.name⟩

/-- The kind of a name. -/
def ofName? (name : String) : Option ResourceKind := all.find? fun k => k.name = name

/-- The name of a kind in lists of commands. -/
def shortName : ResourceKind → String
  | platform => "mplt"
  | template => "mtpl"
  | service => "mcs"
  | group => "mcsg"

/-- The name of a kind in lower case. -/
def singular (k : ResourceKind) : String := k.name.toLower

/-- The name of the resources of a kind. -/
def plural (k : ResourceKind) : String := k.type.plural

/-- The description of a kind. -/
def description : ResourceKind → String
  | platform => "Custom resource representing a monitoring platform"
  | template => "Custom resource representing a monitoring template"
  | service => "Custom resource representing a Centreon service"
  | group => "Custom resource representing a Centreon service group"

/-- The columns of a listing. -/
def columns : ResourceKind → List PrinterColumn
  | platform =>
    [{ name := "default", type := "boolean", description := "Default platform",
       path := ".spec.isDefault" },
      { name := "type", description := "Platform type", path := ".spec.platformType" },
      readyColumn]
  | template => [{ name := "type", description := "Generated kind", path := ".spec.type" }]
  | service =>
    [{ name := "host", description := "Host", path := ".spec.host" },
      { name := "service", description := "Service name", path := ".spec.name" }, readyColumn,
      errorsColumn]
  | group =>
    [{ name := "group", description := "Service group name", path := ".spec.name" }, readyColumn,
      errorsColumn]

/-- The schema of the specifications. -/
def specSchema : ResourceKind → Schema
  | platform => .platformSpec
  | template => .templateSpec
  | service => .serviceSpec
  | group => .groupSpec

/-- The schema of the statuses. Templates have none. -/
def statusSchema? : ResourceKind → Option Schema
  | platform => some .platformStatus
  | template => none
  | service => some .serviceStatus
  | group => some .groupStatus

/-- The schema of the resources. -/
def schema (k : ResourceKind) : Schema :=
  let status := k.statusSchema?.elim [] fun s => [("status", s)]
  (Schema.object ["spec"] (("spec", k.specSchema) :: status)).described k.description
    |>.having "title" (.str k.name)

/-- The definition of a kind in its written form. -/
def definition (k : ResourceKind) : Json :=
  let names := Json.ofEntries
    [("kind", .str k.name), ("plural", .str k.plural), ("singular", .str k.singular),
      ("shortNames", .texts [k.shortName]), ("categories", .arr [])]
  let subresources := Json.ofEntries <|
    if k.statusSchema?.isSome then [("status", .obj [])] else []
  let version := Json.ofEntries
    [("name", .str "v1"), ("served", .bool true), ("storage", .bool true),
      ("schema", .ofEntries [("openAPIV3Schema", k.schema.toJson)]),
      ("additionalPrinterColumns", .arr (k.columns.map PrinterColumn.toJson)),
      ("subresources", subresources)]
  .ofEntries
    [("apiVersion", .str "apiextensions.k8s.io/v1"), ("kind", .str "CustomResourceDefinition"),
      ("metadata", .ofEntries [("name", .str (k.plural ++ "." ++ monitorGroup))]),
      ("spec", .ofEntries
        [("group", .str monitorGroup), ("names", names), ("scope", .str "Namespaced"),
          ("versions", .arr [version])])]

end ResourceKind

end MonitorSync
