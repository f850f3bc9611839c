import MonitorSync.Text.LetterCase
import MonitorSync.Text.Quoted
set_option autoImplicit false

/-!
# Failures

Everything that can go wrong while resources are read, templates rendered and the monitoring
platform driven, together with the text shown for it and the decision whether trying again can
help.

## Main definitions

* `ApiFault` — why a request to the cluster's API server failed
* `Failure` — the causes
* `Failure.message` — the text shown to a user
* `Failure.isRetryable` — whether the same work may succeed later without an edit
* `Failure.metricLabel` — the text under which a failure is counted
-/

namespace MonitorSync

/-- Why a request to the API server failed. -/
inductive ApiFault where
  /-- The server refused it with a status code and a word for the reason, which may be empty. -/
  | refused (code : Nat) (reason : String)
  /-- It was not sent, as it is not a request. -/
  | notSent (reason : String)
  /-- The object in the reply cannot be read. -/
  | unreadable (reason : String)
deriving DecidableEq, Repr, Inhabited

namespace ApiFault

/-- The text of a fault. -/
def message : ApiFault → String
  | refused code reason => "ApiError: " ++ reason ++ " " ++ toString code
  | notSent reason => "Failed to build request: failed to validate request: " ++ reason
  | unreadable reason => "Error deserializing response: " ++ reason

/-- The reason for refusing what concerns an object that does not exist. -/
def notFoundReason : String := "NotFound"

/-- The refusal of a request that concerns an object that does not exist. -/
def notFound : ApiFault := .refused 404 notFoundReason

/-- Whether the server answered that there is no such object. The code alone does not say so: it
also stands for a path that the server does not know. -/
def isNotFound : ApiFault → Bool
  | refused _ reason => reason = notFoundReason
  | _ => false

/-- The status code, if there is one. -/
def code? : ApiFault → Option Nat
  | refused code _ => some code
  | _ => none

end ApiFault

/-- The causes of a failure. -/
inductive Failure where
  /-- A text is not the JSON of the value that is wanted. -/
  | badJson (reason : String)
  /-- A text is not the YAML of the value that is wanted. -/
  | badYaml (reason : String)
  /-- A request to the API server failed. -/
  | cluster (fault : ApiFault)
  /-- The text of a template does not follow the template language. -/
  | templateSyntax (reason : String)
  /-- A template could not be rendered. -/
  | rendering (reason : String)
  /-- A request to the platform could not be made, or its answer not be read. -/
  | transport (reason : String)
  /-- The platform answered a command with a status code other than success. -/
  | methodFailed (what : String) (code : Nat) (text : String)
  | timeout (url : String)
  | authFailed (text : String)
  | platformNotFound (name : String)
  | missingCredentials (secret key : String)
  | unsupportedKind (kind : String)
  /-- A template was rendered to an object that is not a valid one of its kind. -/
  | invalidGenerated (template kind reason : String)
  | invalidTemplate (text : String)
  | other (text : String)
deriving DecidableEq, Repr, Inhabited

namespace Failure

/-- The text shown to a user. -/
def message : Failure → String
  | badJson reason => "SerializationError: " ++ reason
  | badYaml reason => "YamlError: " ++ reason
  | cluster fault => "K8s error: " ++ fault.message
  | templateSyntax reason => "Registering template failed with error: " ++ reason
  | rendering reason => "Renderer error: " ++ reason
  | transport reason => "Reqwest error: " ++ reason
  | methodFailed what code text => what ++ " query failed: " ++ toString code ++ " " ++ text
  | timeout url => "Request to " ++ url ++ " timed out"
  | authFailed text => "Centreon authentication failed: " ++ text
  | platformNotFound name => "Platform " ++ name ++ " not found"
  | missingCredentials secret key =>
    "Secret " ++ secret ++ " is missing or lacks the " ++ key ++ " key"
  | unsupportedKind kind => "Unsupported kind " ++ kind
  | invalidGenerated template kind reason =>
    "Template " ++ template ++ " produced an invalid " ++ kind ++ ": " ++ reason
  | invalidTemplate text => "Invalid template: " ++ text
  | other text => "Error: " ++ text

/-- Whether the same work may succeed later. A misconfigured template or a generated object that
is not valid stays so until somebody edits it. -/
def isRetryable : Failure → Bool
  | templateSyntax _ | unsupportedKind _ | invalidGenerated .. | invalidTemplate _ => false
  | _ => true

/-- The name of the cause. -/
def name : Failure → String
  | badJson _ => "SerializationError"
  | badYaml _ => "YamlError"
  | cluster _ => "KubeError"
  | templateSyntax _ => "HbsTemplateError"
  | rendering _ => "HbsRenderError"
  | transport _ => "ReqwestError"
  | methodFailed .. => "MethodFailed"
  | timeout _ => "Timeout"
  | authFailed _ => "AuthFailed"
  | platformNotFound _ => "PlatformNotFound"
  | missingCredentials .. => "MissingCredentials"
  | unsupportedKind _ => "UnsupportedKind"
  | invalidGenerated .. => "InvalidGenerated"
  | invalidTemplate _ => "InvalidTemplate"
  | other _ => "Other"

/-- The details of the cause, each in its diagnostic form. -/
def details : Failure → List String
  | badJson s | badYaml s | templateSyntax s | rendering s | transport s | timeout s | authFailed s
  | platformNotFound s | unsupportedKind s | invalidTemplate s | other s => [quoteForDisplay s]
  | cluster fault => [quoteForDisplay fault.message]
  | methodFailed what code text => [quoteForDisplay what, toString code, quoteForDisplay text]
  | missingCredentials secret key => [quoteForDisplay secret, quoteForDisplay key]
  | invalidGenerated template kind reason =>
    [quoteForDisplay template, quoteForDisplay kind, quoteForDisplay reason]

/-- The diagnostic form of a cause and its details. -/
def diagnostic (cause : String) (details : List String) : String :=
  cause ++ "(" ++ String.intercalate ", " details ++ ")"

/-- The text under which a failure is counted. -/
def metricLabel (f : Failure) : String := toLowerText (diagnostic f.name f.details)

end Failure

end MonitorSync
