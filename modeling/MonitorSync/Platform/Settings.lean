import MonitorSync.Digest.Sha256
import MonitorSync.Json.Printer
import MonitorSync.Text.Quoted
set_option autoImplicit false

/-!
# How to reach a platform

## Main definitions

* `ConnectionSettings` — where a platform is and how to talk to it
* `ConnectionSettings.commandUrl` — the address that commands are sent to
* `Credentials` — who talks to it
* `configurationDigest` — tells two configurations apart
-/

namespace MonitorSync

/-- Where a platform is and how to talk to it. -/
structure ConnectionSettings where
  url : String
  /-- Whether a certificate that nobody vouches for is accepted. -/
  selfSigned : Bool := false
  timeoutSeconds : Nat
  /-- The path of the command interface relative to `url`. -/
  endpoint : Option String := none
deriving DecidableEq, Repr, Inhabited

namespace ConnectionSettings

/-- The path of the command interface unless another is given. -/
def defaultEndpoint : String := "api/index.php"

/-- The address without slashes at its end. -/
def baseUrl (s : ConnectionSettings) : String :=
  String.ofList (s.url.toList.reverse.dropWhile (· = '/')).reverse

/-- The address that commands are sent to. -/
def commandUrl (s : ConnectionSettings) : String :=
  let path := s.endpoint.getD defaultEndpoint
  s.baseUrl ++ "/" ++ String.ofList (path.toList.dropWhile (· = '/'))

/-- The fields in their order. -/
def entries (s : ConnectionSettings) : List (String × Json) :=
  [("url", .str s.url), ("selfSignedCertificate", .bool s.selfSigned),
    ("timeoutSeconds", .nat s.timeoutSeconds), ("endpoint", .text? s.endpoint)]

/-- The written form. -/
def toJson (s : ConnectionSettings) : Json := .ofEntries s.entries

end ConnectionSettings

/-- Who talks to a platform. -/
structure Credentials where
  username : String
  password : String
deriving DecidableEq, Repr, Inhabited

namespace Credentials

/-- The fields in their order. -/
def entries (c : Credentials) : List (String × Json) :=
  [("username", .str c.username), ("password", .str c.password)]

/-- The written form. -/
def toJson (c : Credentials) : Json := .ofEntries c.entries

/-- The diagnostic form, which does not show the password. -/
def diagnostic (c : Credentials) : String :=
  "Credentials \x7b username: " ++ quoteForDisplay c.username ++ ", password: \"********\" \x7d"

end Credentials

/-- The text of a configuration, its fields in order. -/
def configurationText (name : String) (settings : ConnectionSettings) (credentials : Credentials) :
    String :=
  Json.compact (.obj
    [("name", .str name), ("settings", .obj settings.entries),
      ("credentials", .obj credentials.entries)])

/-- Tells two configurations apart. -/
def configurationDigest (name : String) (settings : ConnectionSettings)
    (credentials : Credentials) : String :=
  sha256Text (configurationText name settings credentials)

end MonitorSync
