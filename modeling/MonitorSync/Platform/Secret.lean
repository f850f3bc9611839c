import MonitorSync.Failure
import MonitorSync.Platform.Settings
import MonitorSync.Source.Kind
set_option autoImplicit false

/-!
# Credentials in a secret

## Main definitions

* `SourceObject.credentials` — the credentials that a secret holds
-/

namespace MonitorSync

namespace SourceObject

/-- The key of the user name. -/
def usernameKey : String := "username"

/-- The key of the password. -/
def passwordKey : String := "password"

/-- The text that a secret holds under a key. Bytes come first and must be a text; a text is used
where there are no bytes. -/
def secretText (o : SourceObject) (key : String) : Except Failure String :=
  let missing : Except Failure String := .error (.missingCredentials o.metadata.anyName key)
  match Metadata.textIn (o.content.field "data") key with
  | some digits =>
    match (Base64.decode? digits.toList).bind utf8Text? with
    | some text => .ok text
    | none => missing
  | none =>
    match Metadata.textIn (o.content.field "stringData") key with
    | some text => .ok text
    | none => missing

/-- The credentials that a secret holds. -/
def credentials (o : SourceObject) : Except Failure Credentials := do
  let username ← o.secretText usernameKey
  let password ← o.secretText passwordKey
  return ⟨username, password⟩

end SourceObject

end MonitorSync
