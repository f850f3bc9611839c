import MonitorSync.Failure
import MonitorSync.KeyMap
import MonitorSync.Platform.Settings
set_option autoImplicit false

/-!
# The registry of platforms

Services refer to platforms by name. The registry holds a client for every platform, and a further
entry for the default one.

## Main definitions

* `PlatformEntry` — a client and what it was built from
* `Registry` — the entries by name
* `Registry.get` — the entry that a reference names
* `Registry.upsert` — registers a platform, with a new client if its configuration changed
* `Registry.remove` — removes a platform
-/

namespace MonitorSync

/-- A client and what it was built from. -/
structure PlatformEntry (Client : Type) where
  name : String
  settings : ConnectionSettings
  client : Client
  /-- The digest of the configuration. -/
  digest : String
deriving DecidableEq, Repr

/-- The clients of all platforms, by name. -/
structure Registry (Client : Type) where
  entries : KeyMap (PlatformEntry Client) := .empty

namespace Registry

variable {Client : Type}

instance : Inhabited (Registry Client) := ⟨{}⟩

/-- The name under which the default platform is found. -/
def defaultName : String := "default"

/-- The entry that a reference names. An empty reference names the default platform. -/
def get (r : Registry Client) (reference : String) : Except Failure (PlatformEntry Client) :=
  let key := if reference.isEmpty then defaultName else reference
  match r.entries.get? key with
  | some e => .ok e
  | none => .error (.platformNotFound key)

/-- Removes the default entry if it is that of the platform. -/
def dropDefault (r : Registry Client) (name : String) : Registry Client :=
  match r.entries.get? defaultName with
  | some e => if e.name = name then ⟨r.entries.erase defaultName⟩ else r
  | none => r

/-- Makes an entry the default one, or no longer the default one. The platform that is itself named
so has no further entry. -/
def setDefault (r : Registry Client) (name : String) (isDefault : Bool)
    (e : PlatformEntry Client) : Registry Client :=
  if name = defaultName then r
  else if isDefault then ⟨r.entries.insert defaultName e⟩
  else r.dropDefault name

/-- The entry of a name, if it has the given digest. -/
def unchanged? (r : Registry Client) (name digest : String) : Option (PlatformEntry Client) :=
  match r.entries.get? name with
  | some e => if e.digest = digest then some e else none
  | none => none

/-- Registers a platform. A client is built if there is none for this configuration; the result
tells whether one was. If no client can be built, then the registry stays as it is. -/
def upsert {m : Type → Type} [Monad m]
    (build : ConnectionSettings → Credentials → m (Except Failure Client))
    (r : Registry Client) (name : String) (isDefault : Bool) (settings : ConnectionSettings)
    (credentials : Credentials) : m (Except Failure Bool × Registry Client) := do
  let digest := configurationDigest name settings credentials
  match r.unchanged? name digest with
  | some e => return (.ok false, r.setDefault name isDefault e)
  | none =>
    match ← build settings credentials with
    | .error failure => return (.error failure, r)
    | .ok client =>
      let e : PlatformEntry Client := ⟨name, settings, client, digest⟩
      let added : Registry Client := ⟨r.entries.insert name e⟩
      return (.ok true, added.setDefault name isDefault e)

/-- Removes a platform. -/
def remove (r : Registry Client) (name : String) : Registry Client :=
  Registry.dropDefault ⟨r.entries.erase name⟩ name

/-- The names in order. -/
def names (r : Registry Client) : List String := r.entries.keys

end Registry

end MonitorSync
