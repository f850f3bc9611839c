set_option autoImplicit false

/-!
# Policies

A resource says what the operator may do with its remote object.

## Main definitions

* `Policy` — which of creating, updating and deleting is forbidden, and the fields left alone
* `Policy.create`, `Policy.update`, `Policy.delete` — a call that runs only if it is allowed
* `Outcome` — what a synchronization did
-/

namespace MonitorSync

/-- What the operator may do with a remote object. -/
structure Policy where
  noCreate : Bool
  noUpdate : Bool
  noDelete : Bool
  /-- Fields that are ignored when the remote object is compared with the wanted one. -/
  excludeFields : List String
deriving DecidableEq, Repr

/-- The policy that allows everything. -/
def Policy.permissive : Policy := ⟨false, false, false, []⟩

instance : Inhabited Policy := ⟨.permissive⟩

/-- Whether a guarded call ran. -/
inductive Guarded where
  | done
  | skipped
deriving DecidableEq, Repr

namespace Policy

variable {m : Type → Type} [Monad m]

/-- Runs a call if it is allowed. -/
def guard (allowed : Bool) (call : m Unit) : m Guarded :=
  if allowed then do
    call
    return .done
  else return .skipped

/-- Runs a creation if the policy allows it. -/
def create (p : Policy) (call : m Unit) : m Guarded := guard (!p.noCreate) call

/-- Runs an update if the policy allows it. -/
def update (p : Policy) (call : m Unit) : m Guarded := guard (!p.noUpdate) call

/-- Runs a deletion if the policy allows it. -/
def delete (p : Policy) (call : m Unit) : m Guarded := guard (!p.noDelete) call

end Policy

/-- What a synchronization did, with the plan of an update. -/
inductive Outcome (Plan : Type) where
  | created
  | updated (plan : Plan)
  | unchanged
  | skipped
deriving DecidableEq, Repr

namespace Outcome

variable {Plan : Type}

/-- The text shown for an outcome. -/
def message : Outcome Plan → String
  | created => "Created on the platform"
  | updated _ => "Updated on the platform"
  | unchanged => "Already in sync"
  | skipped => "Skipped by policy"

/-- Whether the remote object is as the resource wants it. -/
def isApplied : Outcome Plan → Bool
  | skipped => false
  | _ => true

end Outcome

end MonitorSync
