import MonitorSync.Operator.Context
set_option autoImplicit false

/-!
# Finalizers

An object carries a finalizer while there is something to clean up after it, so that it is not gone
before that is done.

## Main definitions

* `Operator.withFinalizer` — brings an object in line, or cleans up after it
-/

namespace MonitorSync

namespace Operator

variable {Client : Type}

/-- Asks for the first finalizer, or for one more. -/
def addFinalizer (finalizer : String) (t : ObjectType) (m : Metadata) :
    Operator Client Action := do
  let present := m.finalizers.getD []
  let patch : FinalizerPatch :=
    if present.isEmpty then .addFirst finalizer else .addTo present finalizer
  match m.name with
  | none => throw .unnamedObject
  | some name =>
    match ← lift (ask (.patchFinalizers t m.nsOrEmpty name patch)) with
    | .ok _ => return .awaitChange
    | .error fault => throw (.addFinalizer fault)

/-- Cleans up, and removes the finalizer only if that succeeded. -/
def finish (finalizer : String) (index : Nat) (t : ObjectType) (m : Metadata)
    (cleanup : Operator Client Action) : Operator Client Action := do
  match m.name with
  | none => throw .unnamedObject
  | some name =>
    let action ← ExceptT.adapt .cleanupFailed cleanup
    match ← lift (ask (.patchFinalizers t m.nsOrEmpty name (.removeAt index finalizer))) with
    | .ok _ => return action
    | .error fault => throw (.removeFinalizer fault)

/-- Brings an object in line, or cleans up after it if it is to be deleted. Before the first of
these, the object gets the finalizer. -/
def withFinalizer (finalizer : String) (t : ObjectType) (m : Metadata)
    (apply cleanup : Operator Client Action) : Operator Client Action :=
  match (m.finalizers.getD []).idxOf? finalizer, m.deletionTimestamp with
  | some _, none => ExceptT.adapt .applyFailed apply
  | some index, some _ => finish finalizer index t m cleanup
  | none, none => addFinalizer finalizer t m
  | none, some _ => return .awaitChange

end Operator

end MonitorSync
