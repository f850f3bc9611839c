import MonitorSync.Failure
set_option autoImplicit false

/-!
# Failures of a pass

## Main definitions

* `OperatorFailure` — why a pass over an object failed
* `OperatorFailure.message` — the text shown to a user
* `OperatorFailure.isRetryable` — whether the same pass may succeed later without an edit
-/

namespace MonitorSync

/-- Why a pass over an object failed. -/
inductive OperatorFailure where
  | common (cause : Failure)
  | api (fault : ApiFault)
  /-- Bringing the object in line failed. -/
  | applyFailed (cause : OperatorFailure)
  /-- Cleaning up after the object failed. -/
  | cleanupFailed (cause : OperatorFailure)
  | addFinalizer (fault : ApiFault)
  | removeFinalizer (fault : ApiFault)
  | unnamedObject
  | missingField (field place : String)
deriving DecidableEq, Repr

namespace OperatorFailure

/-- The text shown to a user. -/
def message : OperatorFailure → String
  | common cause => cause.message
  | api fault => "Kube Error: " ++ fault.message
  | applyFailed cause => "Finalizer Error: failed to apply object: " ++ cause.message
  | cleanupFailed cause => "Finalizer Error: failed to clean up object: " ++ cause.message
  | addFinalizer fault => "Finalizer Error: failed to add finalizer: " ++ fault.message
  | removeFinalizer fault => "Finalizer Error: failed to remove finalizer: " ++ fault.message
  | unnamedObject => "Finalizer Error: object has no name"
  | missingField field place => "Missing " ++ field ++ " in " ++ place

/-- Whether the same pass may succeed later: so says the innermost cause. -/
def isRetryable : OperatorFailure → Bool
  | common cause => cause.isRetryable
  | applyFailed cause => cause.isRetryable
  | cleanupFailed cause => cause.isRetryable
  | api _ => true
  | addFinalizer _ => true
  | removeFinalizer _ => true
  | unnamedObject => true
  | missingField _ _ => true

/-- The cause and its details. -/
def diagnostic : OperatorFailure → String
  | common cause => Failure.diagnostic cause.name cause.details
  | api fault => Failure.diagnostic "KubeError" [quoteForDisplay fault.message]
  | applyFailed cause => Failure.diagnostic "FinalizerError"
      [Failure.diagnostic "ApplyFailed" [cause.diagnostic]]
  | cleanupFailed cause => Failure.diagnostic "FinalizerError"
      [Failure.diagnostic "CleanupFailed" [cause.diagnostic]]
  | addFinalizer fault => Failure.diagnostic "FinalizerError"
      [Failure.diagnostic "AddFinalizer" [quoteForDisplay fault.message]]
  | removeFinalizer fault => Failure.diagnostic "FinalizerError"
      [Failure.diagnostic "RemoveFinalizer" [quoteForDisplay fault.message]]
  | unnamedObject => Failure.diagnostic "FinalizerError" ["UnnamedObject"]
  | missingField field place =>
    Failure.diagnostic "MissingField" [quoteForDisplay field, quoteForDisplay place]

/-- The text under which a failure is counted. -/
def metricLabel (f : OperatorFailure) : String := toLowerText f.diagnostic

end OperatorFailure

end MonitorSync
