import MonitorSync.Time.Instant
set_option autoImplicit false

/-!
# Status conditions

A resource carries the conditions of its last synchronizations. A condition that is observed again
keeps the time at which it was first seen.

## Main definitions

* `Condition` — a type, a status, a message, the generation it was seen at, and a time
* `Condition.sameState` — equality but for the time
* `conditionsOnSuccess`, `conditionsOnFailure` — the conditions after a pass
-/

namespace MonitorSync

/-- What a condition is about. -/
inductive ConditionType where
  | ready
  | synchronized
  | error
deriving DecidableEq, Repr

/-- A condition of a resource. -/
structure Condition where
  /-- The time at which the condition was first seen in its present state. -/
  lastTransition : Option Instant
  message : String
  type : ConditionType
  holds : Bool
  generation : Int
deriving DecidableEq, Repr

namespace Condition

/-- Equality but for the time. -/
def sameState (a b : Condition) : Bool :=
  a.type = b.type && a.holds = b.holds && a.message = b.message && a.generation = b.generation

/-- The resource was synchronized at least once. -/
def readyOk (now : Instant) (generation : Int) : Condition :=
  ⟨some now, "Synchronized succesfully", .ready, true, generation⟩

/-- The resource was never synchronized. -/
def readyKo (now : Instant) (generation : Int) : Condition :=
  ⟨some now, "No successful synchronization", .ready, false, generation⟩

/-- The last pass succeeded. -/
def synchronized (now : Instant) (message : String) (generation : Int) : Condition :=
  ⟨some now, message, .synchronized, true, generation⟩

/-- The last pass failed. -/
def failed (now : Instant) (reason : String) (generation : Int) : Condition :=
  ⟨some now, reason, .error, false, generation⟩

end Condition

/-- The conditions that are not of the given types. -/
def conditionsExcluding (conditions : List Condition) (excluded : List ConditionType) :
    List Condition :=
  conditions.filter fun c => !excluded.contains c.type

/-- Replaces each condition by the first previous one in the same state. -/
def keepTransitionTimes (previous conditions : List Condition) : List Condition :=
  conditions.map fun c => (previous.find? fun p => p.sameState c).getD c

/-- The conditions after a pass that succeeded. -/
def conditionsOnSuccess (previous : List Condition) (now : Instant) (generation : Int)
    (message : String) : List Condition :=
  keepTransitionTimes previous
    [Condition.synchronized now message generation, Condition.readyOk now generation]

/-- The conditions after a pass that failed: what was known about readiness stays. -/
def conditionsOnFailure (previous : List Condition) (now : Instant) (generation : Int)
    (reason : String) : List Condition :=
  let kept := conditionsExcluding previous [.error, .synchronized] ++
    [Condition.failed now reason generation]
  let ready := if kept.any fun c => c.type = .ready then [] else [Condition.readyKo now generation]
  keepTransitionTimes previous (kept ++ ready)

end MonitorSync
