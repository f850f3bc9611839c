import Mathlib.Data.List.Induction
import MonitorSync.Condition
set_option autoImplicit false

/-!
# What conditions tell of passes

The conditions after a pass are made of those before it: a success replaces them all, a failure
keeps what was known about readiness. Taken over all passes so far, one condition is about readiness
and one about the last pass.

## Main definitions

* `PassReport` — the result of a pass, with the generation and the time at which it was seen.
* `PassReport.conditions` — the conditions after a pass, from those before it.
* `conditionsAfter` — the conditions after passes, one after the other.

## Main results

* `conditionsOnFailure_of_perm` — what a failure makes of the conditions of earlier passes.
* `conditions_tell_history` — the conditions after any passes.
-/

namespace MonitorSync

variable {previous : List Condition} {c d ready other : Condition}

/-! ## Results of passes -/

/-- What a pass came to. -/
inductive PassResult where
  /-- The pass succeeded, and maybe changed the platform to what is wanted (`applied`). -/
  | succeeded (message : String) (applied : Bool)
  | failed (reason : String)
deriving DecidableEq, Repr

/-- The pass succeeded. -/
def PassResult.isSuccess : PassResult → Bool
  | succeeded _ _ => true
  | failed _ => false

/-- The result of a pass, with the generation and the time at which it was seen. -/
structure PassReport where
  result : PassResult
  generation : Int
  now : Instant
deriving DecidableEq, Repr

namespace PassReport

/-- The condition that tells of a pass, beside readiness. -/
def condition (p : PassReport) : Condition :=
  match p.result with
  | .succeeded message _ => .synchronized p.now message p.generation
  | .failed reason => .failed p.now reason p.generation

/-- The conditions after a pass, from those before it. -/
def conditions (previous : List Condition) (p : PassReport) : List Condition :=
  match p.result with
  | .succeeded message _ => conditionsOnSuccess previous p.now p.generation message
  | .failed reason => conditionsOnFailure previous p.now p.generation reason

lemma type_condition_ne (p : PassReport) : p.condition.type ≠ .ready := by
  rcases p with ⟨_ | _, _, _⟩ <;> exact nofun

end PassReport

/-- The conditions after passes, one after the other, from none. -/
def conditionsAfter (passes : List PassReport) : List Condition :=
  passes.foldl PassReport.conditions []

lemma conditionsAfter_concat (passes : List PassReport) (p : PassReport) :
    conditionsAfter (passes ++ [p]) = p.conditions (conditionsAfter passes) := by
  rw [conditionsAfter, List.foldl_append]
  rfl

/-! ## States of conditions -/

namespace Condition

/-- A condition but for its time. -/
def state (c : Condition) : ConditionType × Bool × String × Int :=
  (c.type, c.holds, c.message, c.generation)

lemma state_eq_iff : c.state = d.state ↔
    c.type = d.type ∧ c.holds = d.holds ∧ c.message = d.message ∧ c.generation = d.generation := by
  simp only [state, Prod.mk.injEq]

lemma sameState_iff : c.sameState d = true ↔ c.state = d.state := by
  simp only [state_eq_iff, sameState, Bool.and_eq_true, decide_eq_true_eq, and_assoc]

/-- The first previous condition in the same state, if there is one. -/
def kept (previous : List Condition) (c : Condition) : Condition :=
  (previous.find? fun p => p.sameState c).getD c

/-- A condition keeps its state. -/
lemma state_kept (previous : List Condition) (c : Condition) :
    (kept previous c).state = c.state := by
  rw [kept]
  cases hfind : previous.find? (fun p => p.sameState c) with
  | none => rfl
  | some p =>
    have hp := List.find?_some hfind
    exact sameState_iff.1 hp

lemma type_kept (previous : List Condition) (c : Condition) : (kept previous c).type = c.type :=
  (state_eq_iff.1 (state_kept previous c)).1

end Condition

open Condition

lemma keepTransitionTimes_eq (previous conditions : List Condition) :
    keepTransitionTimes previous conditions = conditions.map (kept previous) := rfl

lemma keepTransitionTimes_concat (previous conditions : List Condition) (c : Condition) :
    keepTransitionTimes previous (conditions ++ [c]) =
      conditions.map (kept previous) ++ [kept previous c] := List.map_append

/-! ## What one pass does -/

/-- After a success there are a condition about it and one about readiness. -/
lemma conditionsOnSuccess_eq (previous : List Condition) (now : Instant) (generation : Int)
    (message : String) : conditionsOnSuccess previous now generation message =
      [kept previous (.synchronized now message generation),
        kept previous (.readyOk now generation)] := rfl

/-- What stays after a failure is about readiness. -/
lemma conditionsExcluding_eq (previous : List Condition) :
    conditionsExcluding previous [.error, .synchronized] =
      previous.filter fun c => c.type = .ready := by
  rw [conditionsExcluding]
  congr 1
  funext c
  rcases c.type <;> rfl

/-- After a failure, if nothing was known about readiness, there is a condition that says so. -/
lemma conditionsOnFailure_of_not_known (h : ∀ c ∈ previous, c.type ≠ .ready) (now : Instant)
    (generation : Int) (reason : String) : conditionsOnFailure previous now generation reason =
      [kept previous (.failed now reason generation),
        kept previous (.readyKo now generation)] := by
  have hnone : previous.filter (fun c => c.type = .ready) = [] :=
    List.filter_eq_nil_iff.2 fun c hc => by simpa using h c hc
  rw [conditionsOnFailure, conditionsExcluding_eq, hnone]
  rfl

/-- A failure keeps what was known about readiness. -/
lemma conditionsOnFailure_of_known (h : ∃ c ∈ previous, c.type = .ready) (now : Instant)
    (generation : Int) (reason : String) : conditionsOnFailure previous now generation reason =
      keepTransitionTimes previous (previous.filter (fun c => c.type = .ready) ++
        [Condition.failed now reason generation]) := by
  obtain ⟨c, hc, htype⟩ := h
  have hany : (previous.filter (fun c => c.type = .ready) ++
      [Condition.failed now reason generation]).any (fun c => c.type = .ready) = true :=
    List.any_eq_true.2 ⟨c, by simp [hc, htype], by simpa using htype⟩
  rw [conditionsOnFailure, conditionsExcluding_eq]
  simp only [hany, if_true, List.append_nil]

/-- **Failures.** Of a condition about readiness and another one, a failure keeps the first, and
puts its own in the place of the second. -/
theorem conditionsOnFailure_of_perm (h : previous.Perm [ready, other])
    (hready : ready.type = .ready)
    (hother : other.type ≠ .ready) (now : Instant) (generation : Int) (reason : String) :
    conditionsOnFailure previous now generation reason =
      [kept previous ready, kept previous (.failed now reason generation)] := by
  have hfilter : previous.filter (fun c => c.type = .ready) = [ready] := by
    refine List.perm_singleton.1 ((h.filter _).trans ?_)
    rw [List.filter_cons_of_pos (by simpa using hready),
      List.filter_cons_of_neg (by simpa using hother), List.filter_nil]
  rw [conditionsOnFailure_of_known ⟨ready, h.mem_iff.2 List.mem_cons_self, hready⟩, hfilter]
  rfl

/-! ## What all passes come to -/

/-- The pass that readiness tells of: the last one that succeeded, or the first one of all. -/
def readinessReport (first : PassReport) (later : List PassReport) : PassReport :=
  ((first :: later).reverse.find? (·.result.isSuccess)).getD first

lemma readinessReport_concat (first : PassReport) (later : List PassReport) (p : PassReport) :
    readinessReport first (later ++ [p]) =
      if p.result.isSuccess then p else readinessReport first later := by
  rw [readinessReport, ← List.cons_append, List.reverse_append, List.reverse_singleton,
    List.singleton_append, List.find?_cons]
  rcases p.result.isSuccess <;> rfl

/-- What the conditions after passes tell: one of readiness, and the other one of the last pass. -/
private structure Tells (first : PassReport) (later : List PassReport)
    (conditions : List Condition) (ready other : Condition) : Prop where
  perm : conditions.Perm [ready, other]
  type : ready.type = .ready
  holds : ready.holds = true ↔ ∃ p ∈ first :: later, p.result.isSuccess = true
  generation : ready.generation = (readinessReport first later).generation
  last : other.state = (later.getLastD first).condition.state

namespace Tells

variable {first p : PassReport} {later : List PassReport} {conditions : List Condition}

/-- The first pass. -/
private lemma single (first : PassReport) :
    ∃ ready other, Tells first [] (first.conditions []) ready other := by
  rcases first with ⟨⟨message, applied⟩ | reason, generation, now⟩
  · exact ⟨.readyOk now generation, .synchronized now message generation, .swap _ _ _, rfl,
      ⟨fun _ => ⟨_, List.mem_cons_self, rfl⟩, fun _ => rfl⟩, rfl, rfl⟩
  · exact ⟨.readyKo now generation, .failed now reason generation, .swap _ _ _, rfl,
      ⟨nofun, by simp [PassResult.isSuccess]⟩, rfl, rfl⟩

/-- One more pass. -/
private lemma next (h : Tells first later conditions ready other) (p : PassReport) :
    ∃ ready other, Tells first (later ++ [p]) (p.conditions conditions) ready other := by
  have hlast : (later ++ [p]).getLastD first = p := List.getLastD_concat ..
  have hmem : p ∈ first :: (later ++ [p]) := by simp
  obtain ⟨⟨message, applied⟩ | reason, generation, now⟩ := p
  · obtain ⟨htype, hholds, -, hgeneration⟩ :=
      state_eq_iff.1 (state_kept conditions (.readyOk now generation))
    refine ⟨kept conditions (.readyOk now generation), _, .swap _ _ _, htype,
      ⟨fun _ => ⟨_, hmem, rfl⟩, fun _ => hholds⟩, ?_, ?_⟩
    · rw [hgeneration, readinessReport_concat]
      rfl
    · rw [hlast]
      exact state_kept conditions (.synchronized now message generation)
  · have hother : other.type ≠ .ready := by
      rw [(state_eq_iff.1 h.last).1]
      exact PassReport.type_condition_ne _
    obtain ⟨htype, hholds, -, hgeneration⟩ := state_eq_iff.1 (state_kept conditions ready)
    refine ⟨_, _, .of_eq (conditionsOnFailure_of_perm h.perm h.type hother now generation reason),
      htype.trans h.type, ?_, ?_, ?_⟩
    · rw [hholds, h.holds]
      simp [PassResult.isSuccess]
    · rw [hgeneration, h.generation, readinessReport_concat]
      rfl
    · rw [hlast]
      exact state_kept conditions (.failed now reason generation)

/-- **All passes.** What the conditions tell after every one of them. -/
private lemma conditionsAfter (first : PassReport) (later : List PassReport) :
    ∃ ready other, Tells first later (conditionsAfter (first :: later)) ready other := by
  induction later using List.reverseRecOn with
  | nil => exact single first
  | append_singleton later p ih =>
    obtain ⟨ready, other, h⟩ := ih
    rw [← List.cons_append, conditionsAfter_concat]
    exact h.next p

end Tells

/-- **Conditions tell the history.** After any passes, from no conditions, there are one condition
about readiness and one other. The other one tells of the last pass: that the resource was
synchronized, with its message, or that there was an error, with its reason, in either case with its
generation. The resource is ready exactly if some pass succeeded; and readiness has the generation
of the last pass that did, or that of the first pass if none did.

**Proof sketch.** Induction on the passes, the last one first. A success leaves its own two
conditions. A failure keeps the condition about readiness, as there is one, and drops the other one
for its own. No condition changes its state by keeping the time of an earlier one. -/
theorem conditions_tell_history (first : PassReport) (later : List PassReport) :
    ∃ ready other, (conditionsAfter (first :: later)).Perm [ready, other] ∧
      ready.type = .ready ∧
      (match (later.getLastD first).result with
        | .succeeded message _ =>
          other.type = .synchronized ∧ other.holds = true ∧ other.message = message
        | .failed reason => other.type = .error ∧ other.holds = false ∧ other.message = reason) ∧
      other.generation = (later.getLastD first).generation ∧
      (ready.holds = true ↔ ∃ p ∈ first :: later, p.result.isSuccess = true) ∧
      ready.generation = (readinessReport first later).generation := by
  obtain ⟨ready, other, h⟩ := Tells.conditionsAfter first later
  have hlast := state_eq_iff.1 h.last
  refine ⟨ready, other, h.perm, h.type, ?_⟩
  generalize later.getLastD first = last at hlast
  obtain ⟨_ | _, generation, now⟩ := last
  · obtain ⟨htype, hholds, hmessage, hgeneration⟩ := hlast
    exact ⟨⟨htype, hholds, hmessage⟩, hgeneration, h.holds, h.generation⟩
  · obtain ⟨htype, hholds, hmessage, hgeneration⟩ := hlast
    exact ⟨⟨htype, hholds, hmessage⟩, hgeneration, h.holds, h.generation⟩

end MonitorSync
