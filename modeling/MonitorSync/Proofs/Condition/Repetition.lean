import MonitorSync.Proofs.Condition.History
set_option autoImplicit false

/-!
# Repeated results

A pass that comes to what the pass before it came to finds its own conditions again, and they keep
their times. The conditions are the same ones then, unless they are put in another order.

## Main results

* `Condition.kept_again` — a condition that was found, or was added, is found again.
* `conditionsOnSuccess_again`, `conditionsOnFailure_again` — the second pass leaves the conditions.
* `conditionsOnFailure_again_ne` — a second failure puts the conditions of a first one in order.
* `PassReport.conditions_repeat_iff` — when a repeated result leaves the conditions as they are.
-/

namespace MonitorSync

open Condition

variable {previous conditions : List Condition} {c d : Condition} {now later : Instant}
  {generation : Int} {message reason : String}

/-- A previous condition and another one in its state are replaced by the same one. -/
lemma Condition.kept_eq_of_mem (hc : c ∈ previous) (h : c.state = d.state) :
    kept previous c = kept previous d := by
  have hsearch : (fun p : Condition => p.sameState c) = fun p => p.sameState d := by
    funext p
    rw [Bool.eq_iff_iff, sameState_iff, sameState_iff, h]
  rw [kept, kept, hsearch]
  cases hfind : previous.find? (fun p => p.sameState d) with
  | none => exact absurd (sameState_iff.2 h) (List.find?_eq_none.1 hfind c hc)
  | some p => rfl

/-- **Found again.** If conditions in the same state were replaced by the same one, then a condition
that looks like one of them is replaced by that one the next time. -/
theorem Condition.kept_again
    (hsame : ∀ a ∈ conditions, ∀ b ∈ conditions, a.state = b.state →
      kept previous a = kept previous b)
    (hc : c ∈ conditions) (h : c.state = d.state) :
    kept (keepTransitionTimes previous conditions) d = kept previous c := by
  rw [keepTransitionTimes_eq, kept]
  cases hfind : (conditions.map (kept previous)).find? (fun p => p.sameState d) with
  | none =>
    refine absurd ?_ (List.find?_eq_none.1 hfind _ (List.mem_map_of_mem hc))
    rw [sameState_iff, state_kept, h]
  | some p =>
    obtain ⟨a, ha, rfl⟩ := List.mem_map.1 (List.mem_of_find?_eq_some hfind)
    have hfound := List.find?_some hfind
    rw [sameState_iff, state_kept, ← h] at hfound
    exact hsame a ha c hc hfound

/-- **A success again** leaves the conditions as they are. -/
lemma conditionsOnSuccess_again :
    conditionsOnSuccess (conditionsOnSuccess previous now generation message) later generation
      message = conditionsOnSuccess previous now generation message := by
  have hsame : ∀ a ∈ [Condition.synchronized now message generation, .readyOk now generation],
      ∀ b ∈ [Condition.synchronized now message generation, .readyOk now generation],
        a.state = b.state → kept previous a = kept previous b := by
    simp [state, Condition.synchronized, readyOk]
  have hsynchronized := kept_again hsame List.mem_cons_self
    (rfl : _ = (Condition.synchronized later message generation).state)
  have hready := kept_again hsame (List.mem_cons_of_mem _ List.mem_cons_self)
    (rfl : _ = (readyOk later generation).state)
  rw [conditionsOnSuccess_eq (conditionsOnSuccess ..)]
  exact congrArg₂ (fun a b => [a, b]) hsynchronized hready

/-- What is about readiness stays so when it keeps its time. -/
lemma filter_keepTransitionTimes (previous conditions : List Condition) :
    (keepTransitionTimes previous conditions).filter (fun c => c.type = .ready) =
      keepTransitionTimes previous (conditions.filter fun c => c.type = .ready) := by
  have htype : (fun c : Condition => decide (c.type = .ready)) ∘ kept previous =
      fun c => decide (c.type = .ready) := by
    funext c
    rw [Function.comp_apply, type_kept]
  rw [keepTransitionTimes_eq, List.filter_map, htype]
  rfl

/-- What a failure keeps about readiness. -/
private lemma filter_conditionsOnFailure (hknown : ∃ c ∈ previous, c.type = .ready) :
    (conditionsOnFailure previous now generation reason).filter (fun c => c.type = .ready) =
      (previous.filter fun c => c.type = .ready).map (kept previous) := by
  have hreadiness : (previous.filter (fun c => c.type = .ready) ++
      [Condition.failed now reason generation]).filter (fun c => c.type = .ready) =
        previous.filter fun c => c.type = .ready := by
    simp [Condition.failed]
  rw [conditionsOnFailure_of_known hknown, filter_keepTransitionTimes, hreadiness]
  rfl

/-- After a failure, something is known about readiness. -/
lemma exists_ready_of_failure (previous : List Condition) (now : Instant) (generation : Int)
    (reason : String) :
    ∃ c ∈ conditionsOnFailure previous now generation reason, c.type = .ready := by
  by_cases hknown : ∃ c ∈ previous, c.type = .ready
  · rw [conditionsOnFailure_of_known hknown]
    obtain ⟨c, hc, htype⟩ := hknown
    have hmem : c ∈ previous.filter fun c => c.type = .ready :=
      List.mem_filter.2 ⟨hc, decide_eq_true htype⟩
    exact ⟨_, List.mem_map_of_mem (List.mem_append_left _ hmem), (type_kept previous c).trans htype⟩
  · rw [conditionsOnFailure_of_not_known fun c hc htype => hknown ⟨c, hc, htype⟩]
    exact ⟨_, List.mem_cons_of_mem _ List.mem_cons_self, type_kept previous _⟩

/-- **A failure again** leaves the conditions as they are, if readiness was known before the
first. -/
lemma conditionsOnFailure_again (hknown : ∃ c ∈ previous, c.type = .ready) :
    conditionsOnFailure (conditionsOnFailure previous now generation reason) later generation
      reason = conditionsOnFailure previous now generation reason := by
  rw [conditionsOnFailure_of_known (exists_ready_of_failure ..), filter_conditionsOnFailure hknown,
    conditionsOnFailure_of_known hknown]
  set readiness := previous.filter fun c => c.type = .ready with hreadiness
  set failure := Condition.failed now reason generation with hfailure
  have hsame : ∀ a ∈ readiness ++ [failure], ∀ b ∈ readiness ++ [failure],
      a.state = b.state → kept previous a = kept previous b := by
    intro a ha b hb h
    rcases List.mem_append.1 ha with ha | ha
    · exact kept_eq_of_mem (List.mem_filter.1 ha).1 h
    · rcases List.mem_append.1 hb with hb | hb
      · exact (kept_eq_of_mem (List.mem_filter.1 hb).1 h.symm).symm
      · rw [List.mem_singleton.1 ha, List.mem_singleton.1 hb]
  set first := keepTransitionTimes previous (readiness ++ [failure]) with hfirst
  have hkept :
      (readiness.map (kept previous)).map (kept first) = readiness.map (kept previous) := by
    rw [List.map_map]
    refine List.map_congr_left fun c hc => ?_
    exact kept_again hsame (List.mem_append_left _ hc) (state_kept previous c).symm
  have hfailed : kept first (.failed later reason generation) = kept previous failure :=
    kept_again hsame (List.mem_append_right _ List.mem_cons_self) rfl
  calc keepTransitionTimes first
        (readiness.map (kept previous) ++ [.failed later reason generation])
      = (readiness.map (kept previous)).map (kept first) ++
          [kept first (.failed later reason generation)] := keepTransitionTimes_concat ..
    _ = readiness.map (kept previous) ++ [kept previous failure] := by rw [hkept, hfailed]
    _ = first := (keepTransitionTimes_concat ..).symm

/-- A first failure puts its own condition first, and the failure after it puts readiness first. -/
lemma conditionsOnFailure_again_ne (hunknown : ∀ c ∈ previous, c.type ≠ .ready) :
    conditionsOnFailure (conditionsOnFailure previous now generation reason) later generation
      reason ≠ conditionsOnFailure previous now generation reason := by
  rw [conditionsOnFailure_of_not_known hunknown,
    conditionsOnFailure_of_perm (.swap _ _ _) (type_kept _ _)]
  · intro h
    have htype := congrArg Condition.type (List.head_eq_of_cons_eq h)
    rw [type_kept, type_kept, type_kept] at htype
    exact nomatch htype
  · rw [type_kept]
    exact nofun

/-- **Repeated results.** A result that is seen again leaves the conditions as they are exactly if
it is a success, or something was known about readiness before.

**Proof sketch.** All conditions of the first pass are found by the second one, which keeps them. It
puts them in the same order unless the first one had to add that the resource is not ready. -/
theorem PassReport.conditions_repeat_iff (previous : List Condition) (p : PassReport)
    (later : Instant) :
    ({ p with now := later } : PassReport).conditions (p.conditions previous) =
        p.conditions previous ↔
      p.result.isSuccess = true ∨ ∃ c ∈ previous, c.type = .ready := by
  obtain ⟨⟨message, applied⟩ | reason, generation, now⟩ := p
  · exact iff_of_true conditionsOnSuccess_again (.inl rfl)
  · by_cases hknown : ∃ c ∈ previous, c.type = .ready
    · exact iff_of_true (conditionsOnFailure_again hknown) (.inr hknown)
    · refine iff_of_false (conditionsOnFailure_again_ne fun c hc htype => hknown ⟨c, hc, htype⟩) ?_
      exact not_or.2 ⟨Bool.false_ne_true, hknown⟩

end MonitorSync
