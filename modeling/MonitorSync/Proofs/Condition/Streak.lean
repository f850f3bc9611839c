import MonitorSync.Proofs.Condition.History
set_option autoImplicit false

/-!
# The times of conditions

A condition has the time of the pass with which its streak began: since that pass, every pass left a
condition in the same state. A condition that is left out once and comes back begins another streak.

## Main definitions

* `conditionsAt` — the conditions after each one of some passes.
* `Streak` — passes in a row after each of which there is a condition in some state.

## Main results

* `PassReport.mem_of_mem_conditions`, `PassReport.lastTransition_of_mem_conditions` — a condition
  after a pass stood there before with the same time, or has the time of the pass.
* `exists_streak` — a condition has the time of the first pass of its streak.
* `conditions_date_streaks` — so it keeps its time while it persists, and no longer.
-/

namespace MonitorSync

open Condition

variable {previous : List Condition} {c d : Condition} {passes : List PassReport} {p : PassReport}
  {i j : Nat}

/-! ## What one pass does to a time -/

/-- A condition in whose state there is a previous one is replaced by a previous one. -/
lemma Condition.kept_mem (h : ∃ d ∈ previous, d.state = c.state) : kept previous c ∈ previous := by
  rw [kept]
  cases hfind : previous.find? (fun p => p.sameState c) with
  | none =>
    obtain ⟨d, hd, hstate⟩ := h
    exact absurd (sameState_iff.2 hstate) (List.find?_eq_none.1 hfind d hd)
  | some p => exact List.mem_of_find?_eq_some hfind

/-- A condition in whose state there is no previous one stays as it is. -/
lemma Condition.kept_of_forall_ne (h : ∀ d ∈ previous, d.state ≠ c.state) :
    kept previous c = c := by
  have hfind : previous.find? (fun p => p.sameState c) = none :=
    List.find?_eq_none.2 fun d hd hsame => h d hd (sameState_iff.1 hsame)
  rw [kept, hfind]
  rfl

namespace PassReport

/-- A condition after a pass is what is kept for a previous one, or for one that has the time of the
pass. -/
private lemma exists_kept_of_mem_conditions (hc : c ∈ p.conditions previous) :
    ∃ a, c = kept previous a ∧ (a ∈ previous ∨ a.lastTransition = some p.now) := by
  obtain ⟨⟨message, applied⟩ | reason, generation, now⟩ := p
  · dsimp only [conditions] at hc
    rw [conditionsOnSuccess_eq, List.mem_cons, List.mem_singleton] at hc
    rcases hc with rfl | rfl
    · exact ⟨_, rfl, .inr rfl⟩
    · exact ⟨_, rfl, .inr rfl⟩
  · dsimp only [conditions] at hc
    by_cases hknown : ∃ c ∈ previous, c.type = .ready
    · rw [conditionsOnFailure_of_known hknown, keepTransitionTimes_concat, List.mem_append,
        List.mem_singleton] at hc
      rcases hc with hc | rfl
      · obtain ⟨a, ha, rfl⟩ := List.mem_map.1 hc
        exact ⟨a, rfl, .inl (List.mem_filter.1 ha).1⟩
      · exact ⟨_, rfl, .inr rfl⟩
    · rw [conditionsOnFailure_of_not_known fun c hc htype => hknown ⟨c, hc, htype⟩, List.mem_cons,
        List.mem_singleton] at hc
      rcases hc with rfl | rfl
      · exact ⟨_, rfl, .inr rfl⟩
      · exact ⟨_, rfl, .inr rfl⟩

/-- **Persistence.** A condition after a pass, in whose state there was one before, stood there
before with its time. -/
theorem mem_of_mem_conditions (hc : c ∈ p.conditions previous)
    (h : ∃ d ∈ previous, d.state = c.state) : c ∈ previous := by
  obtain ⟨a, rfl, -⟩ := exists_kept_of_mem_conditions hc
  rw [state_kept] at h
  exact kept_mem h

/-- **Transitions.** A condition after a pass, in whose state there was none before, has the time of
the pass. -/
theorem lastTransition_of_mem_conditions (hc : c ∈ p.conditions previous)
    (h : ∀ d ∈ previous, d.state ≠ c.state) : c.lastTransition = some p.now := by
  obtain ⟨a, rfl, ha⟩ := exists_kept_of_mem_conditions hc
  rw [state_kept] at h
  rw [kept_of_forall_ne h]
  exact ha.resolve_left fun hmem => h a hmem rfl

end PassReport

/-! ## Streaks -/

/-- The conditions after the pass at a position, which is counted from zero. -/
def conditionsAt (passes : List PassReport) (i : Nat) : List Condition :=
  conditionsAfter (passes.take (i + 1))

/-- After each pass from the one at `j` to the one at `i`, there is a condition that equals `c` but
for the time. -/
def Streak (passes : List PassReport) (c : Condition) (j i : Nat) : Prop :=
  ∀ k, j ≤ k → k ≤ i → ∃ d ∈ conditionsAt passes k, d.sameState c = true

lemma conditionsAt_eq (hp : passes[i]? = some p) :
    conditionsAt passes i = p.conditions (conditionsAfter (passes.take i)) := by
  rw [conditionsAt, List.take_add_one, hp, Option.toList_some, conditionsAfter_concat]

/-- Before the first pass there are no conditions. -/
lemma conditionsAt_zero (hp : passes[0]? = some p) : conditionsAt passes 0 = p.conditions [] :=
  conditionsAt_eq hp

lemma conditionsAt_succ (hp : passes[i + 1]? = some p) :
    conditionsAt passes (i + 1) = p.conditions (conditionsAt passes i) :=
  conditionsAt_eq hp

lemma Streak.of_state (h : Streak passes c j i) (hstate : c.state = d.state) :
    Streak passes d j i := by
  intro k hjk hki
  obtain ⟨e, he, hsame⟩ := h k hjk hki
  exact ⟨e, he, sameState_iff.2 ((sameState_iff.1 hsame).trans hstate)⟩

/-- A streak goes on with a condition in the same state after the next pass. -/
lemma Streak.succ (h : Streak passes c j i) (hc : c ∈ conditionsAt passes (i + 1)) :
    Streak passes c j (i + 1) := by
  intro k hjk hki
  rcases Nat.le_succ_iff.1 hki with hki | rfl
  · exact h k hjk hki
  · exact ⟨c, hc, sameState_iff.2 rfl⟩

/-- A streak at its last pass. -/
lemma Streak.of_mem (hc : c ∈ conditionsAt passes i) : Streak passes c i i := by
  intro k hik hki
  obtain rfl := Nat.le_antisymm hki hik
  exact ⟨c, hc, sameState_iff.2 rfl⟩

/-- **Streaks.** A condition after a pass has the time of the first pass of its streak.

**Proof sketch.** Induction on the position of the pass. A condition in whose state there was one
before stood there with its time, so its streak is that of before and one pass longer. Any other
condition has the time of the pass, and its streak begins there. -/
theorem exists_streak (hi : i < passes.length) (hc : c ∈ conditionsAt passes i) :
    ∃ j ≤ i, c.lastTransition = passes[j]?.map PassReport.now ∧ Streak passes c j i ∧
      ∀ k, Streak passes c k i → j ≤ k := by
  induction i with
  | zero =>
    have hp := List.getElem?_eq_getElem hi
    refine ⟨0, Nat.le_refl _, ?_, .of_mem hc, fun k _ => Nat.zero_le k⟩
    rw [conditionsAt_zero hp] at hc
    rw [PassReport.lastTransition_of_mem_conditions hc nofun, hp]
    rfl
  | succ i ih =>
    have hp := List.getElem?_eq_getElem hi
    have hnext : c ∈ passes[i + 1].conditions (conditionsAt passes i) := conditionsAt_succ hp ▸ hc
    by_cases hbefore : ∃ d ∈ conditionsAt passes i, d.state = c.state
    · obtain ⟨j, hji, htime, hstreak, hfirst⟩ :=
        ih (Nat.lt_of_succ_lt hi) (PassReport.mem_of_mem_conditions hnext hbefore)
      refine ⟨j, Nat.le_succ_of_le hji, htime, hstreak.succ hc, fun k hk => ?_⟩
      by_cases hki : k ≤ i
      · exact hfirst k fun l hkl hli => hk l hkl (Nat.le_succ_of_le hli)
      · omega
    · refine ⟨i + 1, Nat.le_refl _, ?_, .of_mem hc, fun k hk => ?_⟩
      · rw [PassReport.lastTransition_of_mem_conditions hnext fun d hd hstate =>
          hbefore ⟨d, hd, hstate⟩, hp]
        rfl
      · by_contra hki
        obtain ⟨d, hd, hsame⟩ := hk i (by omega) (Nat.le_succ i)
        exact hbefore ⟨d, hd, sameState_iff.1 hsame⟩

/-- Conditions after one pass that are in the same state have the same time. -/
lemma lastTransition_eq_of_state (hi : i < passes.length) (hc : c ∈ conditionsAt passes i)
    (hd : d ∈ conditionsAt passes i) (hstate : d.state = c.state) :
    d.lastTransition = c.lastTransition := by
  obtain ⟨j, -, hctime, hcstreak, hcfirst⟩ := exists_streak hi hc
  obtain ⟨k, -, hdtime, hdstreak, hdfirst⟩ := exists_streak hi hd
  obtain rfl : j = k :=
    Nat.le_antisymm (hcfirst k (hdstreak.of_state hstate))
      (hdfirst j (hcstreak.of_state hstate.symm))
  rw [hctime, hdtime]

/-! ## Main result -/

/-- **Conditions date streaks.** Take any passes, from no conditions, and a condition after one of
them. Its time is that of the first pass since which there was a condition in the same state after
every pass. So it keeps its time if it is there after the next pass too, whatever the other
conditions are; and if it was not there after the pass before, then it has the time of its pass. -/
theorem conditions_date_streaks (hi : i < passes.length) (hc : c ∈ conditionsAt passes i) :
    (∃ j ≤ i, c.lastTransition = passes[j]?.map PassReport.now ∧ Streak passes c j i ∧
      ∀ k, Streak passes c k i → j ≤ k) ∧
    (i + 1 < passes.length → ∀ d ∈ conditionsAt passes (i + 1), d.sameState c = true →
      d.lastTransition = c.lastTransition) ∧
    ((∀ k, i = k + 1 → ∀ d ∈ conditionsAt passes k, d.sameState c = false) →
      c.lastTransition = passes[i]?.map PassReport.now) := by
  refine ⟨exists_streak hi hc, fun hnext d hd hsame => ?_, fun hgone => ?_⟩
  · have hstate := sameState_iff.1 hsame
    rw [conditionsAt_succ (List.getElem?_eq_getElem hnext)] at hd
    have hbefore := PassReport.mem_of_mem_conditions hd ⟨c, hc, hstate.symm⟩
    exact lastTransition_eq_of_state hi hc hbefore hstate
  · obtain ⟨j, hji, htime, hstreak, -⟩ := exists_streak hi hc
    obtain rfl | hlt := Nat.eq_or_lt_of_le hji
    · exact htime
    · obtain ⟨k, rfl⟩ := Nat.exists_eq_add_one_of_ne_zero (Nat.ne_zero_of_lt hlt)
      obtain ⟨d, hd, hsame⟩ := hstreak k (Nat.le_of_lt_succ hlt) (Nat.le_succ k)
      exact absurd hsame (by rw [hgone k rfl d hd]; exact Bool.false_ne_true)

/-- Two successes with a failure between them, in one generation. -/
def interruptedPasses : List PassReport :=
  [⟨.succeeded "Already in sync" true, 1, ⟨10, 0⟩⟩, ⟨.failed "timeout", 1, ⟨20, 0⟩⟩,
    ⟨.succeeded "Already in sync" true, 1, ⟨30, 0⟩⟩]

/-- Readiness keeps the time of the first success, while the condition about the last pass, which
the failure took away, has that of the second one. -/
theorem conditions_date_streaks_interrupted :
    conditionsAt interruptedPasses 2 =
      [.synchronized ⟨30, 0⟩ "Already in sync" 1, .readyOk ⟨10, 0⟩ 1] ∧
    (∃ j ≤ 2, (readyOk ⟨10, 0⟩ 1).lastTransition = interruptedPasses[j]?.map PassReport.now ∧
      Streak interruptedPasses (.readyOk ⟨10, 0⟩ 1) j 2 ∧
      ∀ k, Streak interruptedPasses (.readyOk ⟨10, 0⟩ 1) k 2 → j ≤ k) ∧
    (∀ d ∈ conditionsAt interruptedPasses 1, d.sameState (.readyOk ⟨10, 0⟩ 1) = true →
      d.lastTransition = (readyOk ⟨10, 0⟩ 1).lastTransition) ∧
    (Condition.synchronized ⟨30, 0⟩ "Already in sync" 1).lastTransition =
      interruptedPasses[2]?.map PassReport.now :=
  ⟨by decide, (conditions_date_streaks (by decide) (by decide)).1,
    (conditions_date_streaks (i := 0) (by decide) (by decide)).2.1 (by decide),
    (conditions_date_streaks (by decide) (by decide)).2.2 fun
      | 1, rfl => by decide⟩

end MonitorSync
