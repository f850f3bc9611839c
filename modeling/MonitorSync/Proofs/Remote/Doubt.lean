import MonitorSync.Proofs.Remote.Pass
set_option autoImplicit false

/-!
# Calls in doubt

A call may fail before it reaches the platform, or after the platform has carried it out: whoever
made it sees the same error. Work that ends at such a call leaves the platform with the call made or
without it.

## Main definitions

* `Breakage` — how a call breaks.
* `InMemoryPlatform.Run.brokenAnswer` — an ideal platform some of whose calls break.
* `InMemoryPlatform.Run.visited` — the platforms that work goes through.
* `Doubtful` — a system whose failing calls may have been carried out.

## Main results

* `InMemoryPlatform.Run.exists_cutOff` — whatever work goes through is what a broken run ends with.
* `Stage.performAll_in_doubt` — a sequence of calls leaves an element as some of them made it.
-/

namespace MonitorSync

open InMemoryPlatform

/-- How a call breaks: before it has taken effect or after. -/
inductive Breakage where
  | before (e : Failure)
  | after (e : Failure)

namespace InMemoryPlatform.Run

variable {α : Type} {broken : Nat → RemoteCall → Option Breakage} {r : Run}

/-- Answers a call as an ideal platform and records it: `broken n c` says how the call `c` breaks if
it is the `n`th from zero and shall break. -/
def brokenAnswer (broken : Nat → RemoteCall → Option Breakage) (c : RemoteCall) (r : Run) :
    c.Answer × Run :=
  let calls := c :: r.calls
  let result := InMemoryPlatform.idealAnswer c r.platform
  match broken r.calls.length c with
  | some (.before e) => (.error e, ⟨calls, r.platform⟩)
  | some (.after e) => (.error e, ⟨calls, result.2⟩)
  | none => (result.1, ⟨calls, result.2⟩)

/-- Every call counts. -/
lemma length_calls_brokenAnswer (c : RemoteCall) :
    (brokenAnswer broken c r).2.calls.length = r.calls.length + 1 := by
  rw [brokenAnswer]
  split <;> rfl

/-! ## Moments of a run -/

/-- The platforms that work goes through, before its first call and after each one. -/
def visited (broken : Nat → RemoteCall → Option Breakage) :
    Program RemoteCall RemoteCall.Answer α → Run → List InMemoryPlatform
  | .done _, r => [r.platform]
  | .ask c next, r =>
    let result := brokenAnswer broken c r
    r.platform :: visited broken (next result.1) result.2

/-- Calls break as before, and from the `n`th on all of them do, without effect. -/
def cutOff (n : Nat) (broken : Nat → RemoteCall → Option Breakage) (i : Nat) (c : RemoteCall) :
    Option Breakage :=
  if n ≤ i then some (.before (.timeout "")) else broken i c

/-- After the cut, nothing happens. -/
private lemma platform_run_cutOff {n : Nat} (p : Program RemoteCall RemoteCall.Answer α)
    (hn : n ≤ r.calls.length) :
    (p.run (brokenAnswer (cutOff n broken)) r).2.platform = r.platform := by
  refine (Program.run_invariant (brokenAnswer (cutOff n broken))
    (I := fun t => n ≤ t.calls.length ∧ t.platform = r.platform) (fun c t ht => ?_) p ⟨hn, rfl⟩).2
  have hcut : cutOff n broken t.calls.length c = some (.before (.timeout "")) := if_pos ht.1
  refine ⟨?_, ?_⟩
  · rw [length_calls_brokenAnswer]
    exact Nat.le_succ_of_le ht.1
  · simp only [brokenAnswer, hcut]
    exact ht.2

/-- **Any moment may be the last.** A platform that work goes through is the one with which a run
ends that breaks at that moment.

**Proof sketch.** Induction on the work. The platform before a call is what is left if this call and
all later ones break; one after it is left by a cut at a later call, which this call does not
notice. -/
theorem exists_cutOff (p : Program RemoteCall RemoteCall.Answer α) {q : InMemoryPlatform}
    (hq : q ∈ visited broken p r) :
    ∃ n, r.calls.length ≤ n ∧ q = (p.run (brokenAnswer (cutOff n broken)) r).2.platform := by
  induction p generalizing r with
  | done a =>
    obtain rfl : q = r.platform := List.mem_singleton.1 hq
    exact ⟨r.calls.length, Nat.le_refl _, rfl⟩
  | ask c next ih =>
    rcases List.mem_cons.1 hq with rfl | hq
    · exact ⟨r.calls.length, Nat.le_refl _, (platform_run_cutOff _ (Nat.le_refl _)).symm⟩
    · obtain ⟨n, hn, hrun⟩ := ih _ hq
      rw [length_calls_brokenAnswer] at hn
      have hsame : brokenAnswer (cutOff n broken) c r = brokenAnswer broken c r := by
        have hcut : cutOff n broken r.calls.length c = broken r.calls.length c :=
          if_neg (by omega)
        simp only [brokenAnswer, hcut]
      refine ⟨n, by omega, ?_⟩
      change q = ((next (brokenAnswer (cutOff n broken) c r).1).run _
        (brokenAnswer (cutOff n broken) c r).2).2.platform
      rw [hsame]
      exact hrun

end InMemoryPlatform.Run

/-! ## Doubtful systems -/

/-- A system with states `σ` that is an ideal platform but for calls that fail, with their effect or
without it. -/
structure Doubtful {σ : Type} (answer : (c : RemoteCall) → σ → c.Answer × σ)
    (view : σ → InMemoryPlatform) : Prop where
  answers (c : RemoteCall) (s : σ) :
    ((answer c s).1, view (answer c s).2) = idealAnswer c (view s) ∨
      (∃ e, (answer c s).1 = .error e) ∧
        (view (answer c s).2 = view s ∨ view (answer c s).2 = (idealAnswer c (view s)).2)

/-- A platform whose calls break by their number is doubtful. -/
theorem InMemoryPlatform.Run.doubtful_brokenAnswer
    (broken : Nat → RemoteCall → Option Breakage) :
    Doubtful (Run.brokenAnswer broken) Run.platform := by
  refine ⟨fun c r => ?_⟩
  rw [Run.brokenAnswer]
  rcases broken r.calls.length c with _ | e | e
  · exact .inl rfl
  · exact .inr ⟨⟨e, rfl⟩, .inl rfl⟩
  · exact .inr ⟨⟨e, rfl⟩, .inr rfl⟩

namespace Doubtful

variable {σ τ : Type} {answer : (c : RemoteCall) → σ → c.Answer × σ}
  {view : σ → InMemoryPlatform} {s : σ}

/-- A call that an ideal platform answers without a change reads the system. -/
lemma reads (hd : Doubtful answer view) {c : RemoteCall} {held : InMemoryPlatform → c.Reply}
    (hideal : ∀ p, idealAnswer c p = (.ok (held p), p)) (s : σ) :
    ∃ t, view t = view s ∧
      ((∃ e, answer c s = (.error e, t)) ∨ answer c s = (.ok (held (view s)), t)) := by
  refine ⟨(answer c s).2, ?_⟩
  rcases hd.answers c s with h | ⟨⟨e, he⟩, hv⟩
  · rw [hideal] at h
    have hreply : (answer c s).1 = .ok (held (view s)) := congrArg Prod.fst h
    exact ⟨congrArg Prod.snd h, .inr (Prod.ext hreply rfl)⟩
  · rw [hideal, or_self] at hv
    exact ⟨hv, .inl ⟨e, Prod.ext he rfl⟩⟩

/-- A call runs as on an ideal platform, or fails and leaves the system in doubt. -/
lemma exec_perform (hd : Doubtful answer view) (c : RemoteCall) (s : σ) :
    Program.exec idealAnswer (Remote.perform c) (view s) =
      ((Program.exec answer (Remote.perform c) s).1,
        view (Program.exec answer (Remote.perform c) s).2) ∨
    ∃ e t, Program.exec answer (Remote.perform c) s = (.error e, t) ∧
      (view t = view s ∨
        view t = (Program.exec idealAnswer (Remote.perform c) (view s)).2) := by
  simp only [InMemoryPlatform.exec_perform]
  rcases hd.answers c s with h | ⟨⟨e, he⟩, hv⟩
  · left
    rw [← h]
  · exact .inr ⟨e, _, by rw [he]; rfl, hv⟩

end Doubtful

/-! ## Sequences of calls -/

namespace Stage

variable {σ τ : Type} {S : Stage σ} {x z : σ} {calls : List RemoteCall}
  {answer : (c : RemoteCall) → τ → c.Answer × τ} {view : τ → InMemoryPlatform} {s : τ}

/-- **Where a sequence leaves an element.** A sequence of calls that apply to an element leaves it
as the first of them made it, up to some call; all of them were made if the sequence succeeded.

**Proof sketch.** Induction on the calls. The first call changes the element, and the rest goes on
from there; or it is refused because the key is taken; or it fails, with its effect or without. -/
theorem performAll_in_doubt (hd : Doubtful answer view) (hx : S.Admits x) (hv : view s = S.fill x)
    (hz : S.changeAll? calls x = some z) :
    ∃ before y, before <+: calls ∧ S.changeAll? before x = some y ∧ S.Admits y ∧
      view (Program.exec answer (Remote.performAll calls) s).2 = S.fill y ∧
      ((Program.exec answer (Remote.performAll calls) s).1 = .ok () → y = z) := by
  induction calls generalizing x s with
  | nil =>
    obtain rfl : x = z := by simpa using hz
    exact ⟨[], x, List.prefix_rfl, rfl, hx, hv, fun _ => rfl⟩
  | cons c calls ih =>
    obtain ⟨w, hw, hz⟩ := Option.bind_eq_some_iff.1 (changeAll?_cons.symm.trans hz)
    have hone : S.changeAll? [c] x = some w := by
      rw [changeAll?_cons, hw]
      rfl
    have hprefix : [c] <+: c :: calls := ⟨calls, rfl⟩
    rw [Remote.performAll_cons]
    simp only [Program.exec_bind]
    rcases hd.exec_perform c s with hi | ⟨e, t, he, ht⟩
    · rcases hp : Program.exec answer (Remote.perform c) s with ⟨r, t⟩
      rw [hp, hv] at hi
      rcases S.perform_change hx hw with ⟨hadm, hok⟩ | ⟨-, e, herr⟩
      · obtain ⟨rfl, ht⟩ := Prod.mk.inj (hi.symm.trans hok)
        obtain ⟨before, y, hb, hy, hadm, hfill, hdone⟩ := ih hadm ht hz
        refine ⟨c :: before, y, List.cons_prefix_cons.2 ⟨rfl, hb⟩, ?_, hadm, hfill, hdone⟩
        rw [changeAll?_cons, hw, Option.bind_some, hy]
      · obtain ⟨rfl, ht⟩ := Prod.mk.inj (hi.symm.trans herr)
        exact ⟨[], x, List.nil_prefix, rfl, hx, ht, fun h => by cases h⟩
    · rw [he]
      rcases ht with ht | ht
      · exact ⟨[], x, List.nil_prefix, rfl, hx, ht.trans hv, fun h => by cases h⟩
      · rw [hv] at ht
        rcases S.perform_change hx hw with ⟨hadm, hok⟩ | ⟨-, e', herr⟩
        · rw [hok] at ht
          exact ⟨[c], w, hprefix, hone, hadm, ht, fun h => by cases h⟩
        · rw [herr] at ht
          exact ⟨[], x, List.nil_prefix, rfl, hx, ht, fun h => by cases h⟩

end Stage

end MonitorSync
