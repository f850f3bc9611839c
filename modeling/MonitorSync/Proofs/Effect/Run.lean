import Mathlib.Data.List.Forall2
import Mathlib.Tactic.Lemma
import MonitorSync.Effect.Program
set_option autoImplicit false

/-!
# Running programs

Laws of `Program.run`, and of running work that may fail. The rest of the theory takes programs
apart with these and does not open `Program.bind`, `Program.run` or `Program.translate` again.

## Main definitions

* `Program.exec` — running work that may fail.

## Main results

* `Program.run_bind` — a sequence runs its parts one after the other.
* `Program.run_translate` — replacing calls by programs is the same as answering by running them.
* `Program.run_map_state` — a system that sees another one through a view answers as that one does.
* `Program.exec_bind` — work goes on after a success and ends at a failure.
-/

namespace MonitorSync

namespace Program

variable {C D : Type} {A : C → Type} {B : D → Type} {α β γ σ τ ε : Type}

/-! ## Monad laws -/

/-- Ending a program with its own result changes nothing. -/
private lemma bind_done (p : Program C A α) : p.bind .done = p := by
  induction p with
  | done a => rfl
  | ask c next ih => exact congrArg (ask c) (funext ih)

/-- Sequences of programs associate. -/
private lemma bind_assoc' (p : Program C A α) (f : α → Program C A β) (g : β → Program C A γ) :
    (p.bind f).bind g = p.bind fun a => (f a).bind g := by
  induction p with
  | done a => rfl
  | ask c next ih => exact congrArg (ask c) (funext ih)

instance : LawfulMonad (Program C A) :=
  LawfulMonad.mk' (Program C A) bind_done (fun _ _ => rfl) bind_assoc'

/-! ## Runs -/

section Run

variable (answer : (c : C) → σ → A c × σ)

@[simp] lemma run_pure (a : α) (s : σ) : run answer (pure a : Program C A α) s = (a, s) := rfl

@[simp] lemma run_call (c : C) (s : σ) : run answer (call c) s = answer c s := rfl

/-- A sequence runs its parts one after the other. -/
@[simp] theorem run_bind (p : Program C A α) (f : α → Program C A β) (s : σ) :
    run answer (p >>= f) s = run answer (f (run answer p s).1) (run answer p s).2 := by
  change run answer (p.bind f) s = _
  induction p generalizing s with
  | done a => rfl
  | ask c next ih => exact ih (answer c s).1 (answer c s).2

/-- **Translation.** Replacing each call by a program is the same as answering each call by running
that program. -/
theorem run_translate (f : (d : D) → Program C A (B d)) (p : Program D B α) (s : σ) :
    run answer (p.translate f) s = run (fun d t => run answer (f d) t) p s := by
  induction p generalizing s with
  | done a => rfl
  | ask d next ih =>
    change run answer (f d >>= fun r => (next r).translate f) s = _
    rw [run_bind, ih]
    rfl

/-- **Views.** If every answer depends only on a view of the state, and the view of the next state
on the same, then a run can be done on the view. -/
theorem run_map_state (view : σ → τ) (answer' : (c : C) → τ → A c × τ)
    (h : ∀ c s, answer' c (view s) = ((answer c s).1, view (answer c s).2))
    (p : Program C A α) (s : σ) :
    run answer' p (view s) = ((run answer p s).1, view (run answer p s).2) := by
  induction p generalizing s with
  | done a => rfl
  | ask c next ih =>
    change run answer' (next (answer' c (view s)).1) (answer' c (view s)).2 = _
    rw [h, ih]
    rfl

/-- What every answer keeps, a run keeps. -/
theorem run_invariant {I : σ → Prop} (h : ∀ c s, I s → I (answer c s).2) (p : Program C A α)
    {s : σ} (hs : I s) : I (run answer p s).2 := by
  induction p generalizing s with
  | done a => exact hs
  | ask c next ih => exact ih _ (h c s hs)

end Run

/-! ## Work that may fail -/

section Exec

variable (answer : (c : C) → σ → A c × σ)

/-- Runs work that may fail: its result, and the system after it. -/
def exec (work : ExceptT ε (Program C A) α) (s : σ) : Except ε α × σ := run answer work.run s

@[simp] lemma exec_pure (a : α) (s : σ) :
    exec answer (pure a : ExceptT ε (Program C A) α) s = (.ok a, s) := rfl

@[simp] lemma exec_throw (e : ε) (s : σ) :
    exec answer (throw e : ExceptT ε (Program C A) α) s = (.error e, s) := rfl

/-- **Sequences of work.** Work goes on after a success and ends at a failure. -/
@[simp] theorem exec_bind (x : ExceptT ε (Program C A) α) (f : α → ExceptT ε (Program C A) β)
    (s : σ) :
    exec answer (x >>= f) s =
      match exec answer x s with
      | (.ok a, t) => exec answer (f a) t
      | (.error e, t) => (.error e, t) := by
  rw [exec, ExceptT.run_bind, run_bind]
  change _ = match run answer x.run s with
    | (.ok a, t) => exec answer (f a) t
    | (.error e, t) => (.error e, t)
  rcases run answer x.run s with ⟨_ | a, t⟩ <;> rfl

variable {answer} {x : ExceptT ε (Program C A) α} {f : α → ExceptT ε (Program C A) β} {s t u : σ}

/-- A sequence succeeds only if both of its parts do. -/
theorem exec_bind_ok {b : β} (h : exec answer (x >>= f) s = (.ok b, u)) :
    ∃ a t, exec answer x s = (.ok a, t) ∧ exec answer (f a) t = (.ok b, u) := by
  rw [exec_bind] at h
  rcases hx : exec answer x s with ⟨_ | a, t⟩
  · simp [hx] at h
  · rw [hx] at h
    exact ⟨a, t, rfl, h⟩

/-- **Traversals.** Where every step keeps `I` and gives what `P` says, a traversal that succeeds
keeps `I` and gives such a result for each element, in order. -/
theorem exec_mapM_ok {g : α → ExceptT ε (Program C A) β} {I : σ → Prop} {P : α → β → Prop}
    (h : ∀ {x s b t}, I s → exec answer (g x) s = (.ok b, t) → I t ∧ P x b) {xs : List α}
    {ys : List β} (hs : I s) (hexec : exec answer (xs.mapM g) s = (.ok ys, t)) :
    I t ∧ List.Forall₂ P xs ys := by
  induction xs generalizing s ys with
  | nil =>
    cases hexec
    exact ⟨hs, .nil⟩
  | cons x xs ih =>
    rw [List.mapM_cons] at hexec
    obtain ⟨b, s₁, hb, hexec⟩ := exec_bind_ok hexec
    obtain ⟨bs, s₂, hbs, hexec⟩ := exec_bind_ok hexec
    cases hexec
    obtain ⟨hs₁, hx⟩ := h hs hb
    obtain ⟨hs₂, hrest⟩ := ih hs₁ hbs
    exact ⟨hs₂, .cons hx hrest⟩

end Exec

end Program

end MonitorSync
