import MonitorSync.Proofs.Effect.Interleaving
set_option autoImplicit false

/-!
# Programs on two systems

A program notices only what the calls that it makes are answered. On two systems that answer these
calls alike it does the same.

## Main definitions

* `Program.Alike` — two systems answer some calls alike.

## Main results

* `Program.WorkWithin.mapM` — a traversal stays within what its steps stay within.
* `Program.Within.run_eq_of_alike` — a program that makes only calls that two systems answer alike
  gives the same on both.
-/

namespace MonitorSync

namespace Program

variable {C : Type} {A : C → Type} {α β ε σ τ : Type}

/-- Two systems answer the allowed calls alike in states that agree, and go on to states that
agree. -/
def Alike (allowed : C → Prop) (agree : σ → τ → Prop) (answer : (c : C) → σ → A c × σ)
    (answer' : (c : C) → τ → A c × τ) : Prop :=
  ∀ c s u, allowed c → agree s u →
    (answer c s).1 = (answer' c u).1 ∧ agree (answer c s).2 (answer' c u).2

section Within

variable {allowed : C → Prop} {honest : (c : C) → A c → Prop} {post : α → Prop}

/-- A traversal makes only allowed calls if each of its steps does. -/
theorem WorkWithin.mapM {f : β → ExceptT ε (Program C A) α} {xs : List β}
    (h : ∀ x ∈ xs, WorkWithin allowed honest (fun _ => True) (f x)) :
    WorkWithin allowed honest (fun _ => True) (xs.mapM f) := by
  induction xs with
  | nil => exact .pure trivial
  | cons x xs ih =>
    obtain ⟨hx, hxs⟩ := List.forall_mem_cons.1 h
    rw [List.mapM_cons]
    exact hx.bind fun b _ => (ih hxs).bind fun bs _ => .pure trivial

variable {agree : σ → τ → Prop} {answer : (c : C) → σ → A c × σ}
  {answer' : (c : C) → τ → A c × τ} {p : Program C A α} {s : σ} {u : τ}

/-- **Running alike.** A program that makes only calls that two systems answer alike gives the same
result on both, and leaves them in states that agree.

**Proof sketch.** Induction on the program: the next call is allowed, so its answers are equal and
the program goes on in the same way on both. -/
theorem Within.run_eq_of_alike (halike : Alike allowed agree answer answer')
    (hp : p.Within allowed (fun _ _ => True) post) (hs : agree s u) :
    (run answer p s).1 = (run answer' p u).1 ∧ agree (run answer p s).2 (run answer' p u).2 := by
  induction p generalizing s u with
  | done a => exact ⟨rfl, hs⟩
  | ask c next ih =>
    obtain ⟨hreply, hagree⟩ := halike c s u hp.1 hs
    have hrest := ih (answer c s).1 (hp.2 _ trivial) hagree
    rw [run, run, ← hreply]
    exact hrest

end Within

end Program

end MonitorSync
