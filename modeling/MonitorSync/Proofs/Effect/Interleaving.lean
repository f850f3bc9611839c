import MonitorSync.Proofs.Effect.Run
set_option autoImplicit false

/-!
# Interleaved programs

Two programs may run at the same time on one system, each waiting for the answers to its own calls.
If the calls of each leave alone what those of the other one depend on, then neither notices the
other.

## Main definitions

* `Program.Interleaving` — two programs ran on one system, their calls in some order.
* `Program.Within`, `Program.WorkWithin` — a program makes only calls that are allowed, if it is
  told the truth.

## Main results

* `Program.Interleaving.sequence` — one program after the other is an interleaving.
* `Program.Within.bind` — a sequence stays within what its parts stay within.
* `Program.Interleaving.eq_run_left` — a program that shares nothing with another one runs as if it
  were alone.
-/

namespace MonitorSync

namespace Program

variable {C : Type} {A : C → Type} {α β ε σ : Type}

/-! ## Interleavings -/

/-- Two programs ran on one system, their calls in some order: their results, and the system after
them. -/
inductive Interleaving (answer : (c : C) → σ → A c × σ) :
    Program C A α → Program C A β → σ → α → β → σ → Prop where
  | done (a : α) (b : β) (s : σ) : Interleaving answer (.done a) (.done b) s a b s
  | left {c : C} {next : A c → Program C A α} {q : Program C A β} {s t : σ} {a : α} {b : β}
      (h : Interleaving answer (next (answer c s).1) q (answer c s).2 a b t) :
      Interleaving answer (.ask c next) q s a b t
  | right {c : C} {next : A c → Program C A β} {p : Program C A α} {s t : σ} {a : α} {b : β}
      (h : Interleaving answer p (next (answer c s).1) (answer c s).2 a b t) :
      Interleaving answer p (.ask c next) s a b t

namespace Interleaving

variable {answer : (c : C) → σ → A c × σ} {p : Program C A α} {q : Program C A β} {s t : σ}
  {a : α} {b : β}

/-- Neither of two programs is the first. -/
theorem symm (h : Interleaving answer p q s a b t) : Interleaving answer q p s b a t := by
  induction h with
  | done a b s => exact .done b a s
  | left _ ih => exact .right ih
  | right _ ih => exact .left ih

/-- One program after the other is an interleaving. -/
theorem sequence (answer : (c : C) → σ → A c × σ) (p : Program C A α) (q : Program C A β) (s : σ) :
    Interleaving answer p q s (run answer p s).1 (run answer q (run answer p s).2).1
      (run answer q (run answer p s).2).2 := by
  induction p generalizing s with
  | done a =>
    induction q generalizing s with
    | done b => exact .done a b s
    | ask c next ih => exact .right (ih _ _)
  | ask c next ih => exact .left (ih _ _)

end Interleaving

/-! ## Allowed calls -/

/-- A program makes only calls that are allowed and gives what `post` says, if the answers that it
is told are honest. -/
def Within (allowed : C → Prop) (honest : (c : C) → A c → Prop) (post : α → Prop) :
    Program C A α → Prop
  | .done a => post a
  | .ask c next => allowed c ∧ ∀ r, honest c r → (next r).Within allowed honest post

section Within

variable {allowed : C → Prop} {honest : (c : C) → A c → Prop}

theorem Within.call {c : C} (h : allowed c) : (Program.call c : Program C A (A c)).Within allowed
    honest (honest c) := ⟨h, fun _ hr => hr⟩

theorem Within.mono {post post' : α → Prop} {p : Program C A α}
    (h : p.Within allowed honest post) (hpost : ∀ a, post a → post' a) :
    p.Within allowed honest post' := by
  induction p with
  | done a => exact hpost a h
  | ask c next ih => exact ⟨h.1, fun r hr => ih r (h.2 r hr)⟩

/-- A sequence stays within what its parts stay within. -/
theorem Within.bind {mid : α → Prop} {post : β → Prop} {p : Program C A α}
    {f : α → Program C A β} (hp : p.Within allowed honest mid)
    (hf : ∀ a, mid a → (f a).Within allowed honest post) :
    (p >>= f).Within allowed honest post := by
  change (p.bind f).Within allowed honest post
  induction p with
  | done a => exact hf a hp
  | ask c next ih => exact ⟨hp.1, fun r hr => ih r (hp.2 r hr)⟩

/-- Work that may fail makes only allowed calls, and gives what `post` says if it succeeds. -/
def WorkWithin (allowed : C → Prop) (honest : (c : C) → A c → Prop) (post : α → Prop)
    (work : ExceptT ε (Program C A) α) : Prop :=
  work.run.Within allowed honest fun r => ∀ a, r = .ok a → post a

theorem WorkWithin.pure {post : α → Prop} {a : α} (h : post a) :
    WorkWithin allowed honest post (Pure.pure a : ExceptT ε (Program C A) α) := by
  rintro _ ⟨⟩
  exact h

/-- Work goes on after a success with what the first part gave. -/
theorem WorkWithin.bind {mid : α → Prop} {post : β → Prop} {x : ExceptT ε (Program C A) α}
    {f : α → ExceptT ε (Program C A) β} (hx : WorkWithin allowed honest mid x)
    (hf : ∀ a, mid a → WorkWithin allowed honest post (f a)) :
    WorkWithin allowed honest post (x >>= f) := by
  rw [WorkWithin, ExceptT.run_bind]
  refine Within.bind hx fun r hr => ?_
  rcases r with e | a
  · rintro _ ⟨⟩
  · exact hf a (hr a rfl)

end Within

/-! ## Programs that share nothing -/

namespace Interleaving

variable {answer : (c : C) → σ → A c × σ} {allowed allowed' : C → Prop}
  {honest : (c : C) → A c → Prop} {post : α → Prop} {post' : β → Prop} {p : Program C A α}
  {q : Program C A β} {s t u : σ} {a : α} {b : β}

/-- What the allowed calls of two programs keep, an interleaving keeps. -/
theorem invariant {I : σ → Prop} (hhonest : ∀ c s, honest c (answer c s).1)
    (hleft : ∀ c s, allowed c → I s → I (answer c s).2)
    (hright : ∀ c s, allowed' c → I s → I (answer c s).2)
    (hp : p.Within allowed honest post) (hq : q.Within allowed' honest post')
    (h : Interleaving answer p q s a b t) (hs : I s) : I t := by
  induction h with
  | done a b s => exact hs
  | left _ ih => exact ih (hp.2 _ (hhonest _ _)) hq (hleft _ _ hp.1 hs)
  | right _ ih => exact ih hp (hq.2 _ (hhonest _ _)) (hright _ _ hq.1 hs)

/-- **Running as if alone.** Take two states to agree if they look the same to the calls that a
program is allowed. If the calls of another program keep states in agreement, then in any
interleaving the program gives what it gives alone, and leaves the system as it leaves it alone, as
far as it looks to these calls.

**Proof sketch.** Induction on the interleaving, next to a run of the one program alone: its own
calls are made in both and are answered alike, and those of the other one change nothing that it
sees. -/
theorem eq_run_left (agree : σ → σ → Prop) (hhonest : ∀ c s, honest c (answer c s).1)
    (hown : ∀ c s u, allowed c → agree s u →
      (answer c s).1 = (answer c u).1 ∧ agree (answer c s).2 (answer c u).2)
    (hother : ∀ c s u, allowed' c → agree s u → agree (answer c s).2 u)
    (hp : p.Within allowed honest post) (hq : q.Within allowed' honest post')
    (h : Interleaving answer p q s a b t) (hu : agree s u) :
    a = (run answer p u).1 ∧ agree t (run answer p u).2 := by
  induction h generalizing u with
  | done a b s => exact ⟨rfl, hu⟩
  | @left c next q s t a b _ ih =>
    obtain ⟨hreply, hagree⟩ := hown c s u hp.1 hu
    have hrest := ih (hp.2 _ (hhonest c s)) hq hagree
    rw [hreply] at hrest
    exact hrest
  | right _ ih => exact ih hp (hq.2 _ (hhonest _ _)) (hother _ _ _ hq.1 hu)

end Interleaving

end Program

end MonitorSync
