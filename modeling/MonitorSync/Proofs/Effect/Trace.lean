import MonitorSync.Proofs.Effect.Run
set_option autoImplicit false

/-!
# Traces

What a run asked and what it was told, in order. A system may answer as it likes: its answers are
those of any function of the call and of a state that it keeps.

## Main definitions

* `Exchange` — a call with its answer.
* `Program.exchanges` — the exchanges of work that may fail.

## Main results

* `Program.exchanges_bind` — the exchanges of a sequence are those of its parts.
-/

namespace MonitorSync

/-- A call with its answer. -/
structure Exchange {C : Type} (A : C → Type) where
  call : C
  answer : A call

namespace Program

variable {C : Type} {A : C → Type} {α β σ ε : Type}

section Trace

variable (answer : (c : C) → σ → A c × σ)

/-- The calls of a run with their answers, in order. -/
def trace : Program C A α → σ → List (Exchange A)
  | .done _, _ => []
  | .ask c next, s =>
    let r := answer c s
    ⟨c, r.1⟩ :: (next r.1).trace r.2

/-- A sequence makes the calls of its first part, and then those of its second. -/
theorem trace_bind (p : Program C A α) (f : α → Program C A β) (s : σ) :
    trace answer (p >>= f) s =
      trace answer p s ++ trace answer (f (run answer p s).1) (run answer p s).2 := by
  change trace answer (p.bind f) s = _
  induction p generalizing s with
  | done a => rfl
  | ask c next ih => exact congrArg (List.cons _) (ih (answer c s).1 (answer c s).2)

/-- Replacing calls by programs makes the calls of these programs. -/
theorem mem_trace_translate {D : Type} {B : D → Type} (f : (d : D) → Program C A (B d))
    (p : Program D B α) {s : σ} {e : Exchange A} (h : e ∈ trace answer (p.translate f) s) :
    ∃ d t, e ∈ trace answer (f d) t := by
  induction p generalizing s with
  | done a => cases h
  | ask d next ih =>
    change e ∈ trace answer (f d >>= fun r => (next r).translate f) s at h
    rw [trace_bind] at h
    rcases List.mem_append.1 h with h | h
    · exact ⟨d, s, h⟩
    · exact ih _ h

/-- The calls of work that may fail, with their answers. -/
def exchanges (work : ExceptT ε (Program C A) α) (s : σ) : List (Exchange A) :=
  trace answer work.run s

@[simp] lemma exchanges_pure (a : α) (s : σ) :
    exchanges answer (pure a : ExceptT ε (Program C A) α) s = [] := rfl

/-- **Sequences of work.** A sequence makes the calls of its second part only if the first one
succeeds. -/
theorem exchanges_bind (x : ExceptT ε (Program C A) α) (f : α → ExceptT ε (Program C A) β) (s : σ) :
    exchanges answer (x >>= f) s =
      exchanges answer x s ++
        match exec answer x s with
        | (.ok a, t) => exchanges answer (f a) t
        | (.error _, _) => [] := by
  rw [exchanges, ExceptT.run_bind, trace_bind]
  change _ ++ trace answer _ (run answer x.run s).2 = exchanges answer x s ++
    match run answer x.run s with
    | (.ok a, t) => exchanges answer (f a) t
    | (.error _, _) => []
  rcases run answer x.run s with ⟨_ | a, t⟩ <;> rfl

end Trace

end Program

end MonitorSync
