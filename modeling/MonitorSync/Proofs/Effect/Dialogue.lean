import MonitorSync.Proofs.Effect.Trace
set_option autoImplicit false

/-!
# Dialogues

What a program may ask and be told, whoever answers it. A fact about all dialogues of a program is
one about its runs against every system, and is proved without a word about the system's state.

## Main definitions

* `Program.Says` — the exchanges that a program may have, with its result.

## Main results

* `Program.Says.of_bind` — a dialogue of a sequence is one of each part after the other.
* `Program.says_trace` — what a run asked and was told is a dialogue of the program.
-/

namespace MonitorSync

namespace Program

variable {C : Type} {A : C → Type} {α β σ : Type}

/-- A program may have the exchanges `es` with someone, and gives `a` in the end. -/
inductive Says : Program C A α → List (Exchange A) → α → Prop
  | done (a : α) : Says (.done a) [] a
  | ask {c : C} {next : A c → Program C A α} {es : List (Exchange A)} {a : α} (reply : A c)
    (rest : Says (next reply) es a) : Says (.ask c next) (⟨c, reply⟩ :: es) a

/-- A result is given without a question. -/
lemma Says.of_pure {a b : α} {es : List (Exchange A)}
    (h : Says (pure a : Program C A α) es b) : es = [] ∧ b = a := by
  cases h
  exact ⟨rfl, rfl⟩

/-- A call is one exchange. -/
lemma Says.of_call {c : C} {es : List (Exchange A)} {reply : A c} (h : (call c).Says es reply) :
    es = [⟨c, reply⟩] := by
  cases h with
  | ask reply rest =>
    cases rest
    rfl

/-- **Sequences.** A dialogue of a sequence is one of its first part, and then one of its second. -/
theorem Says.of_bind {p : Program C A α} {f : α → Program C A β} {es : List (Exchange A)} {b : β}
    (h : (p >>= f).Says es b) :
    ∃ es₁ es₂ a, es = es₁ ++ es₂ ∧ p.Says es₁ a ∧ (f a).Says es₂ b := by
  change (p.bind f).Says es b at h
  induction p generalizing es with
  | done a => exact ⟨[], es, a, rfl, .done a, h⟩
  | ask c next ih =>
    cases h with
    | ask reply rest =>
      obtain ⟨es₁, es₂, a, rfl, hp, hf⟩ := ih reply rest
      exact ⟨_ :: es₁, es₂, a, rfl, .ask reply hp, hf⟩

/-- A dialogue of the first part of a sequence goes on with one of the second. -/
lemma Says.bind {p : Program C A α} {f : α → Program C A β} {es fs : List (Exchange A)} {a : α}
    {b : β} (hp : p.Says es a) (hf : (f a).Says fs b) : (p >>= f).Says (es ++ fs) b := by
  induction hp with
  | done a => exact hf
  | ask reply _ ih => exact .ask reply (ih hf)

/-- **Runs.** What a run asked and was told is a dialogue of the program. -/
theorem says_trace (answer : (c : C) → σ → A c × σ) (p : Program C A α) (s : σ) :
    p.Says (trace answer p s) (run answer p s).1 := by
  induction p generalizing s with
  | done a => exact .done a
  | ask c next ih => exact .ask (answer c s).1 (ih (answer c s).1 (answer c s).2)

end Program

end MonitorSync
