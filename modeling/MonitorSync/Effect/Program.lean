set_option autoImplicit false

/-!
# Programs that ask questions

Work on another system is a sequence of calls in which each call may depend on the answers to the
calls before it. Such work is data here, so that it can be run against any system, in steps, or
with failing calls.

## Main definitions

* `Program` — a result, or a call and what to do with its answer
* `Program.run` — running against a system that answers calls and changes its state
* `Program.translate` — replacing each call by a program of other calls
-/

namespace MonitorSync

/-- A computation that makes calls of type `C`, where the call `c` is answered by an `A c`. -/
inductive Program (C : Type) (A : C → Type) (α : Type) where
  | done (value : α)
  | ask (call : C) (next : A call → Program C A α)

namespace Program

variable {C D : Type} {A : C → Type} {B : D → Type} {α β σ : Type}

/-- Continues a computation with its result. -/
def bind : Program C A α → (α → Program C A β) → Program C A β
  | .done a, f => f a
  | .ask c next, f => .ask c fun r => (next r).bind f

instance : Monad (Program C A) where
  pure := .done
  bind := Program.bind

/-- A single call. -/
def call (c : C) : Program C A (A c) := .ask c .done

/-- Runs a computation against a system with states `σ`. -/
def run (answer : (c : C) → σ → A c × σ) : Program C A α → σ → α × σ
  | .done a, s => (a, s)
  | .ask c next, s =>
    let r := answer c s
    (next r.1).run answer r.2

/-- Replaces each call by a program of other calls. -/
def translate (f : (c : C) → Program D B (A c)) : Program C A α → Program D B α
  | .done a => .done a
  | .ask c next => (f c).bind fun r => (next r).translate f

end Program

end MonitorSync
