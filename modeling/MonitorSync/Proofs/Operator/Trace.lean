import MonitorSync.Proofs.Effect.Trace
import MonitorSync.Proofs.Operator.Requests
set_option autoImplicit false

/-!
# Traces of passes

What a pass asked and what it was told, in order, whatever system answers it.

## Main definitions

* `Operator.exchanges` — the calls of a pass with their answers.
* `OperatorExchange.applied?`, `OperatorExchange.deleted?` — the key of what a call applies or
  deletes.

## Main results

* `Operator.exchanges_bind` — a sequence makes the calls of its second part only if the first one
  succeeds.
* `Operator.mem_exchanges_forM`, `Operator.exchanges_subset_of_forM_ok` — the calls of a loop are
  those of its steps, and all of its steps are taken if it succeeds.
* `Operator.harmless_of_mem_onStore` — work on the store only reads.
-/

namespace MonitorSync

variable {Client α β σ : Type}

/-- A call of a pass with its answer. -/
abbrev OperatorExchange (Client : Type) : Type := Exchange (@OperatorCall.Answer Client)

namespace OperatorExchange

/-- The key of what a call applies. -/
def applied? (e : OperatorExchange Client) : Option ChildKey :=
  match e.call with
  | .api q => q.applied?
  | .remote .. => none

/-- The key of what a call deletes. -/
def deleted? (e : OperatorExchange Client) : Option ChildKey :=
  match e.call with
  | .api q => q.deleted?
  | .remote .. => none

/-- A call succeeded. -/
def Succeeded : OperatorExchange Client → Prop
  | ⟨.api _, a⟩ => ∃ reply, a = .ok reply
  | ⟨.remote _ _, a⟩ => ∃ reply, a = .ok reply

/-- A call neither applies nor deletes anything. -/
def Harmless (e : OperatorExchange Client) : Prop := e.applied? = none ∧ e.deleted? = none

end OperatorExchange

namespace Operator

variable (answer : (c : OperatorCall Client) → σ → c.Answer × σ)

/-- The calls of a pass with their answers, in order. -/
def exchanges (pass : Operator Client α) (r : Registry Client) (s : σ) :
    List (OperatorExchange Client) :=
  Program.trace answer ((ExceptT.run pass).run r) s

@[simp] lemma exchanges_pure (a : α) (r : Registry Client) (s : σ) :
    exchanges answer (pure a : Operator Client α) r s = [] := rfl

@[simp] lemma exchanges_throw (e : OperatorFailure) (r : Registry Client) (s : σ) :
    exchanges answer (throw e : Operator Client α) r s = [] := rfl

/-- **Sequences.** A sequence makes the calls of its second part only if the first one succeeds. -/
theorem exchanges_bind (x : Operator Client α) (f : α → Operator Client β) (r : Registry Client)
    (s : σ) :
    exchanges answer (x >>= f) r s =
      exchanges answer x r s ++
        match exec answer x r s with
        | ((.ok a, r'), t) => exchanges answer (f a) r' t
        | ((.error _, _), _) => [] := by
  change Program.trace answer ((ExceptT.run x).run r >>= fun a =>
    (ExceptT.bindCont f a.1).run a.2) s = _
  rw [Program.trace_bind]
  change _ ++ Program.trace answer _ (Program.run answer ((ExceptT.run x).run r) s).2 =
    exchanges answer x r s ++
      match Program.run answer ((ExceptT.run x).run r) s with
      | ((.ok a, r'), t) => exchanges answer (f a) r' t
      | ((.error _, _), _) => []
  rcases Program.run answer ((ExceptT.run x).run r) s with ⟨⟨_ | a, r'⟩, t⟩ <;> rfl

/-- Giving a result makes no call. -/
lemma exchanges_bind_pure (x : Operator Client α) (b : β) (r : Registry Client) (s : σ) :
    exchanges answer (x >>= fun _ => pure b) r s = exchanges answer x r s := by
  rw [exchanges_bind]
  rcases exec answer x r s with ⟨⟨_ | a, r'⟩, t⟩ <;> exact List.append_nil _

/-- Work on the systems, as a part of a pass. -/
@[simp] lemma exchanges_lift (work : OperatorProgram Client α) (r : Registry Client) (s : σ) :
    exchanges answer (lift work) r s = Program.trace answer work s := by
  change Program.trace answer ((work >>= fun a => pure (a, r)) >>= fun a =>
    pure (Except.ok a.1, a.2)) s = _
  rw [Program.trace_bind, Program.trace_bind]
  change (_ ++ []) ++ [] = _
  rw [List.append_nil, List.append_nil]

/-- A request is made unless it names an object by the empty name. -/
lemma trace_ask (q : ApiRequest) (s : σ) :
    Program.trace answer (ask q) s =
      if q.name? = some "" then [] else [⟨.api q, (answer (.api q) s).1⟩] := by
  rw [ask]
  split <;> rfl

/-- A request makes no other call. -/
lemma eq_of_mem_trace_ask {answer : (c : OperatorCall Client) → σ → c.Answer × σ} {q : ApiRequest}
    {s : σ} {e : OperatorExchange Client} (h : e ∈ Program.trace answer (ask q) s) :
    e = ⟨.api q, (answer (.api q) s).1⟩ := by
  rw [trace_ask] at h
  split at h
  · cases h
  · exact List.mem_singleton.1 h

/-- The call of a request, as a part of a pass. -/
lemma exchanges_request (q : ApiRequest) (r : Registry Client) (s : σ) :
    exchanges answer (request q) r s = Program.trace answer (ask q) s := by
  rw [request, exchanges_bind, exchanges_lift, exec_lift]
  rcases (Program.run answer (ask q) s).1 with fault | reply <;> exact List.append_nil _

/-! ## Loops -/

section Loops

variable {answer} {f : β → Operator Client Unit} {xs : List β} {r r' : Registry Client} {s t : σ}

/-- Every call of a loop is one of a step. -/
theorem mem_exchanges_forM {e : OperatorExchange Client}
    (h : e ∈ exchanges answer (xs.forM f) r s) :
    ∃ x ∈ xs, ∃ r' t, e ∈ exchanges answer (f x) r' t := by
  induction xs generalizing r s with
  | nil => cases h
  | cons x xs ih =>
    change e ∈ exchanges answer (f x >>= fun _ => xs.forM f) r s at h
    rw [exchanges_bind] at h
    rcases List.mem_append.1 h with h | h
    · exact ⟨x, List.mem_cons_self, r, s, h⟩
    · split at h
      · obtain ⟨y, hy, hcall⟩ := ih h
        exact ⟨y, List.mem_cons_of_mem _ hy, hcall⟩
      · cases h

/-- **Loops that succeed.** Every step of such a loop is taken, and succeeds. -/
theorem exchanges_subset_of_forM_ok (h : exec answer (xs.forM f) r s = ((.ok (), r'), t)) :
    ∀ x ∈ xs, ∃ r₁ r₂ s₁ s₂, exec answer (f x) r₁ s₁ = ((.ok (), r₂), s₂) ∧
      exchanges answer (f x) r₁ s₁ ⊆ exchanges answer (xs.forM f) r s := by
  induction xs generalizing r s with
  | nil =>
    intro x hx
    cases hx
  | cons y ys ih =>
    change exec answer (f y >>= fun _ => ys.forM f) r s = _ at h
    obtain ⟨a, r₁, s₁, hy, hys⟩ := exec_bind_ok h
    have hcalls : exchanges answer ((y :: ys).forM f) r s =
        exchanges answer (f y) r s ++ exchanges answer (ys.forM f) r₁ s₁ := by
      change exchanges answer (f y >>= fun _ => ys.forM f) r s = _
      rw [exchanges_bind, hy]
    intro x hx
    rw [hcalls]
    rcases List.mem_cons.1 hx with rfl | hx
    · exact ⟨r, r₁, s, s₁, hy, List.subset_append_left _ _⟩
    · obtain ⟨r₂, r₃, s₂, s₃, hstep, hsub⟩ := ih hys x hx
      exact ⟨r₂, r₃, s₂, s₃, hstep, fun e he => List.mem_append_right _ (hsub he)⟩

end Loops

/-! ## Reading -/

/-- A call to the store only reads. -/
private lemma harmless_of_mem_storeCall (q : StoreCall) {s : σ} {e : OperatorExchange Client}
    (h : e ∈ Program.trace answer (storeCall q) s) : e.Harmless := by
  have hask (r : ApiRequest) (hr : r.applied? = none ∧ r.deleted? = none) (t : σ)
      (h : e ∈ Program.trace answer (ask r) t) : e.Harmless := by
    obtain rfl := eq_of_mem_trace_ask h
    exact hr
  have hoptional (t : ObjectType) (ns name : String) (u : σ)
      (h : e ∈ Program.trace answer (askOptional t ns name) u) : e.Harmless := by
    rw [askOptional, Program.trace_bind] at h
    rcases List.mem_append.1 h with h | h
    · exact hask _ ⟨rfl, rfl⟩ u h
    · revert h
      rcases (Program.run answer (ask (.get t ns name)) u).1 with fault | o <;>
        intro h <;> cases h
  cases q with
  | getTemplate ns name =>
    rw [storeCall, Program.trace_bind] at h
    rcases List.mem_append.1 h with h | h
    · exact hoptional _ _ _ _ h
    · revert h
      rcases (Program.run answer (askOptional _ ns name) s).1 with fault | (_ | v) <;>
        intro h <;> cases h
  | getChild k ns name =>
    rw [storeCall, Program.trace_bind] at h
    rcases List.mem_append.1 h with h | h
    · exact hoptional _ _ _ _ h
    · revert h
      rcases (Program.run answer (askOptional _ ns name) s).1 with fault | (_ | v) <;>
        intro h <;> cases h
  | listChildren k selector =>
    rw [storeCall, Program.trace_bind] at h
    rcases List.mem_append.1 h with h | h
    · exact hask _ ⟨rfl, rfl⟩ s h
    · revert h
      rcases (Program.run answer (ask (.list k.type selector)) s).1 with fault | items <;>
        intro h <;> cases h

/-- **Reading.** Work on the store applies and deletes nothing. -/
theorem harmless_of_mem_onStore {work : StoreWork α} {r : Registry Client} {s : σ}
    {e : OperatorExchange Client} (h : e ∈ exchanges answer (onStore work) r s) : e.Harmless := by
  rw [onStore, exchanges_bind, exchanges_lift, exec_lift] at h
  rcases List.mem_append.1 h with h | h
  · obtain ⟨q, t, hq⟩ := Program.mem_trace_translate answer storeCall _ h
    exact harmless_of_mem_storeCall answer q hq
  · revert h
    rcases (Program.run answer _ s).1 with e | a <;> intro h <;> cases h

end Operator

end MonitorSync
