import MonitorSync.Operator.Context
import MonitorSync.Proofs.Effect.Run
set_option autoImplicit false

/-!
# Running passes

Laws of running an `Operator`: work that carries the registry, may fail, and asks an API server and
platforms. Passes over services, groups and sources are taken apart with these.

## Main definitions

* `Operator.exec` — running a pass.

## Main results

* `Operator.exec_bind` — a pass goes on after a success and ends at a failure.
* `Operator.exec_onPlatform` — work on a platform, as a part of a pass, is that work run alone.
* `Operator.exec_request_ok` — a request that succeeds.
-/

namespace MonitorSync

namespace Operator

variable {Client α β σ : Type} (answer : (c : OperatorCall Client) → σ → c.Answer × σ)

/-- Runs a pass: its result and the registry after it, and the systems after it. -/
def exec (pass : Operator Client α) (r : Registry Client) (s : σ) :
    (Except OperatorFailure α × Registry Client) × σ :=
  Program.run answer ((ExceptT.run pass).run r) s

@[simp] lemma exec_pure (a : α) (r : Registry Client) (s : σ) :
    exec answer (pure a : Operator Client α) r s = ((.ok a, r), s) := rfl

@[simp] lemma exec_throw (e : OperatorFailure) (r : Registry Client) (s : σ) :
    exec answer (throw e : Operator Client α) r s = ((.error e, r), s) := rfl

/-- **Sequences.** A pass goes on after a success and ends at a failure. -/
@[simp] theorem exec_bind (x : Operator Client α) (f : α → Operator Client β)
    (r : Registry Client) (s : σ) :
    exec answer (x >>= f) r s =
      match exec answer x r s with
      | ((.ok a, r'), t) => exec answer (f a) r' t
      | ((.error e, r'), t) => ((.error e, r'), t) := by
  change Program.run answer ((ExceptT.run x).run r >>= fun a =>
    (ExceptT.bindCont f a.1).run a.2) s = _
  rw [Program.run_bind]
  change _ = match Program.run answer ((ExceptT.run x).run r) s with
    | ((.ok a, r'), t) => exec answer (f a) r' t
    | ((.error e, r'), t) => ((.error e, r'), t)
  rcases Program.run answer ((ExceptT.run x).run r) s with ⟨⟨_ | a, r'⟩, t⟩ <;> rfl

/-- The registry is there to be read. -/
@[simp] lemma exec_registry (r : Registry Client) (s : σ) :
    exec answer (getThe (Registry Client)) r s = ((.ok r, r), s) := rfl

/-- Work on the systems, as a part of a pass. -/
@[simp] lemma exec_lift (work : OperatorProgram Client α) (r : Registry Client) (s : σ) :
    exec answer (lift work) r s =
      ((.ok (Program.run answer work s).1, r), (Program.run answer work s).2) := by
  change Program.run answer ((work >>= fun a => pure (a, r)) >>= fun a =>
    pure (Except.ok a.1, a.2)) s = _
  simp only [Program.run_bind, Program.run_pure]

@[simp] lemma exec_ofResult_ok (a : α) (r : Registry Client) (s : σ) :
    exec answer (ofResult (.ok a)) r s = ((.ok a, r), s) := rfl

@[simp] lemma exec_ofResult_error (e : Failure) (r : Registry Client) (s : σ) :
    exec answer (ofResult (.error e) : Operator Client α) r s = ((.error (.common e), r), s) := rfl

/-- Work whose failure is a result. -/
@[simp] lemma exec_run (x : Operator Client α) (r : Registry Client) (s : σ) :
    exec answer (ExceptT.lift (ExceptT.run x) : Operator Client _) r s =
      ((.ok (exec answer x r s).1.1, (exec answer x r s).1.2), (exec answer x r s).2) := by
  change Program.run answer ((ExceptT.run x).run r >>= fun a => pure (Except.ok a.1, a.2)) s = _
  rw [Program.run_bind, Program.run_pure]
  rfl

/-- Work whose failure is told in other words. -/
lemma exec_adapt (f : OperatorFailure → OperatorFailure) (work : Operator Client α)
    (r : Registry Client) (s : σ) :
    exec answer (ExceptT.adapt f work) r s =
      (((exec answer work r s).1.1.mapError f, (exec answer work r s).1.2),
        (exec answer work r s).2) := by
  change Program.run answer ((ExceptT.run work).run r >>= fun a =>
    pure (a.1.mapError f, a.2)) s = _
  rw [Program.run_bind]
  rfl

/-- **Work on a platform.** As a part of a pass, it is that work run on the calls to the platform,
and its failure is a result. -/
@[simp] theorem exec_onPlatform (client : Client) (work : Remote α) (r : Registry Client) (s : σ) :
    exec answer (onPlatform client work) r s =
      ((.ok (Program.exec (fun c => answer (.remote client c)) work s).1, r),
        (Program.exec (fun c => answer (.remote client c)) work s).2) := by
  rw [onPlatform, exec_lift, Program.run_translate]
  rfl

/-- **Work on the store.** As a part of a pass, it is that work run on the calls to the store, each
of which is answered from the API server. -/
theorem exec_onStore (work : StoreWork α) (r : Registry Client) (s : σ) :
    exec answer (onStore work) r s =
      (((Program.exec (fun c => Program.run answer (storeCall c)) work s).1.mapError .common, r),
        (Program.exec (fun c => Program.run answer (storeCall c)) work s).2) := by
  rw [onStore, exec_bind, exec_lift, Program.run_translate]
  change exec answer (ofResult (Program.exec _ work s).1) r (Program.exec _ work s).2 = _
  rcases Program.exec (fun c => Program.run answer (storeCall c)) work s with ⟨_ | a, t⟩ <;> rfl

variable {answer} {x : Operator Client α} {f : α → Operator Client β} {r r₂ : Registry Client}
  {s t : σ}

/-- A sequence succeeds only if both of its parts do. -/
theorem exec_bind_ok {b : β} (h : exec answer (x >>= f) r s = ((.ok b, r₂), t)) :
    ∃ a r₁ s₁, exec answer x r s = ((.ok a, r₁), s₁) ∧
      exec answer (f a) r₁ s₁ = ((.ok b, r₂), t) := by
  rw [exec_bind] at h
  rcases hx : exec answer x r s with ⟨⟨_ | a, r₁⟩, s₁⟩
  · simp [hx] at h
  · rw [hx] at h
    exact ⟨a, r₁, s₁, rfl, h⟩

variable (answer) in
/-- A request is answered unless it names an object by the empty name. -/
lemma run_ask (q : ApiRequest) (s : σ) :
    Program.run answer (ask q) s =
      if q.name? = some "" then (.error (.notSent "A non-empty name is required"), s)
      else answer (.api q) s := by
  rw [ask]
  split <;> rfl

/-- A request that succeeds was answered, and leaves the registry alone. -/
theorem exec_request_ok {q : ApiRequest} {reply : q.Reply}
    (h : exec answer (request q) r s = ((.ok reply, r₂), t)) :
    r₂ = r ∧ answer (.api q) s = (.ok reply, t) := by
  rw [request, exec_bind, exec_lift, run_ask] at h
  by_cases hname : q.name? = some ""
  · rw [if_pos hname] at h
    cases h
  · rw [if_neg hname] at h
    rcases ha : answer (.api q) s with ⟨_ | reply', t'⟩
    · rw [ha] at h
      cases h
    · rw [ha] at h
      cases h
      exact ⟨rfl, rfl⟩

end Operator

end MonitorSync
