import MonitorSync.Proofs.Operator.Run
set_option autoImplicit false

/-!
# What a pass keeps

A pass is a sequence of requests with loops over children. What holds after each part of it, whether
it succeeds or not, is stated by triples.

## Main definitions

* `Operator.Triple` — what holds after a part of a pass, given what held before.

## Main results

* `Operator.Triple.bind`, `Operator.Triple.forM` — triples of sequences and of loops.
* `Operator.Triple.ask`, `Operator.Triple.request` — triples of requests.
-/

namespace MonitorSync

namespace Operator

variable {Client α β σ : Type} {answer : (c : OperatorCall Client) → σ → c.Answer × σ}

/-- From systems as in `pre`, work that succeeds leaves them as in `post`, and work that fails
leaves them as in `fails`. -/
structure Triple (answer : (c : OperatorCall Client) → σ → c.Answer × σ) (pre : σ → Prop)
    (work : Operator Client α) (post : α → σ → Prop) (fails : σ → Prop) : Prop where
  ok {r r' : Registry Client} {s t : σ} {a : α} (hs : pre s)
    (h : exec answer work r s = ((.ok a, r'), t)) : post a t
  error {r r' : Registry Client} {s t : σ} {e : OperatorFailure} (hs : pre s)
    (h : exec answer work r s = ((.error e, r'), t)) : fails t

namespace Triple

variable {pre fails : σ → Prop} {post : α → σ → Prop}

theorem pure {a : α} (h : ∀ s, pre s → post a s) :
    Triple answer pre (Pure.pure a) post fails := by
  refine ⟨fun hs hexec => ?_, fun _ hexec => ?_⟩
  · cases hexec
    exact h _ hs
  · cases hexec

theorem throw {e : OperatorFailure} (h : ∀ s, pre s → fails s) :
    Triple answer pre (MonadExcept.throw e : Operator Client α) post fails := by
  refine ⟨fun _ hexec => ?_, fun hs hexec => ?_⟩
  · cases hexec
  · cases hexec
    exact h _ hs

/-- **Sequences.** What holds after the first part holds before the second. -/
theorem bind {mid : β → σ → Prop} {x : Operator Client β} {f : β → Operator Client α}
    (hx : Triple answer pre x mid fails) (hf : ∀ b, Triple answer (mid b) (f b) post fails) :
    Triple answer pre (x >>= f) post fails := by
  refine ⟨fun {r r' s t a} hs h => ?_, fun {r r' s t e} hs h => ?_⟩
  · obtain ⟨b, r₁, s₁, hb, ha⟩ := exec_bind_ok h
    exact (hf b).ok (hx.ok hs hb) ha
  · rw [exec_bind] at h
    rcases hb : exec answer x r s with ⟨⟨e' | b, r₁⟩, s₁⟩
    · rw [hb] at h
      cases h
      exact hx.error hs hb
    · rw [hb] at h
      exact (hf b).error (hx.ok hs hb) h

/-- **Loops.** What holds of the elements done so far holds of all in the end.

**Proof sketch.** Induction on the elements to come, for any that were done before. -/
theorem forM (inv : List β → σ → Prop) {xs : List β} {f : β → Operator Client Unit}
    (h : ∀ done x, x ∈ xs →
      Triple answer (inv done) (f x) (fun _ => inv (done ++ [x])) fails) :
    Triple answer (inv []) (xs.forM f) (fun _ => inv xs) fails := by
  suffices hall : ∀ done rest, (∀ x ∈ rest, x ∈ xs) →
      Triple answer (inv done) (rest.forM f) (fun _ => inv (done ++ rest)) fails from
    hall [] xs fun _ hx => hx
  intro done rest
  induction rest generalizing done with
  | nil =>
    intro _
    rw [List.append_nil]
    exact .pure fun _ hs => hs
  | cons x rest ih =>
    intro hrest
    have hx := h done x (hrest x List.mem_cons_self)
    refine hx.bind fun _ => ?_
    have hih := ih (done ++ [x]) fun y hy => hrest y (List.mem_cons_of_mem _ hy)
    rwa [List.append_assoc] at hih

/-- A request has the triple that its answers have. -/
theorem ask {q : ApiRequest} {post : q.Answer → σ → Prop}
    (hnamed : ∀ s, pre s → q.name? = some "" →
      post (.error (.notSent "A non-empty name is required")) s)
    (hanswer : ∀ s, pre s → post (answer (.api q) s).1 (answer (.api q) s).2) :
    Triple answer pre (lift (Operator.ask q)) post fails := by
  refine ⟨fun {r r' s t a} hs h => ?_, fun {r r' s t e} hs h => ?_⟩
  · rw [exec_lift, run_ask] at h
    by_cases hname : q.name? = some ""
    · rw [if_pos hname] at h
      cases h
      exact hnamed _ hs hname
    · rw [if_neg hname] at h
      cases h
      exact hanswer _ hs
  · rw [exec_lift] at h
    cases h

/-- A request, as a part of a pass, fails where its answer does. -/
theorem request {q : ApiRequest} {post : q.Reply → σ → Prop}
    (hnamed : ∀ s, pre s → q.name? = some "" → fails s)
    (hok : ∀ s reply, pre s → (answer (.api q) s).1 = .ok reply → post reply (answer (.api q) s).2)
    (hfault : ∀ s fault, pre s → (answer (.api q) s).1 = .error fault →
      fails (answer (.api q) s).2) :
    Triple answer pre (Operator.request q) post fails := by
  have hask : Triple answer pre (lift (Operator.ask q)) (fun a s =>
      (∀ reply, a = .ok reply → post reply s) ∧ ∀ fault, a = .error fault → fails s) fails := by
    refine ask (fun s hs hname => ?_) fun s hs => ?_
    · refine ⟨fun reply h => ?_, fun _ _ => hnamed s hs hname⟩
      cases h
    · exact ⟨fun reply => hok s reply hs, fun fault => hfault s fault hs⟩
  refine hask.bind fun a => ?_
  rcases a with fault | reply
  · exact throw fun _ hs => hs.2 fault rfl
  · exact pure fun _ hs => hs.1 reply rfl

end Triple

end Operator

end MonitorSync
