import MonitorSync.Proofs.Child.Resolve
import MonitorSync.Proofs.Operator.Triple
set_option autoImplicit false

/-!
# Steps of a pass over a source

A pass over a source looks for its children, applies the expected ones one by one, and then deletes
the orphans. What one step makes of a server is left open here, so that the same steps are taken on
any kind of server.

## Main definitions

* `SourceObject.IsActive` — a pass over the source looks at its children.
* `SourceObject.bringInLine` — what a pass does once it knows the children.

## Main results

* `triple_applyExpected`, `triple_deleteOrphan` — one step of a pass, by what its request does.
* `SourceObject.triple_bringInLine` — all steps of a pass, by what one does.
* `SourceObject.exec_reconcile` — a pass fails in looking for children, or goes on with those found.
-/

namespace MonitorSync

variable {Client σ : Type} {answer : (c : OperatorCall Client) → σ → c.Answer × σ}

/-! ## One step -/

section Step

variable {pre post fails : σ → Prop} {child : ClusterObject} {k : ChildKind} {ns name : String}
  {owner : Option OwnerReference} {s : SourceObject} {p : Placeholders}
  {current : List ClusterObject}

/-- Applying a child is one request. -/
private lemma triple_applyChild (hkey : child.childKey = k.key ns name)
    (happly : Operator.Triple answer pre (Operator.request
      (.apply k.type ns name operatorName true (child.toApply owner).toJson)) (fun _ => post) fails)
    (hfails : ∀ w, post w → fails w) :
    Operator.Triple answer pre (applyChild child owner) (fun _ => post) fails := by
  rw [applyChild, hkey]
  simp only [ChildKind.key, ChildKind.ofName?_name]
  refine happly.bind fun reply => ?_
  split
  · exact .pure fun _ h => h
  · exact .throw hfails

/-- **Applying.** An expected child is applied by one request, and told of if that changes it. -/
theorem triple_applyExpected (hkey : child.childKey = k.key ns name)
    (happly : Operator.Triple answer pre (Operator.request
      (.apply k.type ns name operatorName true (child.toApply s.owner?).toJson))
      (fun _ => post) fails)
    (hfails : ∀ w, post w → fails w)
    (hpublish : childChange? current child ≠ none → ∀ r e,
      Operator.Triple answer post (Operator.publish r e) (fun _ => post) fails) :
    Operator.Triple answer pre (s.applyExpected p current child) (fun _ => post) fails := by
  refine (triple_applyChild hkey happly hfails).bind fun applied => ?_
  dsimp only
  split
  · next hchange => exact hpublish (by simp [hchange]) _ _
  · next hchange => exact hpublish (by simp [hchange]) _ _
  · exact .pure fun _ h => h

/-- **Deleting.** An orphan is deleted by one request, and told of. That it is gone already is as
good as a success. -/
theorem triple_deleteOrphan (hkey : child.childKey = k.key ns name)
    (hnot : ∀ w, pre w → fails w)
    (hdelete : ∀ w, pre w → ((∀ fault, (answer (.api (.delete k.type ns name)) w).1 = .error fault →
        fault.code? = some 404) → post (answer (.api (.delete k.type ns name)) w).2) ∧
      fails (answer (.api (.delete k.type ns name)) w).2)
    (hpublish : ∀ r e, Operator.Triple answer post (Operator.publish r e) (fun _ => post) fails) :
    Operator.Triple answer pre (s.deleteOrphan p child) (fun _ => post) fails := by
  have hchild : Operator.Triple answer pre (deleteChild child) (fun _ => post) fails := by
    rw [deleteChild, hkey]
    simp only [ChildKind.key, ChildKind.ofName?_name]
    have hask : Operator.Triple answer pre
        (Operator.lift (Operator.ask (.delete k.type ns name)) :
          Operator Client (Except ApiFault Unit))
        (fun reply w => ((∀ fault, reply = .error fault → fault.code? = some 404) → post w) ∧
          fails w) fails := by
      refine .ask (fun w hw _ => ⟨fun h => ?_, hnot w hw⟩) hdelete
      cases h _ rfl
    refine hask.bind fun reply => ?_
    rcases reply with fault | ⟨⟨⟩⟩
    · dsimp only
      split
      · next hgone =>
        refine .pure fun w h => h.1 fun fault' hfault => ?_
        cases hfault
        exact hgone
      · exact .throw fun w h => h.2
    · exact .pure fun w h => h.1 fun fault hfault => by cases hfault
  exact hchild.bind fun _ => hpublish _ _

end Step

/-! ## All steps -/

namespace SourceObject

/-- Whether a pass over a source looks at its children: it is not to be deleted, and templates are
rendered for it. -/
def IsActive (s : SourceObject) : Prop := s.metadata.deletionTimestamp = none ∧ s.isSource = true

/-- What a pass does once it knows the children of its source. -/
def bringInLine (s : SourceObject) (p : Placeholders) (set : ChildSet) (a : Action) :
    Operator Client Action := do
  set.expected.forM (s.applyExpected p set.current)
  set.orphans.forM (s.deleteOrphan p)
  return a

variable {s : SourceObject} {p : Placeholders} {set : ChildSet} {fails : σ → Prop}

/-- **Both loops.** A pass that knows the children of its source applies the expected ones and then
deletes the orphans. -/
theorem triple_bringInLine (inv : List ClusterObject → List ClusterObject → σ → Prop)
    (happly : ∀ done child, child ∈ set.expected → Operator.Triple answer (inv done [])
      (s.applyExpected p set.current child) (fun _ => inv (done ++ [child]) []) fails)
    (hdelete : ∀ gone child, child ∈ set.orphans → Operator.Triple answer (inv set.expected gone)
      (s.deleteOrphan p child) (fun _ => inv set.expected (gone ++ [child])) fails) (a : Action) :
    Operator.Triple answer (inv [] []) (s.bringInLine p set a)
      (fun _ => inv set.expected set.orphans) fails :=
  (Operator.Triple.forM (inv · []) happly).bind fun _ =>
    (Operator.Triple.forM (inv set.expected ·) hdelete).bind fun _ => .pure fun _ h => h

variable {x : OperatorContext Client} {I : σ → Prop} {l : Listing} {c : InMemoryCluster}
  {result : Except OperatorFailure Action} {r r' : Registry Client} {w w' : σ}

/-- **Passes.** A pass over a source fails in looking for its children, or goes on with those
there. -/
theorem exec_reconcile (hreads : ReadsFrom l c I answer) (hc : c.WellKept) (hw : I w)
    (hrun : Operator.exec answer (s.reconcile x p) r w = ((result, r'), w')) :
    (∃ e, result = .error e) ∧ I w' ∨
      ∃ set w₁, I w₁ ∧ set.Resolved l x.tools x.domain p c ∧
        Operator.exec answer (s.bringInLine p set (.requeue x.options.requeueSeconds)) r w₁ =
          ((result, r'), w') := by
  rw [reconcile, Operator.exec_bind, Operator.exec_onStore] at hrun
  rcases hresolve : Program.exec (Operator.storeAnswer answer)
    (resolveChildren x.tools x.domain p) w with ⟨e | set, w₁⟩
  · have hw₁ := hreads.exec_store hw (resolveChildren x.tools x.domain p)
    rw [hresolve] at hrun hw₁
    cases hrun
    exact .inl ⟨⟨_, rfl⟩, hw₁⟩
  · obtain ⟨hw₁, hset⟩ := exec_resolveChildren hreads hc hw hresolve
    rw [hresolve] at hrun
    exact .inr ⟨set, w₁, hw₁, hset, hrun⟩

/-- A pass over an active source is one over its children. -/
lemma pass_of_isActive (h : s.IsActive) : s.pass x = s.reconcile x s.placeholders := by
  rw [pass, h.1, context?, if_pos h.2]
  rfl

/-- A pass over a source that is not active does nothing. -/
lemma pass_of_not_isActive (h : ¬ s.IsActive) : s.pass x = pure .awaitChange := by
  rw [pass]
  split
  · rfl
  · next hdeleted =>
    have hsource : ¬ s.isSource := fun hsource => h ⟨by simpa using hdeleted, hsource⟩
    rw [context?, if_neg hsource]

end SourceObject

end MonitorSync
