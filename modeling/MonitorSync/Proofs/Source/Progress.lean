import MonitorSync.Proofs.Source.Steps
set_option autoImplicit false

/-!
# Passes over sources

A pass over a source applies the expected children one by one and then deletes the orphans. How far
it has come, and what the API server holds by then, is an invariant of its requests.

## Main definitions

* `ChildKey.AppliedTo` — a child on a server, as it was applied for a source.
* `ChildSet.Progress` — which children were applied and deleted so far, and what the server holds.

## Main results

* `ChildSet.Progress.apply`, `ChildSet.Progress.delete` — a request brings a pass one child further.
* `SourceObject.pass_cases` — a pass changes nothing, or comes some way.
-/

namespace MonitorSync

open InMemoryCluster

/-- A child of a key on a server, as it was applied for a source. -/
def ChildKey.AppliedTo (domain : Domain) (label : String) (owner : Option OwnerReference)
    (key : ChildKey) (o : Json) : Prop :=
  ∃ k ns name, key = ChildKind.key k ns name ∧ AppliedAs domain label owner k ns name o

lemma ChildKey.AppliedTo.names {domain : Domain} {label : String} {owner : Option OwnerReference}
    {key : ChildKey} {o : Json} (h : key.AppliedTo domain label owner o) : key.Names o := by
  obtain ⟨k, ns, name, rfl, happlied⟩ := h
  exact ⟨k, ns, name, rfl, happlied.address_eq⟩

namespace ChildSet

/-- How far a pass over a source has come on a server that held `c`: the children in `done` were
applied and those in `gone` deleted, only expected children were applied, only orphans deleted, and
no other object was touched. -/
structure Progress (domain : Domain) (label : String) (owner : Option OwnerReference)
    (c : InMemoryCluster) (set : ChildSet) (done gone : List ClusterObject) (w : Surroundings) :
    Prop where
  kept : w.cluster.WellKept
  held : ∀ child ∈ done, ∃ o ∈ w.cluster.objects, child.childKey.AppliedTo domain label owner o
  others : ∀ o ∈ c.objects, (∀ key : ChildKey, key.Names o → key ∉ w.applied ∧ key ∉ w.deleted) →
    o ∈ w.cluster.objects
  expected : ∀ child ∈ done, child ∈ set.expected
  applied : ∀ child ∈ done, child.childKey ∈ w.applied
  applied_subset : ∀ key ∈ w.applied, key ∈ set.expected.map ClusterObject.childKey
  deleted : ∀ child ∈ gone, child.childKey ∈ w.deleted
  deleted_subset : ∀ key ∈ w.deleted, key ∈ set.orphans.map ClusterObject.childKey

section Step

variable {domain : Domain} {label : String} {owner : Option OwnerReference} {c : InMemoryCluster}
  {set : ChildSet} {done gone : List ClusterObject} {w w' : Surroundings} {faults : Faults}
  {child : ClusterObject} {k : ChildKind} {ns name : String}

/-- A pass starts with nothing done. -/
lemma Progress.start (hc : c.WellKept) (hw : w.Untouched c) :
    Progress domain label owner c set [] [] w where
  kept := hw.cluster ▸ hc
  held := by simp
  others o ho _ := hw.cluster ▸ ho
  expected := by simp
  applied := by simp
  applied_subset := by simp [hw.applied]
  deleted := by simp
  deleted_subset := by simp [hw.deleted]

lemma Progress.weaken (h : Progress domain label owner c set done gone w) :
    Progress domain label owner c set [] [] w :=
  { h with held := by simp, expected := by simp, applied := by simp, deleted := by simp }

/-- A request that touches only the objects of its own keys: it applies `xs` and deletes `ys`. -/
private lemma Progress.next {xs ys : List ChildKey} {done' gone' : List ClusterObject}
    (h : Progress domain label owner c set done gone w)
    (happlied : w'.applied = xs ++ w.applied) (hdeleted : w'.deleted = ys ++ w.deleted)
    (hxs : ∀ key ∈ xs, key ∈ set.expected.map ClusterObject.childKey)
    (hys : ∀ key ∈ ys, key ∈ set.orphans.map ClusterObject.childKey)
    (hkept : w'.cluster.WellKept)
    (hobjects : ∀ o ∈ w.cluster.objects, (∀ key : ChildKey, key.Names o → key ∉ xs ∧ key ∉ ys) →
      o ∈ w'.cluster.objects)
    (hdone : ∀ child ∈ done', child ∈ set.expected ∧ child.childKey ∈ w'.applied ∧
      ∃ o ∈ w'.cluster.objects, child.childKey.AppliedTo domain label owner o)
    (hgone : ∀ child ∈ gone', child.childKey ∈ w'.deleted) :
    Progress domain label owner c set done' gone' w' where
  kept := hkept
  held child hchild := (hdone child hchild).2.2
  others o ho hkeys := by
    have hkeys' : ∀ key : ChildKey, key.Names o →
        (key ∉ xs ∧ key ∉ ys) ∧ key ∉ w.applied ∧ key ∉ w.deleted := by
      intro key hkey
      obtain ⟨ha, hd⟩ := hkeys key hkey
      rw [happlied, List.mem_append, not_or] at ha
      rw [hdeleted, List.mem_append, not_or] at hd
      exact ⟨⟨ha.1, hd.1⟩, ha.2, hd.2⟩
    exact hobjects o (h.others o ho fun key hkey => (hkeys' key hkey).2)
      fun key hkey => (hkeys' key hkey).1
  expected child hchild := (hdone child hchild).1
  applied child hchild := (hdone child hchild).2.1
  applied_subset key hkey := by
    rw [happlied, List.mem_append] at hkey
    exact hkey.elim (hxs key) (h.applied_subset key)
  deleted := hgone
  deleted_subset key hkey := by
    rw [hdeleted, List.mem_append] at hkey
    exact hkey.elim (hys key) (h.deleted_subset key)

/-- A request that changes no object keeps what was done. -/
private lemma Progress.of_unchanged {xs ys : List ChildKey}
    (h : Progress domain label owner c set done gone w)
    (happlied : w'.applied = xs ++ w.applied) (hdeleted : w'.deleted = ys ++ w.deleted)
    (hxs : ∀ key ∈ xs, key ∈ set.expected.map ClusterObject.childKey)
    (hys : ∀ key ∈ ys, key ∈ set.orphans.map ClusterObject.childKey)
    (hcluster : w'.cluster = w.cluster) : Progress domain label owner c set done gone w' :=
  h.next happlied hdeleted hxs hys (hcluster ▸ h.kept) (fun _ ho _ => hcluster ▸ ho)
    (fun child hchild => ⟨h.expected child hchild,
      happlied ▸ List.mem_append_right _ (h.applied child hchild), hcluster ▸ h.held child hchild⟩)
    fun child hchild => hdeleted ▸ List.mem_append_right _ (h.deleted child hchild)

/-- An event changes no object. -/
lemma Progress.publish {body : Json} {reply : Except ApiFault Unit}
    (h : Progress domain label owner c set done gone w)
    (hrun : w.answerApi faults (.createEvent ns body) = (reply, w')) :
    Progress domain label owner c set done gone w' := by
  obtain ⟨happlied, hdeleted, hcluster⟩ := Surroundings.answerApi_cases hrun
  refine h.of_unchanged happlied hdeleted (by simp [ApiRequest.applied?])
    (by simp [ApiRequest.deleted?]) ?_
  rcases hcluster with ⟨-, hcluster⟩ | ⟨-, hcluster⟩ <;> exact hcluster

/-- **Applying.** A request to apply an expected child is refused without effect, or the server
holds the child afterwards. -/
theorem Progress.apply {manager : String} {force : Bool} {body : Json}
    {reply : Except ApiFault Json} (h : Progress domain label owner c set done gone w)
    (hexpected : child ∈ set.expected) (hkey : child.childKey = k.key ns name)
    (hbody : AppliedAs domain label owner k ns name (w.cluster.applied k.type.kind ns name body))
    (hrun : w.answerApi faults (.apply k.type ns name manager force body) = (reply, w')) :
    (∃ fault, reply = .error fault) ∧ Progress domain label owner c set done gone w' ∨
      Progress domain label owner c set (done ++ [child]) gone w' := by
  obtain ⟨happlied, hdeleted, hcluster⟩ := Surroundings.answerApi_cases hrun
  have happlied' : w'.applied = [child.childKey] ++ w.applied := hkey ▸ happlied
  have hxs : ∀ key ∈ [child.childKey], key ∈ set.expected.map ClusterObject.childKey := by
    simpa using ⟨child, hexpected, rfl⟩
  rcases hcluster with ⟨⟨code, hfault⟩, hcluster⟩ | ⟨-, hcluster⟩
  · exact .inl ⟨⟨_, hfault⟩, h.of_unchanged happlied' hdeleted hxs (by simp [ApiRequest.deleted?])
      hcluster⟩
  · rw [InMemoryCluster.answer] at hcluster
    have hput : child.childKey.AppliedTo domain label owner
        (w.cluster.applied k.type.kind ns name body) := ⟨k, ns, name, hkey, hbody⟩
    have hmem (t : Json) : t ∈ w'.cluster.objects ↔
        t = w.cluster.applied k.type.kind ns name body ∨
          t ∈ w.cluster.objects ∧ address t ≠ (some k.type.kind, ns, name) :=
      hcluster ▸ mem_put h.kept.addressed
    refine .inr (h.next happlied' hdeleted hxs (by simp [ApiRequest.deleted?])
      (hcluster ▸ h.kept.put hbody.address_eq hbody.isChild.isKept)
      (fun t ht hkeys => ?_) (fun x hx => ?_) fun x hx => ?_)
    · refine (hmem t).2 (.inr ⟨ht, fun ha => ?_⟩)
      exact (hkeys child.childKey ⟨k, ns, name, hkey, ha⟩).1 List.mem_cons_self
    · rw [List.mem_append, List.mem_singleton] at hx
      rcases hx with hx | rfl
      · refine ⟨h.expected x hx, happlied' ▸ List.mem_append_right _ (h.applied x hx), ?_⟩
        obtain ⟨t, ht, hat⟩ := h.held x hx
        by_cases ha : address t = (some k.type.kind, ns, name)
        · have hsame : x.childKey = child.childKey :=
            hat.names.unique ⟨k, ns, name, hkey, ha⟩
          exact ⟨_, (hmem _).2 (.inl rfl), hsame ▸ hput⟩
        · exact ⟨t, (hmem t).2 (.inr ⟨ht, ha⟩), hat⟩
      · exact ⟨hexpected, happlied' ▸ List.mem_append_left _ List.mem_cons_self, _,
          (hmem _).2 (.inl rfl), hput⟩
    · exact hdeleted ▸ h.deleted x hx

/-- **Deleting.** A request to delete an orphan touches no child that was applied. -/
theorem Progress.delete {reply : Except ApiFault Unit}
    (h : Progress domain label owner c set done gone w) (horphan : child ∈ set.orphans)
    (hkey : child.childKey = k.key ns name)
    (hrun : w.answerApi faults (.delete k.type ns name) = (reply, w')) :
    Progress domain label owner c set done (gone ++ [child]) w' := by
  obtain ⟨happlied, hdeleted, hcluster⟩ := Surroundings.answerApi_cases hrun
  have hdeleted' : w'.deleted = [child.childKey] ++ w.deleted := hkey ▸ hdeleted
  have hys : ∀ key ∈ [child.childKey], key ∈ set.orphans.map ClusterObject.childKey := by
    simpa using ⟨child, horphan, rfl⟩
  -- the server stays well kept, and objects of other addresses stay
  have hafter : w'.cluster.WellKept ∧ ∀ t ∈ w.cluster.objects,
      address t ≠ (some k.type.kind, ns, name) → t ∈ w'.cluster.objects := by
    rcases hcluster with ⟨-, hcluster⟩ | ⟨-, hcluster⟩
    · exact ⟨hcluster ▸ h.kept, fun t ht _ => hcluster ▸ ht⟩
    · rw [InMemoryCluster.answer] at hcluster
      split at hcluster
      · rw [hcluster]
        exact ⟨h.kept.remove, fun t ht ha => (mem_remove h.kept.addressed).2 (.inl ⟨ht, ha⟩)⟩
      · exact ⟨hcluster ▸ h.kept, fun t ht _ => hcluster ▸ ht⟩
  have hexpected : child.childKey ∉ set.expected.map ClusterObject.childKey :=
    (mem_orphans_iff.1 horphan).2
  refine h.next happlied hdeleted' (by simp [ApiRequest.applied?]) hys hafter.1
    (fun t ht hkeys => hafter.2 t ht fun ha => ?_) (fun x hx => ?_) fun x hx => ?_
  · exact (hkeys child.childKey ⟨k, ns, name, hkey, ha⟩).2 List.mem_cons_self
  · obtain ⟨t, ht, hat⟩ := h.held x hx
    refine ⟨h.expected x hx, happlied ▸ h.applied x hx, t,
      hafter.2 t ht fun ha => hexpected ?_, hat⟩
    rw [ChildKey.Names.unique ⟨k, ns, name, hkey, ha⟩ hat.names]
    exact List.mem_map_of_mem (h.expected x hx)
  · rw [List.mem_append, List.mem_singleton] at hx
    rcases hx with hx | rfl
    · exact hdeleted' ▸ List.mem_append_right _ (h.deleted x hx)
    · exact hdeleted' ▸ List.mem_append_left _ List.mem_cons_self

end Step

end ChildSet

/-! ## The parts of a pass -/

section Parts

open ChildSet

variable {Client : Type} {tools : Mustache.Tools} {domain : Domain} {label : String}
  {owner : Option OwnerReference} {c : InMemoryCluster} {set : ChildSet}
  {done gone : List ClusterObject} {faults : Faults} {child : ClusterObject} {k : ChildKind}
  {ns name : String} {s : SourceObject} {p : Placeholders}

/-- Publishing an event keeps what was done. -/
private lemma triple_publish (r : ObjectReference) (e : ChangeEvent) :
    Operator.Triple (Surroundings.answer faults) (Progress domain label owner c set done gone)
      (Operator.publish r e : Operator Client Unit)
      (fun _ => Progress domain label owner c set done gone)
      (Progress domain label owner c set [] []) := by
  refine .request (fun _ _ h => by cases h) (fun w reply h _ => ?_) fun w fault h _ => ?_
  · exact h.publish rfl
  · exact (h.publish rfl).weaken

/-- Applying an expected child. -/
private lemma triple_apply (hexpected : child ∈ set.expected)
    (hchild : child.Stamped domain label k ns name) :
    Operator.Triple (Surroundings.answer faults) (Progress domain label owner c set done gone)
      (Operator.request (.apply k.type ns name operatorName true (child.toApply owner).toJson) :
        Operator Client Json)
      (fun _ => Progress domain label owner c set (done ++ [child]) gone)
      (Progress domain label owner c set [] []) := by
  have hkey := hchild.childKey_eq
  refine .request (fun w h _ => h.weaken) (fun w reply h hreply => ?_) fun w fault h _ => ?_
  · rcases h.apply hexpected hkey (hchild.appliedAs h.kept) rfl with ⟨⟨fault, hfault⟩, -⟩ | h
    · cases hreply.symm.trans hfault
    · exact h
  · rcases h.apply hexpected hkey (hchild.appliedAs h.kept) rfl with ⟨-, h⟩ | h <;>
      exact h.weaken

variable (Client faults s) in
/-- **Both loops.** A pass that knows the children of its source applies the expected ones and
deletes the orphans. -/
private lemma triple_loops (hset : set.Resolved .inMemory tools domain p c) (a : Action) :
    Operator.Triple (Surroundings.answer faults)
      (Progress domain p.reference.label s.owner? c set [] [])
      (s.bringInLine p set a : Operator Client Action)
      (fun _ => Progress domain p.reference.label s.owner? c set set.expected set.orphans)
      (Progress domain p.reference.label s.owner? c set [] []) := by
  refine SourceObject.triple_bringInLine (Progress domain p.reference.label s.owner? c set)
    (fun done child hchild => ?_) (fun gone child hchild => ?_) a
  · obtain ⟨k, ns, name, hstamped⟩ := hset.stamped hchild
    exact triple_applyExpected hstamped.childKey_eq (triple_apply hchild hstamped)
      (fun _ h => h.weaken) fun _ => triple_publish
  · obtain ⟨v, -, ⟨k, ns, name, hkey, -⟩, -⟩ := hset.selected_of_mem_orphans hchild
    refine triple_deleteOrphan hkey (fun _ h => h.weaken) (fun w h => ?_) triple_publish
    have hafter := h.delete hchild hkey (rfl : w.answerApi faults (.delete k.type ns name) = _)
    exact ⟨fun _ => hafter, hafter.weaken⟩

end Parts

/-! ## Passes -/

namespace SourceObject

open ChildSet

variable {Client : Type} {x : OperatorContext Client} {s : SourceObject} {c : InMemoryCluster}
  {faults : Faults} {registry registry' : Registry Client} {w w' : Surroundings}
  {result : Except OperatorFailure Action}

/-- A pass over the children of a source fails before it changes an object, or comes some way. -/
private lemma reconcile_cases {p : Placeholders} (hc : c.WellKept) (hw : w.Untouched c)
    (hrun : Operator.exec (Surroundings.answer faults) (s.reconcile x p) registry w =
      ((result, registry'), w')) :
    (∃ e, result = .error e) ∧ w'.Untouched c ∨
      ∃ set, set.Resolved .inMemory x.tools x.domain p c ∧
        Progress x.domain p.reference.label s.owner? c set [] [] w' ∧
        ∀ a, result = .ok a →
          Progress x.domain p.reference.label s.owner? c set set.expected set.orphans w' := by
  rcases exec_reconcile (Surroundings.Untouched.readsFrom faults c Client) hc hw hrun with
    hfailed | ⟨set, w₁, hw₁, hset, hrun⟩
  · exact .inl hfailed
  · have hloops := triple_loops Client faults s hset (.requeue x.options.requeueSeconds)
    have hstart : Progress x.domain p.reference.label s.owner? c set [] [] w₁ := .start hc hw₁
    refine .inr ⟨set, hset, ?_⟩
    rcases result with e | a
    · exact ⟨hloops.error hstart hrun, fun a h => by cases h⟩
    · have hend := hloops.ok hstart hrun
      exact ⟨hend.weaken, fun _ _ => hend⟩

/-- **Passes over sources.** A pass changes nothing, or the source is an active one and the pass
comes some way; where it succeeds, it comes all the way. -/
theorem pass_cases (hc : c.WellKept) (hw : w.Untouched c)
    (hrun : Surroundings.run faults (s.pass x) registry w = ((result, registry'), w')) :
    w'.Untouched c ∧ (∀ a, result = .ok a → ¬ s.IsActive) ∨
      s.IsActive ∧ ∃ set, set.Resolved .inMemory x.tools x.domain s.placeholders c ∧
        Progress x.domain s.placeholders.reference.label s.owner? c set [] [] w' ∧
        ∀ a, result = .ok a → Progress x.domain s.placeholders.reference.label s.owner? c set
          set.expected set.orphans w' := by
  change Operator.exec _ _ _ _ = _ at hrun
  by_cases hactive : s.IsActive
  · rw [pass_of_isActive hactive] at hrun
    rcases reconcile_cases hc hw hrun with ⟨⟨e, rfl⟩, hw'⟩ | hset
    · exact .inl ⟨hw', fun a h => by cases h⟩
    · exact .inr ⟨hactive, hset⟩
  · rw [pass_of_not_isActive hactive, Operator.exec_pure] at hrun
    cases hrun
    exact .inl ⟨hw, fun _ _ => hactive⟩

end SourceObject

end MonitorSync
