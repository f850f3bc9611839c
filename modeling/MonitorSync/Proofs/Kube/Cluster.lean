import MonitorSync.Kube.InMemory
import MonitorSync.Proofs.Json
import MonitorSync.Proofs.Remote.Slot
set_option autoImplicit false

/-!
# Objects by address

An API server knows an object by its kind, namespace and name. Where no two objects have one
address, a server is a set of objects, and a request changes the object of its address alone.

## Main definitions

* `InMemoryCluster.address` — the kind, namespace and name of an object.
* `InMemoryCluster.Addressed` — no two objects have one address.

## Main results

* `InMemoryCluster.mem_put`, `InMemoryCluster.mem_update`, `InMemoryCluster.mem_remove` — the
  objects after a change.
* `InMemoryCluster.Addressed.put`, `InMemoryCluster.Addressed.update`,
  `InMemoryCluster.Addressed.remove` — addresses stay apart.
* `InMemoryCluster.address_setMetadata` — a change of metadata keeps the address.
-/

namespace MonitorSync

namespace InMemoryCluster

variable {c : InMemoryCluster} {kind ns name : String} {o t : Json}

/-- The kind, namespace and name of an object. -/
def address (o : Json) : Option String × String × String :=
  ((o.field "kind").toText?, metadataText "namespace" o, metadataText "name" o)

lemma isObject_iff (o : Json) : isObject kind ns name o ↔ address o = (some kind, ns, name) := by
  simp [isObject, address, and_assoc]

/-- No two objects have one address. -/
def Addressed (c : InMemoryCluster) : Prop := (c.objects.map address).Nodup

/-- A change by address fills the slot anew, or takes the object out of it. -/
lemma updateFirst_fill {k : Slot Json} {p : Json → Bool} {i : Option String × String × String}
    (hp : ∀ t, p t ↔ address t = i) (ho : address o = i) (hf : k.Free address i)
    (f : Json → Option Json) :
    updateFirst p f (k.fill o) = (f o).elim k.others k.fill := by
  obtain ⟨before, after⟩ := k
  induction before with
  | nil =>
    rw [Slot.fill, List.nil_append, updateFirst, if_pos ((hp o).2 ho)]
    rcases f o with _ | t <;> rfl
  | cons t before ih =>
    have ht : ¬ p t := fun h => hf t (by simp [Slot.others]) ((hp t).1 h)
    have hrest : Slot.Free ⟨before, after⟩ address i := fun u hu => hf u (List.mem_cons_of_mem _ hu)
    have hih := ih hrest
    simp only [Slot.fill, List.cons_append] at hih ⊢
    rw [updateFirst, if_neg ht, hih]
    rcases f o with _ | t <;> rfl

/-- An object that is found is one among others of other addresses. -/
lemma Addressed.exists_slot (hc : c.Addressed) (h : c.find? kind ns name = some o) :
    ∃ k : Slot Json, c.objects = k.fill o ∧ address o = (some kind, ns, name) ∧
      k.Free address (some kind, ns, name) := by
  obtain ⟨k, hk, ho, -⟩ := Slot.exists_of_find? h
  have ha := (isObject_iff o).1 ho
  exact ⟨k, hk, ha, ha ▸ (Slot.nodup_fill.1 (hk ▸ hc)).2⟩

/-- **Lookup.** What is found under an address is the object that has it. -/
theorem Addressed.find?_eq_some_iff (hc : c.Addressed) :
    c.find? kind ns name = some o ↔ o ∈ c.objects ∧ address o = (some kind, ns, name) := by
  constructor
  · intro h
    exact ⟨List.mem_of_find?_eq_some h, (isObject_iff o).1 (List.find?_some h)⟩
  · rintro ⟨ho, ha⟩
    rcases hfound : c.find? kind ns name with _ | t
    · exact absurd ((isObject_iff o).2 ha) (List.find?_eq_none.1 hfound o ho)
    · obtain ⟨k, hk, ht, hfree⟩ := hc.exists_slot hfound
      rw [hk, Slot.mem_fill] at ho
      rcases ho with rfl | ho
      · rfl
      · exact absurd ha (hfree o ho)

/-- The others of a slot by their address. -/
private lemma mem_others_iff {k : Slot Json} {i : Option String × String × String}
    (ho : address o = i) (hf : k.Free address i) :
    t ∈ k.others ↔ t ∈ k.fill o ∧ address t ≠ i := by
  rw [Slot.mem_fill]
  constructor
  · intro ht
    exact ⟨.inr ht, hf t ht⟩
  · rintro ⟨rfl | ht, hne⟩
    · exact absurd ho hne
    · exact ht

/-! ## Metadata -/

section Metadata

variable {key k : String} {v : Json}

/-- A change of metadata leaves the other fields of an object alone. -/
lemma get?_setMetadata_of_ne (h : "metadata" ≠ key) :
    (setMetadata o k v).get? key = o.get? key := by
  cases o with
  | obj entries => exact Json.get?_set_obj.trans (if_neg h)
  | _ => rfl

/-- A change of one field of metadata leaves the others alone. -/
lemma field_setMetadata_of_ne (h : k ≠ key) :
    ((setMetadata o k v).field "metadata").field key = (o.field "metadata").field key := by
  cases o with
  | obj entries =>
    have hset (m : Json) : ((Json.obj entries).set "metadata" m).field "metadata" = m :=
      Json.field_eq (Json.get?_set_obj.trans (if_pos rfl))
    rw [setMetadata, hset]
    cases (Json.obj entries).field "metadata" with
    | obj present => rw [Json.field, Json.get?_set_obj, if_neg h]; rfl
    | _ => rw [Json.field, Json.get?_set_obj, if_neg h]; rfl
  | _ => rfl

/-- The metadata of an object after a change. -/
lemma get?_metadata_setMetadata {m : Json} (hm : o.get? "metadata" = some m) (hmo : m.Ordered) :
    (setMetadata o k v).get? "metadata" = some (m.set k v) := by
  obtain ⟨entries, rfl, -⟩ := hmo
  cases o with
  | obj present =>
    rw [setMetadata, Json.field, hm, Json.get?_set_obj, if_pos rfl]
    rfl
  | _ => cases hm

/-- A change of metadata keeps the address, unless it is part of that. -/
lemma address_setMetadata (hns : k ≠ "namespace") (hname : k ≠ "name") :
    address (setMetadata o k v) = address o := by
  have hkind : (setMetadata o k v).field "kind" = o.field "kind" :=
    congrArg (·.getD .null) (get?_setMetadata_of_ne (by decide))
  rw [address, metadataText, metadataText, field_setMetadata_of_ne hns,
    field_setMetadata_of_ne hname, hkind]
  rfl

/-- What is left of an object that is to be deleted, if anything, has its address. -/
lemma address_of_markDeleted (h : markDeleted o = some t) : address t = address o := by
  rw [markDeleted] at h
  split at h
  · cases h
    exact address_setMetadata (by decide) (by decide)
  · cases h

end Metadata

/-! ## Changes -/

/-- Putting an object fills a slot among the objects of other addresses. -/
private lemma Addressed.exists_slot_put (hc : c.Addressed) (kind ns name : String) :
    ∃ k : Slot Json, (∀ o, (c.put kind ns name o).objects = k.fill o) ∧
      k.Free address (some kind, ns, name) ∧ (k.others.map address).Nodup ∧
      ∀ t, t ∈ k.others ↔ t ∈ c.objects ∧ address t ≠ (some kind, ns, name) := by
  rcases hfound : c.find? kind ns name with _ | x
  · have hfree : Slot.Free ⟨c.objects, []⟩ address (some kind, ns, name) := by
      intro t ht ha
      rw [Slot.others, List.append_nil] at ht
      exact List.find?_eq_none.1 hfound t ht ((isObject_iff t).2 ha)
    refine ⟨⟨c.objects, []⟩, fun o => ?_, hfree, ?_, fun t => ?_⟩
    · rw [put, hfound]
      rfl
    · rwa [Slot.others, List.append_nil]
    · rw [Slot.others, List.append_nil]
      refine ⟨fun ht => ⟨ht, hfree t ?_⟩, And.left⟩
      rwa [Slot.others, List.append_nil]
  · obtain ⟨k, hk, ha, hfree⟩ := hc.exists_slot hfound
    rw [Addressed, hk] at hc
    refine ⟨k, fun o => ?_, hfree, (Slot.nodup_fill.1 hc).1, fun t => ?_⟩
    · rw [put, hfound, Option.isSome_some, if_pos rfl, update, hk,
        updateFirst_fill isObject_iff ha hfree]
      rfl
    · rw [hk]
      exact mem_others_iff ha hfree

/-- **Putting.** The object takes the place of the one of its address. -/
theorem mem_put (hc : c.Addressed) :
    t ∈ (c.put kind ns name o).objects ↔
      t = o ∨ t ∈ c.objects ∧ address t ≠ (some kind, ns, name) := by
  obtain ⟨k, hk, -, -, hothers⟩ := hc.exists_slot_put kind ns name
  rw [hk, Slot.mem_fill, hothers]

theorem Addressed.put (hc : c.Addressed) (ho : address o = (some kind, ns, name)) :
    (c.put kind ns name o).Addressed := by
  obtain ⟨k, hk, hfree, hnodup, -⟩ := hc.exists_slot_put kind ns name
  rw [Addressed, hk]
  exact Slot.nodup_fill.2 ⟨hnodup, ho ▸ hfree⟩

/-- Where nothing is found, there is nothing to remove. -/
private lemma updateFirst_eq_self {l : List Json} {p : Json → Bool} {f : Json → Option Json}
    (h : l.find? p = none) : updateFirst p f l = l := by
  induction l with
  | nil => rfl
  | cons x l ih =>
    rw [List.find?_eq_none] at h
    rw [updateFirst, if_neg (h x List.mem_cons_self), ih]
    exact List.find?_eq_none.2 fun y hy => h y (List.mem_cons_of_mem _ hy)

/-- **Changing.** The object of an address is changed or taken away, and all others stay. -/
theorem mem_update (hc : c.Addressed) {f : Json → Option Json} :
    t ∈ (c.update kind ns name f).objects ↔
      t ∈ c.objects ∧ address t ≠ (some kind, ns, name) ∨
        ∃ o ∈ c.objects, address o = (some kind, ns, name) ∧ f o = some t := by
  rcases hfound : c.find? kind ns name with _ | x
  · have hnone : ∀ o ∈ c.objects, address o ≠ (some kind, ns, name) := fun o ho ha =>
      List.find?_eq_none.1 hfound o ho ((isObject_iff o).2 ha)
    rw [update, updateFirst_eq_self hfound]
    constructor
    · intro ht
      exact .inl ⟨ht, hnone t ht⟩
    · rintro (⟨ht, -⟩ | ⟨o, ho, ha, -⟩)
      · exact ht
      · exact absurd ha (hnone o ho)
  · obtain ⟨k, hk, ha, hfree⟩ := hc.exists_slot hfound
    rw [update, hk, updateFirst_fill isObject_iff ha hfree, ← mem_others_iff ha hfree]
    have hx : ∀ o ∈ k.fill x, address o = (some kind, ns, name) → o = x := by
      intro o ho hao
      rcases Slot.mem_fill.1 ho with rfl | ho
      · rfl
      · exact absurd hao (hfree o ho)
    rcases hf : f x with _ | y
    · constructor
      · exact .inl
      · rintro (ht | ⟨o, ho, hao, ho'⟩)
        · exact ht
        · rw [hx o ho hao, hf] at ho'
          cases ho'
    · rw [Option.elim_some, Slot.mem_fill, or_comm]
      refine or_congr_right ⟨?_, ?_⟩
      · rintro rfl
        exact ⟨x, Slot.mem_fill.2 (.inl rfl), ha, hf⟩
      · rintro ⟨o, ho, hao, ho'⟩
        rw [hx o ho hao, hf] at ho'
        exact (Option.some.inj ho').symm

/-- **Removing.** The object of an address is taken away or marked, and all others stay. -/
theorem mem_remove (hc : c.Addressed) :
    t ∈ (c.remove kind ns name).objects ↔
      t ∈ c.objects ∧ address t ≠ (some kind, ns, name) ∨
        ∃ o ∈ c.objects, address o = (some kind, ns, name) ∧ markDeleted o = some t :=
  mem_update hc

theorem Addressed.update (hc : c.Addressed) {f : Json → Option Json}
    (hf : ∀ o t, f o = some t → address t = address o) :
    (c.update kind ns name f).Addressed := by
  rcases hfound : c.find? kind ns name with _ | x
  · rw [InMemoryCluster.update, updateFirst_eq_self hfound]
    exact hc
  · obtain ⟨k, hk, ha, hfree⟩ := hc.exists_slot hfound
    rw [Addressed, hk] at hc
    rw [InMemoryCluster.update, Addressed, hk, updateFirst_fill isObject_iff ha hfree]
    rcases hx : f x with _ | y
    · exact (Slot.nodup_fill.1 hc).1
    · refine Slot.nodup_fill.2 ⟨(Slot.nodup_fill.1 hc).1, ?_⟩
      rw [hf x y hx]
      exact (Slot.nodup_fill.1 hc).2

theorem Addressed.remove (hc : c.Addressed) : (c.remove kind ns name).Addressed :=
  hc.update fun _ _ => address_of_markDeleted

end InMemoryCluster

end MonitorSync
