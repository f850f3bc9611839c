import MonitorSync.Proofs.Child.Rendered
import MonitorSync.Proofs.Operator.Requests
set_option autoImplicit false

/-!
# The children of a source on an API server

What a pass over a source finds out before it changes anything: which children the source should
have, and which it has by its selector.

## Main definitions

* `ChildKind.key` — the key of a child of a kind.
* `ChildKey.Names` — the key of an object of the server.
* `expectedChildren` — the children that a source should have.
* `ChildSet.Resolved` — what is true of the children of a source that were looked for.

## Main results

* `exists_of_mem_expectedChildren` — an expected child comes of a template that the source lists.
* `ChildSet.Resolved.selected_of_mem_orphans`, `ChildSet.Resolved.mem_orphans` — an orphan is
  selected for the source, and what is selected and not expected is an orphan.
* `exec_resolveChildren` — looking for children finds those there.
-/

namespace MonitorSync

open InMemoryCluster

/-! ## Traversals -/

section Traversals

variable {ε α β : Type} {f : α → Except ε β} {R : α → β → Prop} {xs : List α} {ys : List β}

/-- A traversal succeeds if each of its steps does, and gives what they give. -/
lemma mapM_eq_ok_iff : xs.mapM f = .ok ys ↔ List.Forall₂ (fun x y => f x = .ok y) xs ys := by
  constructor
  · intro h
    induction xs generalizing ys with
    | nil =>
      cases h
      exact .nil
    | cons x xs ih =>
      rw [List.mapM_cons] at h
      obtain ⟨y, hx, h⟩ := exists_of_bind_ok h
      obtain ⟨ys', hxs, h⟩ := exists_of_bind_ok h
      cases h
      exact .cons hx (ih hxs)
  · intro h
    induction h with
    | nil => rfl
    | cons hx _ ih =>
      rw [List.mapM_cons, hx, ih]
      rfl

lemma exists_of_forall₂_left (h : List.Forall₂ R xs ys) : ∀ x ∈ xs, ∃ y ∈ ys, R x y := by
  induction h with
  | nil => simp
  | cons hxy _ ih =>
    refine List.forall_mem_cons.2 ⟨⟨_, List.mem_cons_self, hxy⟩, fun x hx => ?_⟩
    obtain ⟨y, hy, hr⟩ := ih x hx
    exact ⟨y, List.mem_cons_of_mem _ hy, hr⟩

lemma exists_of_forall₂_right (h : List.Forall₂ R xs ys) : ∀ y ∈ ys, ∃ x ∈ xs, R x y :=
  exists_of_forall₂_left h.flip

end Traversals

/-! ## Keys -/

/-- The key of a child of a kind. -/
def ChildKind.key (k : ChildKind) (ns name : String) : ChildKey := ⟨k.type.group, k.name, ns, name⟩

lemma ChildKind.mem_all (k : ChildKind) : k ∈ all := by
  cases k <;> decide

lemma ChildKind.ofName?_name (k : ChildKind) : ofName? k.name = some k := by
  cases k <;> decide

lemma ChildKind.name_of_ofName? {k : ChildKind} {name : String} (h : ofName? name = some k) :
    name = k.name := by
  have hname := List.find?_some h
  exact (of_decide_eq_true hname).symm

lemma ChildKind.name_injective : Function.Injective name := by
  intro k k' h
  rw [← Option.some_inj, ← ofName?_name k, ← ofName?_name k', h]

lemma ChildKind.key_inj {k k' : ChildKind} {ns ns' name name' : String} :
    k.key ns name = k'.key ns' name' ↔ k = k' ∧ ns = ns' ∧ name = name' := by
  rw [key, key, ChildKey.mk.injEq]
  constructor
  · rintro ⟨-, hk, hns, hname⟩
    exact ⟨name_injective hk, hns, hname⟩
  · rintro ⟨rfl, rfl, rfl⟩
    exact ⟨rfl, rfl, rfl, rfl⟩

/-- The key of an object of the server, if that is of a kind of children. -/
def ChildKey.Names (key : ChildKey) (v : Json) : Prop :=
  ∃ k ns name, key = ChildKind.key k ns name ∧ address v = (some k.name, ns, name)

/-- The key of a child names what has its address. -/
lemma ChildKind.names_key_iff {k : ChildKind} {ns name : String} {v : Json} :
    (k.key ns name).Names v ↔ address v = (some k.name, ns, name) := by
  constructor
  · rintro ⟨k', ns', name', hkey, ha⟩
    obtain ⟨rfl, rfl, rfl⟩ := ChildKind.key_inj.1 hkey
    exact ha
  · exact fun ha => ⟨k, ns, name, rfl, ha⟩

/-- A key names the objects of one address. -/
lemma ChildKey.Names.address_eq {key : ChildKey} {v v' : Json} (h : key.Names v)
    (h' : key.Names v') : address v = address v' := by
  obtain ⟨k, ns, name, rfl, ha⟩ := h
  obtain ⟨k', ns', name', hkey, ha'⟩ := h'
  obtain ⟨rfl, rfl, rfl⟩ := ChildKind.key_inj.1 hkey
  rw [ha, ha']

/-- An object has one key. -/
lemma ChildKey.Names.unique {key key' : ChildKey} {v : Json} (h : key.Names v)
    (h' : key'.Names v) : key = key' := by
  obtain ⟨k, ns, name, rfl, ha⟩ := h
  obtain ⟨k', ns', name', rfl, ha'⟩ := h'
  rw [ha, Prod.mk.injEq, Prod.mk.injEq, Option.some_inj] at ha'
  obtain ⟨hk, rfl, rfl⟩ := ha'
  rw [ChildKind.name_injective hk]

section Keys

variable {domain : Domain} {label : String} {k : ChildKind} {ns name : String} {v : Json}
  {o : ClusterObject}

/-- A stamped child has its key. -/
lemma ClusterObject.Stamped.childKey_eq (h : o.Stamped domain label k ns name) :
    o.childKey = k.key ns name := by
  rw [childKey, h.types, Metadata.nsOrEmpty, h.ns, Metadata.anyName, h.name]
  rfl

/-- The name and namespace that are read of an object are those on the server. -/
private lemma ClusterObject.childKey_of_ofJson? {m : KeyMap Json}
    (hm : v.get? "metadata" = some (.ofMap m)) (hinc : m.Increasing)
    (hname : m.get? "name" = some (.str name)) (h : ofJson? v = some o) :
    o.metadata.nsOrEmpty = metadataText "namespace" v ∧
      o.metadata.anyName = metadataText "name" v := by
  rcases metadata_of_ofJson? h with ⟨hnone, -⟩ | ⟨m', hm', hread⟩
  · cases hm.symm.trans hnone
  · cases hm.symm.trans hm'
    rw [Metadata.nsOrEmpty, Metadata.anyName, Metadata.name_of_ofDatum? hinc hread,
      Metadata.ns_of_ofDatum? hinc hread, metadataText, metadataText, field_metadata hm,
      field_metadata hm, hname]
    refine ⟨?_, rfl⟩
    rcases m.get? "namespace" with _ | ns <;> rfl

/-- A child that is read in a list is one that is read, with a type. -/
lemma exists_of_readChild {k : ChildKind} {v : Json} {o : ClusterObject}
    (h : Operator.readChild k v = .ok o) :
    ∃ o', ClusterObject.ofJson? v = some o' ∧
      o = { o' with types := some (o'.types.getD k.type) } := by
  rw [Operator.readChild, Operator.readReply] at h
  rcases hread : ClusterObject.ofJson? v with _ | o'
  · rw [hread] at h
    cases h
  · rw [hread] at h
    cases h
    exact ⟨o', rfl, rfl⟩

/-- A child that is found under an address has its type and key. -/
private lemma IsKept.childKey_of_found (hv : IsKept v) (ha : address v = (some k.name, ns, name))
    (h : ClusterObject.ofJson? v = some o) :
    o.types = some k.type ∧ o.childKey = k.key ns name := by
  obtain ⟨m, hm, hinc, _, hname⟩ := hv.metadata
  obtain ⟨hns, hname⟩ := ClusterObject.childKey_of_ofJson? hm hinc hname h
  obtain ⟨hkind, rfl, rfl⟩ : (v.field "kind").toText? = some k.name ∧
    metadataText "namespace" v = ns ∧ metadataText "name" v = name := by simpa [address] using ha
  have hkind' : v.get? "kind" = some (.str k.name) := by
    rw [Json.field] at hkind
    rcases hget : v.get? "kind" with _ | w
    · rw [hget] at hkind
      cases hkind
    · rw [hget] at hkind
      cases w <;> cases hkind
      rfl
  have htypes : o.types = some k.type := by
    rw [(ClusterObject.types_of_ofJson? h hv.apiVersion hkind').1]
    cases k <;> rfl
  refine ⟨htypes, ?_⟩
  rw [ClusterObject.childKey, hns, hname, htypes]
  rfl

/-- A child that is listed without its type has the key of its address. -/
private lemma IsKept.childKey_of_untyped (hv : IsKept v) (ha : address v = (some k.name, ns, name))
    (h : Operator.readChild k ((v.remove "apiVersion").remove "kind") = .ok o) :
    o.childKey = k.key ns name := by
  obtain ⟨m, hm, hinc, _, hname⟩ := hv.metadata
  obtain ⟨-, rfl, rfl⟩ : (v.field "kind").toText? = some k.name ∧
    metadataText "namespace" v = ns ∧ metadataText "name" v = name := by simpa [address] using ha
  obtain ⟨o', hread, rfl⟩ := exists_of_readChild h
  have hm' : ((v.remove "apiVersion").remove "kind").get? "metadata" = some (.ofMap m) := by
    rw [Json.get?_remove (by decide), Json.get?_remove (by decide), hm]
  have hversion : ((v.remove "apiVersion").remove "kind").get? "apiVersion" = none := by
    rw [Json.get?_remove (by decide), Json.get?_remove_self]
  obtain ⟨hns', hname'⟩ := ClusterObject.childKey_of_ofJson? hm' hinc hname hread
  have htext (key : String) :
      metadataText key ((v.remove "apiVersion").remove "kind") = metadataText key v := by
    rw [metadataText, metadataText, field_metadata hm, field_metadata hm']
  rw [ClusterObject.childKey, ClusterObject.types_of_ofJson?_untyped hread hversion, hns', hname',
    htext, htext]
  rfl

/-- **Listed children.** A child that is listed has the key of its address and the specification
there, whether it is listed with its type or without. -/
private lemma IsKept.of_listed {l : Listing} (hv : IsKept v)
    (ha : address v = (some k.name, ns, name)) (h : Operator.readChild k (l.item v) = .ok o) :
    o.childKey = k.key ns name ∧ o.spec = v.field "spec" := by
  obtain ⟨o', hread, ho⟩ := exists_of_readChild h
  have hspec : o.spec = (l.item v).field "spec" := by
    rw [ho, ← ClusterObject.spec_of_ofJson? hread]
    rfl
  rcases l.item_eq v with hitem | hitem
  · rw [hitem] at hread hspec
    obtain ⟨htypes, hkey⟩ := hv.childKey_of_found ha hread
    refine ⟨?_, hspec⟩
    rw [← hkey, ho, ClusterObject.childKey, ClusterObject.childKey, htypes]
    rfl
  · rw [hitem] at h hspec
    refine ⟨hv.childKey_of_untyped ha h, hspec.trans ?_⟩
    rw [Json.field, Json.get?_remove (by decide), Json.get?_remove (by decide)]
    rfl

end Keys
/-! ## One child for every key -/

section Dedup

variable {xs : List ClusterObject} {o : ClusterObject} {key : ChildKey}

lemma mem_of_mem_dedupChildren (h : o ∈ dedupChildren xs) : o ∈ xs := by
  induction xs with
  | nil => exact h
  | cons x xs ih =>
    rw [dedupChildren, List.mem_cons, List.mem_filter] at h
    rcases h with rfl | ⟨h, -⟩
    · exact List.mem_cons_self
    · exact List.mem_cons_of_mem _ (ih h)

/-- No key is lost. -/
lemma mem_map_dedupChildren :
    key ∈ (dedupChildren xs).map ClusterObject.childKey ↔ key ∈ xs.map ClusterObject.childKey := by
  induction xs with
  | nil => rfl
  | cons x xs ih =>
    rw [dedupChildren, List.map_cons, List.map_cons, List.mem_cons, List.mem_cons, ← ih]
    by_cases hkey : key = x.childKey
    · simp only [hkey, true_or]
    · refine or_congr_right ?_
      simp only [List.mem_map, List.mem_filter, decide_eq_true_eq]
      constructor
      · rintro ⟨o, ⟨ho, -⟩, rfl⟩
        exact ⟨o, ho, rfl⟩
      · rintro ⟨o, ho, rfl⟩
        exact ⟨o, ⟨ho, hkey⟩, rfl⟩

/-- Each key is kept once. -/
lemma nodup_map_dedupChildren : ((dedupChildren xs).map ClusterObject.childKey).Nodup := by
  induction xs with
  | nil => exact List.nodup_nil
  | cons x xs ih =>
    rw [dedupChildren, List.map_cons, List.nodup_cons]
    refine ⟨fun hmem => ?_, ih.sublist (List.filter_sublist.map _)⟩
    obtain ⟨o, ho, hkey⟩ := List.mem_map.1 hmem
    exact absurd hkey (by simpa using (List.mem_filter.1 ho).2)

end Dedup

/-! ## What is expected -/

section Expected

variable {tools : Mustache.Tools} {domain : Domain} {source : Placeholders} {c : InMemoryCluster}
  {r : Reference} {children : List ClusterObject} {child : ClusterObject}

/-- What a template on a server gives for a source, nothing if there is no such template. -/
def childOf (tools : Mustache.Tools) (domain : Domain) (source : Placeholders)
    (c : InMemoryCluster) (r : Reference) : Except Failure (List ClusterObject) := do
  match ← c.template? r with
  | none => return []
  | some template => return [stamp domain source r (← template.render tools source)]

/-- The children that a source should have, by the templates on a server: those that the listed
templates give, the first one of each key. -/
def expectedChildren (tools : Mustache.Tools) (domain : Domain) (source : Placeholders)
    (c : InMemoryCluster) : Except Failure (List ClusterObject) := do
  let references ← templateReferences domain source.annotations source.ns
  return dedupChildren (← references.mapM (childOf tools domain source c)).flatten

/-- What a template gives is what it renders to, stamped. -/
private lemma exists_of_childOf (h : childOf tools domain source c r = .ok children)
    (hchild : child ∈ children) : ∃ template rendered, c.template? r = .ok (some template) ∧
      template.render tools source = .ok rendered ∧ child = stamp domain source r rendered := by
  obtain ⟨template, htemplate, h⟩ := exists_of_bind_ok h
  rcases template with _ | template
  · cases h
    cases hchild
  · obtain ⟨rendered, hrendered, h⟩ := exists_of_bind_ok h
    cases h
    exact ⟨template, rendered, htemplate, hrendered, List.mem_singleton.1 hchild⟩

/-- **Expected children.** Each of them comes of a template that the source lists. -/
theorem exists_of_mem_expectedChildren (h : expectedChildren tools domain source c = .ok children)
    (hchild : child ∈ children) : ∃ references,
      templateReferences domain source.annotations source.ns = .ok references ∧
      ∃ r ∈ references, ∃ template rendered, c.template? r = .ok (some template) ∧
        template.render tools source = .ok rendered ∧ child = stamp domain source r rendered := by
  obtain ⟨references, hreferences, h⟩ := exists_of_bind_ok h
  obtain ⟨found, hfound, h⟩ := exists_of_bind_ok h
  cases h
  obtain ⟨given, hgiven, hchild⟩ := List.mem_flatten.1 (mem_of_mem_dedupChildren hchild)
  obtain ⟨r, hmem, hr⟩ := exists_of_forall₂_right (mapM_eq_ok_iff.1 hfound) given hgiven
  exact ⟨references, hreferences, r, hmem, exists_of_childOf hr hchild⟩

/-- Each expected child has a key of its own. -/
theorem nodup_map_expectedChildren (h : expectedChildren tools domain source c = .ok children) :
    (children.map ClusterObject.childKey).Nodup := by
  obtain ⟨references, -, h⟩ := exists_of_bind_ok h
  obtain ⟨found, -, h⟩ := exists_of_bind_ok h
  cases h
  exact nodup_map_dedupChildren

/-- **Same templates.** What is expected depends on a server by its templates alone. -/
theorem expectedChildren_congr {c' : InMemoryCluster}
    (h : ∀ ns name, c'.find? "Template" ns name = c.find? "Template" ns name) :
    expectedChildren tools domain source c' = expectedChildren tools domain source c := by
  have htemplate : c'.template? = c.template? := by
    funext r
    rw [template?, template?, h]
  have hchild : childOf tools domain source c' = childOf tools domain source c := by
    funext r
    rw [childOf, childOf, htemplate]
  rw [expectedChildren, expectedChildren, hchild]

end Expected

/-! ## What is found -/

/-- The expected children are those of the templates, and those found are expected or selected for
the source. All that are selected for it are found. -/
structure ChildSet.Resolved (l : Listing) (tools : Mustache.Tools) (domain : Domain)
    (source : Placeholders) (c : InMemoryCluster) (set : ChildSet) : Prop where
  expected : expectedChildren tools domain source c = .ok set.expected
  found : ∀ o ∈ set.current, ∃ v ∈ c.objects, o.childKey.Names v ∧ o.spec = v.field "spec" ∧
    (o.childKey ∈ set.expected.map ClusterObject.childKey ∨
      l.selects (childSelector domain source) v)
  complete : ∀ v ∈ c.objects, ∀ key : ChildKey, key.Names v →
    l.selects (childSelector domain source) v → key ∈ set.current.map ClusterObject.childKey

namespace ChildSet

variable {l : Listing} {tools : Mustache.Tools} {domain : Domain} {source : Placeholders}
  {c : InMemoryCluster} {set : ChildSet} {o child : ClusterObject} {v : Json} {key : ChildKey}

lemma mem_orphans_iff : o ∈ set.orphans ↔
    o ∈ set.current ∧ o.childKey ∉ set.expected.map ClusterObject.childKey := by
  simp [orphans]

/-- Expected children are ready to be applied. -/
theorem Resolved.stamped (h : set.Resolved l tools domain source c)
    (hchild : child ∈ set.expected) :
    ∃ k ns name, child.Stamped domain source.reference.label k ns name := by
  obtain ⟨-, -, r, -, template, rendered, -, hrender, rfl⟩ :=
    exists_of_mem_expectedChildren h.expected hchild
  obtain ⟨k, hk⟩ := Template.rendered_of_render hrender
  exact ⟨k, hk.stamp domain source r⟩

/-- **Orphans are selected for the source.** -/
theorem Resolved.selected_of_mem_orphans (h : set.Resolved l tools domain source c)
    (ho : o ∈ set.orphans) :
    ∃ v ∈ c.objects, o.childKey.Names v ∧ l.selects (childSelector domain source) v := by
  obtain ⟨hcurrent, hexpected⟩ := mem_orphans_iff.1 ho
  obtain ⟨v, hv, hkey, -, hselected⟩ := h.found o hcurrent
  exact ⟨v, hv, hkey, hselected.resolve_left hexpected⟩

/-- **What is selected is an orphan**, unless it is expected. -/
theorem Resolved.mem_orphans (h : set.Resolved l tools domain source c) (hv : v ∈ c.objects)
    (hkey : key.Names v) (hl : l.selects (childSelector domain source) v)
    (hexpected : key ∉ set.expected.map ClusterObject.childKey) :
    ∃ o ∈ set.orphans, o.childKey = key := by
  obtain ⟨o, ho, rfl⟩ := List.mem_map.1 (h.complete v hv key hkey hl)
  exact ⟨o, mem_orphans_iff.2 ⟨ho, hexpected⟩, rfl⟩

end ChildSet

/-! ## Looking for children -/

section Resolve

variable {Client σ : Type} {answer : (c : OperatorCall Client) → σ → c.Answer × σ} {I : σ → Prop}
  {l : Listing} {tools : Mustache.Tools} {domain : Domain} {source : Placeholders}
  {c : InMemoryCluster} {s t : σ}

/-- A child that was found by its name is there. -/
private lemma names_of_find? (hc : c.WellKept) {k : ChildKind} {ns name : String} {v : Json}
    {o : ClusterObject} (hv : c.find? k.name ns name = some v)
    (ho : ClusterObject.ofJson? v = some o) :
    v ∈ c.objects ∧ o.childKey.Names v ∧ o.childKey = k.key ns name := by
  obtain ⟨hmem, ha⟩ := hc.addressed.find?_eq_some_iff.1 hv
  have hkey := ((hc.kept v hmem k (congrArg Prod.fst ha)).childKey_of_found ha ho).2
  exact ⟨hmem, ⟨k, ns, name, hkey, ha⟩, hkey⟩

/-- The children of one template: what is expected is what it gives, and what is found is
expected. -/
private structure FoundFor (tools : Mustache.Tools) (domain : Domain) (source : Placeholders)
    (c : InMemoryCluster) (r : Reference) (set : ChildSet) : Prop where
  expected : childOf tools domain source c r = .ok set.expected
  found : ∀ o ∈ set.current, (∃ v ∈ c.objects, o.childKey.Names v ∧ o.spec = v.field "spec") ∧
    o.childKey ∈ set.expected.map ClusterObject.childKey

/-- A template is looked for and rendered, and the child of its name is looked for. -/
private lemma exec_resolveReference (hreads : ReadsFrom l c I answer) (hc : c.WellKept)
    {r : Reference} {set : ChildSet} (hs : I s)
    (h : Program.exec (Operator.storeAnswer answer) (resolveReference tools domain source r) s =
      (.ok set, t)) :
    I t ∧ FoundFor tools domain source c r set := by
  obtain ⟨template, s₁, htemplate, h⟩ := Program.exec_bind_ok h
  obtain ⟨hs₁, hreplied⟩ := hreads.run_storeCall (q := .getTemplate r.ns r.name) hs htemplate
  have hfound : c.template? r = .ok template := hreplied template rfl
  rcases template with _ | template
  · cases h
    refine ⟨hs₁, ?_, by simp⟩
    rw [childOf, hfound]
    rfl
  · obtain ⟨rendered, s₂, hpure, h⟩ := Program.exec_bind_ok h
    obtain ⟨hrender, rfl⟩ : template.render tools source = .ok rendered ∧ s₁ = s₂ :=
      Prod.mk.inj hpure
    have hexpected : childOf tools domain source c r = .ok [stamp domain source r rendered] := by
      rw [childOf, hfound]
      change (template.render tools source >>= fun rendered =>
        pure [stamp domain source r rendered]) = _
      rw [hrender]
      rfl
    obtain ⟨k, hk⟩ := Template.rendered_of_render hrender
    obtain ⟨ns, name, hstamped⟩ := hk.stamp domain source r
    dsimp only at h
    rw [hstamped.childKey_eq] at h
    simp only [ChildKind.key, ChildKind.ofName?_name] at h
    obtain ⟨present, s₃, hpresent, h⟩ := Program.exec_bind_ok h
    obtain ⟨hs₃, hreplied⟩ := hreads.run_storeCall (q := .getChild k ns name) hs₁ hpresent
    cases h
    refine ⟨hs₃, hexpected, fun o ho => ?_⟩
    obtain ⟨v, hv, ho⟩ := hreplied present rfl o (by simpa using ho)
    obtain ⟨hmem, hnames, hkey⟩ := names_of_find? hc hv ho
    refine ⟨⟨v, hmem, hnames, ClusterObject.spec_of_ofJson? ho⟩, ?_⟩
    simp [hkey, hstamped.childKey_eq]

/-- Children are listed by asking for them. -/
private lemma exec_listChildren (hreads : ReadsFrom l c I answer) {k : ChildKind}
    {selector : String} {items : List ClusterObject} (hs : I s)
    (h : Program.exec (Operator.storeAnswer answer)
      (StoreWork.call (.listChildren k selector)) s = (.ok items, t)) :
    I t ∧ (StoreCall.listChildren k selector).RepliedFrom l c items :=
  (hreads.run_storeCall (q := .listChildren k selector) hs h).imp_right
    fun hreplied => hreplied items rfl

/-- What is listed was read from objects that are selected, and all of these are listed. -/
private lemma names_of_listed (hc : c.WellKept) {k : ChildKind} {selector : String}
    {items : List ClusterObject}
    (h : (StoreCall.listChildren k selector).RepliedFrom l c items) :
    (∀ o ∈ items, ∃ v ∈ c.objects, o.childKey.Names v ∧ o.spec = v.field "spec" ∧
        l.selects selector v) ∧
      ∀ v ∈ c.objects, ∀ ns name, address v = (some k.name, ns, name) → l.selects selector v →
        k.key ns name ∈ items.map ClusterObject.childKey := by
  have hall := mapM_eq_ok_iff.1 h
  have hread {v : Json} {o : ClusterObject} {ns name : String} (hv : v ∈ c.objects)
      (ha : address v = (some k.name, ns, name)) (ho : Operator.readChild k (l.item v) = .ok o) :=
    (hc.kept v hv k (congrArg Prod.fst ha)).of_listed ha ho
  have hmem {w : Json} : w ∈ l.items c k.name selector ↔ ∃ v ∈ c.objects,
      (v.field "kind").toText? = some k.name ∧ l.selects selector v ∧ l.item v = w := by
    simp [Listing.items, and_assoc]
  refine ⟨fun o ho => ?_, fun v hv ns name ha hl => ?_⟩
  · obtain ⟨w, hw, ho⟩ := exists_of_forall₂_right hall o ho
    obtain ⟨v, hv, hkind, hl, rfl⟩ := hmem.1 hw
    have ha : address v = (some k.name, metadataText "namespace" v, metadataText "name" v) := by
      rw [address, hkind]
    obtain ⟨hkey, hspec⟩ := hread hv ha ho
    exact ⟨v, hv, ⟨k, _, _, hkey, ha⟩, hspec, hl⟩
  · obtain ⟨o, ho, hreadChild⟩ := exists_of_forall₂_left hall _
      (hmem.2 ⟨v, hv, congrArg Prod.fst ha, hl, rfl⟩)
    exact List.mem_map.2 ⟨o, ho, (hread hv ha hreadChild).1⟩

/-- **Looking for children.** It keeps what the requests to read keep, and finds the children there.

**Proof sketch.** The children of each template are found by their names, and the others by the
selector of the source. Of each key one is kept, so none is lost. -/
theorem exec_resolveChildren (hreads : ReadsFrom l c I answer) (hc : c.WellKept) {set : ChildSet}
    (hs : I s) (h : Program.exec (Operator.storeAnswer answer)
      (resolveChildren tools domain source) s = (.ok set, t)) :
    I t ∧ set.Resolved l tools domain source c := by
  obtain ⟨references, s₁, hreferences, h⟩ := Program.exec_bind_ok h
  obtain ⟨hlist, rfl⟩ : templateReferences domain source.annotations source.ns = .ok references ∧
    s = s₁ := Prod.mk.inj hreferences
  obtain ⟨found, s₂, hrendering, h⟩ := Program.exec_bind_ok h
  obtain ⟨hs₂, hfound⟩ := Program.exec_mapM_ok (P := FoundFor tools domain source c)
    (fun hs hstep => exec_resolveReference hreads hc hs hstep) hs hrendering
  obtain ⟨listed, s₃, hlisting, h⟩ := Program.exec_bind_ok h
  obtain ⟨hs₃, hlisted⟩ := Program.exec_mapM_ok
    (P := fun k items =>
      (StoreCall.listChildren k (childSelector domain source)).RepliedFrom l c items)
    (fun hs hstep => exec_listChildren hreads hs hstep) hs₂ hlisting
  cases h
  refine ⟨hs₃, ?_, fun o ho => ?_, ?_⟩
  · have hexpected : references.mapM (childOf tools domain source c) =
        .ok (found.map ChildSet.expected) :=
      mapM_eq_ok_iff.2 (List.forall₂_map_right_iff.2 (hfound.imp fun _ _ hr => hr.expected))
    rw [expectedChildren, hlist]
    change (references.mapM (childOf tools domain source c) >>= fun found =>
      pure (dedupChildren found.flatten)) = _
    rw [hexpected, List.flatMap_def]
    rfl
  · dsimp only
    rw [mem_map_dedupChildren]
    rcases List.mem_append.1 (mem_of_mem_dedupChildren ho) with ho | ho
    · obtain ⟨s, hs, ho⟩ := List.mem_flatMap.1 ho
      obtain ⟨r, -, hr⟩ := exists_of_forall₂_right hfound s hs
      obtain ⟨⟨v, hv, hnames, hspec⟩, hkey⟩ := hr.found o ho
      refine ⟨v, hv, hnames, hspec, .inl ?_⟩
      rw [List.map_flatMap]
      exact List.mem_flatMap.2 ⟨s, hs, hkey⟩
    · obtain ⟨items, hitems, ho⟩ := List.mem_flatten.1 ho
      obtain ⟨k, -, hk⟩ := exists_of_forall₂_right hlisted items hitems
      obtain ⟨v, hv, hnames, hspec, hl⟩ := (names_of_listed hc hk).1 o ho
      exact ⟨v, hv, hnames, hspec, .inr hl⟩
  · rintro v hv _ ⟨k, ns, name, rfl, ha⟩ hl
    obtain ⟨items, hitems, hk⟩ := exists_of_forall₂_left hlisted k k.mem_all
    obtain ⟨o, ho, hkey⟩ := List.mem_map.1 ((names_of_listed hc hk).2 v hv ns name ha hl)
    rw [mem_map_dedupChildren]
    exact List.mem_map.2
      ⟨o, List.mem_append_right _ (List.mem_flatten.2 ⟨items, hitems, ho⟩), hkey⟩

end Resolve

end MonitorSync
