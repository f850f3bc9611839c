import MonitorSync.Operator.Source
import MonitorSync.Proofs.Kube.Cluster
import MonitorSync.Proofs.Kube.Metadata
set_option autoImplicit false

/-!
# Children on an API server

What a server holds of a child after it was applied.

## Main definitions

* `InMemoryCluster.WellKept` — objects have addresses of their own, and children are in order.
* `IsChild` — a child in its written form.
* `Carries` — an object carries a label.
* `ClusterObject.Stamped` — a child that is ready to be applied.
* `AppliedAs` — an object as it is after a child was applied.

## Main results

* `ClusterObject.Stamped.appliedAs` — applying a child makes it so.
* `InMemoryCluster.WellKept.put`, `InMemoryCluster.WellKept.remove` — a server stays well kept.
-/

namespace MonitorSync

open InMemoryCluster

/-! ## Servers -/

/-- An object of the operator's own kinds as a server keeps it: it says its version, and its
metadata is an object in order that has a name. -/
structure IsKept (o : Json) : Prop where
  apiVersion : o.get? "apiVersion" = some (.str monitorApiVersion)
  metadata : ∃ m : KeyMap Json, o.get? "metadata" = some (.ofMap m) ∧ m.Increasing ∧
    ∃ name, m.get? "name" = some (.str name)

namespace InMemoryCluster

/-- Objects have addresses of their own, and those of the operator's kinds are kept as such. -/
structure WellKept (c : InMemoryCluster) : Prop where
  addressed : c.Addressed
  kept : ∀ o ∈ c.objects, ∀ k : ChildKind, (o.field "kind").toText? = some k.name → IsKept o

end InMemoryCluster

/-- A field of metadata that is an object. -/
lemma field_metadata {o : Json} {m : KeyMap Json} (hm : o.get? "metadata" = some (.ofMap m))
    (key : String) : (o.field "metadata").field key = (m.get? key).getD .null := by
  rw [Json.field_eq hm]
  rfl

/-- A change of metadata that is not to the name keeps an object. -/
lemma IsKept.setMetadata {o v : Json} {key : String} (h : IsKept o) (hkey : key ≠ "name") :
    IsKept (setMetadata o key v) := by
  obtain ⟨m, hm, hmo, name, hname⟩ := h.metadata
  refine ⟨(get?_setMetadata_of_ne (by decide)).trans h.apiVersion, m.insert key v, ?_, ?_, name, ?_⟩
  · exact get?_metadata_setMetadata hm ⟨m, rfl, hmo⟩
  · exact KeyMap.pairwise_insertEntry hmo
  · rw [KeyMap.get?_insert, if_neg hkey, hname]

/-- **A change keeps a server.** What becomes of an object has its address and is kept as it was. -/
theorem InMemoryCluster.WellKept.update {c : InMemoryCluster} {kind ns name : String}
    {f : Json → Option Json} (hc : c.WellKept)
    (hf : ∀ o t, f o = some t → address t = address o ∧ (IsKept o → IsKept t)) :
    (c.update kind ns name f).WellKept := by
  refine ⟨hc.addressed.update fun o t h => (hf o t h).1, fun o ho k hk => ?_⟩
  rcases (mem_update hc.addressed).1 ho with ⟨ho, -⟩ | ⟨x, hx, -, hfx⟩
  · exact hc.kept o ho k hk
  · obtain ⟨haddress, hkept⟩ := hf x o hfx
    exact hkept (hc.kept x hx k ((congrArg Prod.fst haddress).symm.trans hk))

/-- **Removing keeps a server.** What is left of an object that is to be deleted is kept. -/
theorem InMemoryCluster.WellKept.remove {c : InMemoryCluster} {kind ns name : String}
    (hc : c.WellKept) : (c.remove kind ns name).WellKept := by
  refine hc.update fun o t hmark => ⟨address_of_markDeleted hmark, fun hkept => ?_⟩
  rw [markDeleted] at hmark
  split at hmark
  · cases hmark
    exact hkept.setMetadata (by decide)
  · cases hmark

/-- **Putting keeps a server.** -/
theorem InMemoryCluster.WellKept.put {c : InMemoryCluster} {kind ns name : String} {o : Json}
    (hc : c.WellKept) (ha : address o = (some kind, ns, name)) (ho : IsKept o) :
    (c.put kind ns name o).WellKept := by
  refine ⟨hc.addressed.put ha, fun t ht j hj => ?_⟩
  rcases (mem_put hc.addressed).1 ht with rfl | ⟨ht, -⟩
  · exact ho
  · exact hc.kept t ht j hj

/-! ## Children in their written form -/

/-- Whether an object carries a label. -/
def Carries (key value : String) (o : Json) : Prop :=
  ((o.field "metadata").field "labels").get? key = some (.str value)

/-- A selector asks for its label, if the key has no equals sign. -/
private lemma selectedLabel_append {key value : String} (h : '=' ∉ key.toList) :
    selectedLabel (key ++ "=" ++ value) = (key, value) := by
  have hlist : (key ++ "=" ++ value).toList = key.toList ++ '=' :: value.toList := by simp
  have hkey : ∀ c ∈ key.toList, (decide (c ≠ '=')) = true := fun c hc =>
    decide_eq_true fun heq => h (heq ▸ hc)
  rw [selectedLabel, hlist, List.takeWhile_append_of_pos hkey, List.dropWhile_append_of_pos hkey]
  simp

/-- **Selection by label.** A selector selects what carries its label, if the key has no equals
sign. -/
theorem isLabelled_append_iff {key value : String} {o : Json} (h : '=' ∉ key.toList) :
    isLabelled (key ++ "=" ++ value) o ↔ Carries key value o := by
  rw [isLabelled, selectedLabel_append h, Carries]
  generalize (o.field "metadata").field "labels" = labels
  rw [decide_eq_true_eq, Json.field]
  rcases labels.get? key with _ | v
  · simp [Json.toText?]
  · cases v <;> simp [Json.toText?]

/-- A child of a kind, namespace and name in its written form. -/
structure IsChild (k : ChildKind) (ns name : String) (o : Json) : Prop where
  apiVersion : o.get? "apiVersion" = some (.str monitorApiVersion)
  kind : o.get? "kind" = some (.str k.name)
  metadata : ∃ m : KeyMap Json, o.get? "metadata" = some (.ofMap m) ∧ m.Increasing ∧
    m.get? "name" = some (.str name) ∧ m.get? "namespace" = some (.str ns)

namespace IsChild

variable {k : ChildKind} {ns name : String} {o : Json}

lemma isKept (h : IsChild k ns name o) : IsKept o := by
  obtain ⟨m, hm, hinc, hname, -⟩ := h.metadata
  exact ⟨h.apiVersion, m, hm, hinc, name, hname⟩

lemma address_eq (h : IsChild k ns name o) : address o = (some k.name, ns, name) := by
  obtain ⟨m, hm, -, hname, hns⟩ := h.metadata
  rw [address, metadataText, metadataText, field_metadata hm, field_metadata hm, hname, hns,
    Json.field_eq h.kind]
  rfl

end IsChild

/-! ## Children to apply -/

/-- A child that is ready to be applied: its kind, namespace and name are known, its content is in
order, its specification is found in itself, and it carries the label of its source. -/
structure ClusterObject.Stamped (domain : Domain) (label : String) (k : ChildKind)
    (ns name : String) (o : ClusterObject) : Prop where
  types : o.types = some k.type
  content : ∀ key ∈ ["apiVersion", "kind", "metadata"], o.content.get? key = none
  increasing : o.content.Increasing
  spec : o.spec.contains o.spec
  ns : o.metadata.ns = some ns
  name : o.metadata.name = some name
  labels : ∃ labels : KeyMap String, o.metadata.labels = some labels ∧ labels.Increasing ∧
    labels.get? domain.parentLabel = some label

/-- An object as it is after a child was applied for a source. -/
structure AppliedAs (domain : Domain) (label : String) (owner : Option OwnerReference)
    (k : ChildKind) (ns name : String) (o : Json) : Prop where
  apiVersion : o.get? "apiVersion" = some (.str monitorApiVersion)
  kind : o.get? "kind" = some (.str k.name)
  metadata : ∃ m : KeyMap Json, o.get? "metadata" = some (.ofMap m) ∧ m.Increasing ∧
    m.get? "name" = some (.str name) ∧ m.get? "namespace" = some (.str ns) ∧
    (m.get? "labels").bind (Json.get? domain.parentLabel) = some (.str label) ∧
    ∀ r ∈ owner, m.get? "ownerReferences" = some (.arr [r.toJson])

/-! ## Written forms -/

section Written

variable {key k : String} {v : Option Json}

/-- An entry that may be left out. -/
private lemma lookup_entry? :
    KeyMap.lookup key (Json.entry? k v).reverse = if k = key then v else none := by
  rcases v with _ | v
  · rw [ite_self]
    rfl
  · rfl

/-- What is known of an object stands in the written form of its metadata. -/
lemma Metadata.get?_toJson (m : Metadata) :
    (∀ name, m.name = some name → m.toJson.get? "name" = some (.str name)) ∧
    (∀ ns, m.ns = some ns → m.toJson.get? "namespace" = some (.str ns)) ∧
    (∀ labels, m.labels = some labels → m.toJson.get? "labels" = some (.textMap labels)) ∧
    (∀ owners, m.ownerReferences = some owners → m.toJson.get? "ownerReferences" =
      some (.arr (owners.map OwnerReference.toJson))) := by
  simp only [toJson, Json.get?_ofEntries, List.reverse_append, KeyMap.lookup_append, lookup_entry?]
  refine ⟨fun name h => ?_, fun ns h => ?_, fun labels h => ?_, fun owners h => ?_⟩
  all_goals simp [h]

/-- The fields of a child in its written form: its content has no type and no metadata. -/
lemma ClusterObject.get?_toJson {o : ClusterObject} {t : ObjectType}
    (ht : o.types = some t)
    (hcontent : ∀ key ∈ ["apiVersion", "kind", "metadata"], o.content.get? key = none) :
    o.toJson.get? "apiVersion" = some (.str t.apiVersion) ∧
      o.toJson.get? "kind" = some (.str t.kind) ∧
      o.toJson.get? "metadata" = some o.metadata.toJson := by
  have hlast (key : String) (hkey : o.content.get? key = none) :
      KeyMap.lookup key o.content.toList.reverse = none := by
    rw [KeyMap.get?_eq_none_iff] at hkey
    rw [KeyMap.lookup_eq_none_iff, List.map_reverse, List.mem_reverse]
    exact hkey
  simp only [toJson, Json.get?_ofEntries, List.reverse_append, KeyMap.lookup_append, ht]
  refine ⟨?_, ?_, ?_⟩
  · rw [hlast _ (hcontent _ (by simp))]
    rfl
  · rw [hlast _ (hcontent _ (by simp))]
    rfl
  · rw [hlast _ (hcontent _ (by simp))]
    rfl

/-- The specification of an object whose content is in order, in the written form. -/
lemma ClusterObject.field_spec_toJson {o : ClusterObject} (hinc : o.content.Increasing) :
    o.toJson.field "spec" = o.spec := by
  have hget : o.toJson.get? "spec" = o.content.get? "spec" := by
    have hcontent : KeyMap.lookup "spec" o.content.toList.reverse = o.content.get? "spec" :=
      KeyMap.lookup_reverse hinc.nodup
    rw [toJson, Json.get?_ofEntries, List.reverse_append, List.reverse_append,
      KeyMap.lookup_append, KeyMap.lookup_append, hcontent]
    rcases o.types with _ | t <;> exact Option.or_none
  rw [Json.field, hget]
  rfl

/-- The texts of a map in its written form. -/
lemma get?_textMap {m : KeyMap String} :
    (Json.textMap m).get? key = (m.get? key).map .str :=
  KeyMap.lookup_map Json.str

end Written

/-! ## Applying -/

section Apply

variable {domain : Domain} {label : String} {owner : Option OwnerReference} {k : ChildKind}
  {ns name : String} {o : Json} {child : ClusterObject} {c : InMemoryCluster}

/-- A text replaces what it is merged into. -/
private lemma merge_str (target : Json) (s : String) : target.merge (.str s) = .str s := by
  rw [Json.merge]

/-- A list replaces what it is merged into. -/
private lemma merge_arr (target : Json) (items : List Json) :
    target.merge (.arr items) = .arr items := by
  rw [Json.merge]

/-- Metadata of a child that was merged into other metadata. -/
private lemma exists_merge_metadata {m : Metadata} {target : Json}
    (htarget : target.Ordered ∨ target.isObject = false) (hns : m.ns = some ns)
    (hname : m.name = some name)
    (hlabels : ∃ labels : KeyMap String, m.labels = some labels ∧ labels.Increasing ∧
      labels.get? domain.parentLabel = some label)
    (howner : m.ownerReferences = owner.map fun r => [r]) :
    ∃ merged : KeyMap Json, target.merge m.toJson = .ofMap merged ∧ merged.Increasing ∧
      merged.get? "name" = some (.str name) ∧ merged.get? "namespace" = some (.str ns) ∧
      (merged.get? "labels").bind (Json.get? domain.parentLabel) = some (.str label) ∧
      ∀ r ∈ owner, merged.get? "ownerReferences" = some (.arr [r.toJson]) := by
  obtain ⟨n, hn, hinc⟩ : m.toJson.Ordered := Json.ordered_ofEntries
  obtain ⟨hgetName, hgetNs, hgetLabels, hgetOwners⟩ := m.get?_toJson
  obtain ⟨labels, hl, hlinc, hlabel⟩ := hlabels
  have hget (key : String) : (target.merge m.toJson).get? key =
      (m.toJson.get? key).elim (target.get? key) fun v =>
        some (((target.get? key).getD .null).merge v) := by
    rw [hn]
    exact Json.get?_merge hinc
  obtain ⟨merged, hmerged, hminc⟩ : (target.merge m.toJson).Ordered :=
    hn ▸ Json.Ordered.merge htarget
  have hfield (key : String) : merged.get? key = (target.merge m.toJson).get? key := by
    rw [hmerged]
    rfl
  refine ⟨merged, hmerged, hminc, ?_, ?_, ?_, ?_⟩
  · rw [hfield, hget, hgetName name hname]
    exact congrArg some (merge_str _ _)
  · rw [hfield, hget, hgetNs ns hns]
    exact congrArg some (merge_str _ _)
  · rw [hfield, hget, hgetLabels labels hl]
    refine (Json.get?_merge (KeyMap.increasing_map hlinc)).trans ?_
    have hstr : (labels.map Json.str).get? domain.parentLabel = some (.str label) :=
      get?_textMap.trans (by rw [hlabel]; rfl)
    rw [hstr]
    exact congrArg some (merge_str _ _)
  · intro r hr
    rw [Option.mem_def.1 hr] at howner
    rw [hfield, hget, hgetOwners [r] howner]
    exact congrArg some (merge_arr _ _)

/-- **Applying into an object.** Whatever a child is merged into, it is there afterwards. -/
theorem ClusterObject.Stamped.appliedAs_merge (h : child.Stamped domain label k ns name)
    (htarget : o.get? "metadata" = none ∨
      ∃ m : KeyMap Json, o.get? "metadata" = some (.ofMap m) ∧ m.Increasing) :
    AppliedAs domain label owner k ns name (o.merge (child.toApply owner).toJson) := by
  obtain ⟨n, hn, hinc⟩ : (child.toApply owner).toJson.Ordered := Json.ordered_ofEntries
  obtain ⟨hversion, hkind, hmetadata⟩ :=
    ClusterObject.get?_toJson (o := child.toApply owner) h.types h.content
  have hget (key : String) : (o.merge (child.toApply owner).toJson).get? key =
      ((child.toApply owner).toJson.get? key).elim (o.get? key) fun v =>
        some (((o.get? key).getD .null).merge v) := by
    rw [hn]
    exact Json.get?_merge hinc
  have hold : ((o.get? "metadata").getD .null).Ordered ∨
      ((o.get? "metadata").getD .null).isObject = false := by
    rcases htarget with h | ⟨m, h, hm⟩
    · exact .inr (by rw [h]; rfl)
    · exact .inl (by rw [h]; exact ⟨m, rfl, hm⟩)
  have howner : (child.toApply owner).metadata.ownerReferences = owner.map fun r => [r] := rfl
  obtain ⟨merged, hmerged, hrest⟩ := exists_merge_metadata
    (m := (child.toApply owner).metadata) hold h.ns h.name h.labels howner
  refine ⟨?_, ?_, merged, ?_, hrest⟩
  · rw [hget, hversion]
    cases k <;> exact congrArg some (merge_str _ _)
  · rw [hget, hkind]
    exact congrArg some (merge_str _ _)
  · rw [hget, hmetadata]
    exact congrArg some hmerged

namespace AppliedAs

/-- What the server adds to metadata takes nothing away. -/
lemma setMetadata (h : AppliedAs domain label owner k ns name o) {key : String} {v : Json}
    (hkey : key ∉ ["name", "namespace", "labels", "ownerReferences"]) :
    AppliedAs domain label owner k ns name (InMemoryCluster.setMetadata o key v) := by
  obtain ⟨m, hm, hinc, hname, hns, hlabel, howner⟩ := h.metadata
  simp only [List.mem_cons, List.not_mem_nil, or_false, not_or] at hkey
  obtain ⟨hkname, hkns, hklabels, hkowner⟩ := hkey
  refine ⟨?_, ?_, m.insert key v, ?_, KeyMap.pairwise_insertEntry hinc, ?_, ?_, ?_, ?_⟩
  · exact (get?_setMetadata_of_ne (by decide)).trans h.apiVersion
  · exact (get?_setMetadata_of_ne (by decide)).trans h.kind
  · exact get?_metadata_setMetadata hm ⟨m, rfl, hinc⟩
  · rw [KeyMap.get?_insert, if_neg hkname, hname]
  · rw [KeyMap.get?_insert, if_neg hkns, hns]
  · rw [KeyMap.get?_insert, if_neg hklabels, hlabel]
  · intro r hr
    rw [KeyMap.get?_insert, if_neg hkowner, howner r hr]

lemma isChild (h : AppliedAs domain label owner k ns name o) : IsChild k ns name o := by
  obtain ⟨m, hm, hinc, hname, hns, -⟩ := h.metadata
  exact ⟨h.apiVersion, h.kind, m, hm, hinc, hname, hns⟩

/-- A child is applied under its own address. -/
lemma address_eq (h : AppliedAs domain label owner k ns name o) :
    address o = (some k.name, ns, name) :=
  h.isChild.address_eq

/-- A child carries the label of its source. -/
lemma label_eq (h : AppliedAs domain label owner k ns name o) :
    ((o.field "metadata").field "labels").get? domain.parentLabel = some (.str label) := by
  obtain ⟨m, hm, -, -, -, hlabel, -⟩ := h.metadata
  obtain ⟨labels, hlabels, hl⟩ := Option.bind_eq_some_iff.1 hlabel
  rw [field_metadata hm, hlabels, Option.getD_some, hl]

end AppliedAs

/-- **Applying.** A well kept server holds a child as it was applied. -/
theorem ClusterObject.Stamped.appliedAs (hc : c.WellKept)
    (h : child.Stamped domain label k ns name) :
    AppliedAs domain label owner k ns name
      (c.applied k.type.kind ns name (child.toApply owner).toJson) := by
  rw [applied]
  rcases hfound : c.find? k.type.kind ns name with _ | x
  · exact ((h.appliedAs_merge (o := .obj []) (.inl rfl)).setMetadata (by decide)).setMetadata
      (by decide)
  · obtain ⟨hx, ha⟩ := hc.addressed.find?_eq_some_iff.1 hfound
    obtain ⟨m, hm, hinc, -⟩ := (hc.kept x hx k (congrArg Prod.fst ha)).metadata
    exact h.appliedAs_merge (.inr ⟨m, hm, hinc⟩)

end Apply

end MonitorSync
