import MonitorSync.Proofs.Child.Kind
import MonitorSync.Proofs.Child.Stored
import MonitorSync.Proofs.Kube.Object
set_option autoImplicit false

/-!
# Children that templates produce

A template produces a child of one of the known kinds, whatever its body says. Once such a child is
stamped, it is ready to be applied.

## Main definitions

* `ClusterObject.Rendered` — a child of a known kind whose parts are in order.

## Main results

* `Template.rendered_of_render` — what a template produces is such a child.
* `ClusterObject.Rendered.stamp` — a stamped child is ready to be applied.
-/

namespace MonitorSync

/-- A child of a known kind, whose content has no type and no metadata, whose content and labels are
in order, and whose specification is found in itself. -/
structure ClusterObject.Rendered (k : ChildKind) (o : ClusterObject) : Prop where
  types : o.types = some k.type
  content : ∀ key ∈ ["apiVersion", "kind", "metadata"], o.content.get? key = none
  increasing : o.content.Increasing
  spec : o.spec.contains o.spec
  labels : ∀ labels, o.metadata.labels = some labels → labels.Increasing

/-- A resource in its written form is read as an object of its type with its specification, and no
part of the type or of the metadata is left in the content. -/
lemma ClusterObject.parts_of_toJson {Spec Status : Type} {specToJson : Spec → Json}
    {statusToJson : Status → Json} {t : ObjectType} {resource : Resource Spec Status}
    {o : ClusterObject} (h : ofJson? (resource.toJson specToJson statusToJson t) = some o) :
    o.types = some t ∧ (∀ key ∈ ["apiVersion", "kind", "metadata"], o.content.get? key = none) ∧
      o.spec = specToJson resource.spec := by
  have hget {key : String} {value : Json}
      (hvalue : KeyMap.lookup key (([("apiVersion", .str t.apiVersion), ("kind", .str t.kind),
        ("metadata", resource.metadata.toJson), ("spec", specToJson resource.spec)] ++
        Json.entry? "status" (resource.status.map statusToJson)).reverse) = some value) :
      (resource.toJson specToJson statusToJson t).get? key = some value :=
    Json.get?_ofEntries.trans hvalue
  have htypes := types_of_ofJson? h (hget (by rcases resource.status with _ | _ <;> rfl))
    (hget (by rcases resource.status with _ | _ <;> rfl))
  exact ⟨htypes.1, htypes.2,
    (spec_of_ofJson? h).trans (Json.field_eq (hget (by rcases resource.status with _ | _ <;> rfl)))⟩

/-- A child in its written form is read as a child of its kind. -/
private lemma ClusterObject.rendered_of_toJson {Spec Status : Type} {specToJson : Spec → Json}
    {statusToJson : Status → Json} {k : ChildKind} {resource : Resource Spec Status}
    {o : ClusterObject}
    (hspec : (specToJson resource.spec).contains (specToJson resource.spec))
    (h : ofJson? (resource.toJson specToJson statusToJson k.type) = some o) : o.Rendered k := by
  obtain ⟨htypes, hcontent, hread⟩ := parts_of_toJson h
  refine ⟨htypes, hcontent, increasing_content_of_ofJson? h Json.ordered_ofEntries, hread ▸ hspec,
    fun labels hlabels => ?_⟩
  rcases metadata_of_ofJson? h with ⟨-, hm⟩ | ⟨m, -, hm⟩
  · rw [hm] at hlabels
    cases hlabels
  · exact Metadata.increasing_labels_of_ofDatum? hm hlabels

/-- A full child is one of its kind. -/
private lemma ChildKind.rendered_of_readObject {k : ChildKind} {template text : String}
    {o : ClusterObject} (h : k.readObject template text = .ok o) : o.Rendered k := by
  obtain ⟨d, r, -, hr, ho⟩ := readObject_eq_ok_iff.1 h
  have hspec := Json.contains_refl (keysInOrder_specToJson (inOrder_of_resource? hr))
  exact ClusterObject.rendered_of_toJson hspec ho

/-- A sequence succeeds only if both of its parts do. -/
lemma exists_of_bind_ok {ε α β : Type} {x : Except ε α} {f : α → Except ε β} {b : β}
    (h : (x >>= f) = .ok b) : ∃ a, x = .ok a ∧ f a = .ok b := by
  rcases x with e | a
  · cases h
  · exact ⟨a, rfl, h⟩

namespace Template

variable {tools : Mustache.Tools} {t : Template} {source p : Placeholders} {text : String}
  {o : ClusterObject}

/-- A child of a fixed kind has just a specification. -/
private lemma rendered_of_typedChild {k : ChildKind} (h : t.typedChild tools k p text = .ok o) :
    o.Rendered k := by
  obtain ⟨spec, hspec, h⟩ := exists_of_bind_ok h
  obtain ⟨name, -, h⟩ := exists_of_bind_ok h
  cases h
  obtain ⟨s, hs, -, rfl⟩ := ChildKind.readSpec_eq_ok_iff.1 hspec
  obtain ⟨d, -, hs⟩ := Option.bind_eq_some_iff.1 hs
  refine ⟨rfl, fun key hkey => ?_, KeyMap.increasing_ofList,
    Json.contains_refl (ChildKind.keysInOrder_specToJson (ChildKind.inOrder_of_specOfDatum? hs)),
    fun labels hlabels => by cases hlabels⟩
  rw [KeyMap.get?_ofList, KeyMap.lookup_eq_none_iff]
  rintro hspec
  obtain rfl : key = "spec" := by simpa using hspec
  simp at hkey

/-- A child that says its kind is one of that kind. -/
private lemma rendered_of_fullChild (h : t.fullChild text = .ok o) : ∃ k, o.Rendered k := by
  rw [fullChild] at h
  split at h
  · obtain ⟨v, hv, h⟩ := exists_of_bind_ok h
    dsimp only at h
    split at h
    · exact ⟨_, ChildKind.rendered_of_readObject h⟩
    · cases h
  · cases h

/-- **Rendering.** What a template produces is a child of a known kind. -/
theorem rendered_of_render (h : t.render tools source = .ok o) : ∃ k, o.Rendered k := by
  obtain ⟨text, -, h⟩ := exists_of_bind_ok h
  obtain ⟨kind, -, h⟩ := exists_of_bind_ok h
  rcases kind with _ | k
  · exact rendered_of_fullChild h
  · exact ⟨k, rendered_of_typedChild h⟩

end Template

/-- **Stamping.** A stamped child is ready to be applied for its source. -/
theorem ClusterObject.Rendered.stamp {k : ChildKind} {o : ClusterObject} (h : o.Rendered k)
    (domain : Domain) (source : Placeholders) (r : Reference) :
    ∃ ns name, (MonitorSync.stamp domain source r o).Stamped domain source.reference.label k ns
      name := by
  refine ⟨_, _, h.types, h.content, h.increasing, h.spec, rfl, rfl, _, rfl, ?_, ?_⟩
  · have hbase : (o.metadata.labels.getD .empty).Increasing := by
      rcases hlabels : o.metadata.labels with _ | labels
      · exact List.Pairwise.nil
      · exact h.labels labels hlabels
    exact KeyMap.pairwise_insertEntry (KeyMap.pairwise_insertEntry
      (KeyMap.increasing_extendList hbase))
  · rw [KeyMap.get?_insert, if_pos rfl]

end MonitorSync
