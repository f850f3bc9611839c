import MonitorSync.Kube.Object
import MonitorSync.Proofs.Kube.Metadata
set_option autoImplicit false

/-!
# Reading cluster objects

## Main results

* `ClusterObject.types_of_ofJson?`, `ClusterObject.types_of_ofJson?_untyped` — the type that is
  read.
* `ClusterObject.metadata_of_ofJson?` — the metadata that is read.
* `ClusterObject.spec_of_ofJson?` — the specification that is read.
* `ClusterObject.increasing_content_of_ofJson?` — the content of an object is read in order.
-/

namespace MonitorSync

namespace ClusterObject

variable {entries : KeyMap Json} {v : Json} {o : ClusterObject} {key apiVersion kind : String}

/-- The parts of an object that is read. -/
private lemma of_ofJson? (h : ofJson? v = some o) :
    ∃ entries : KeyMap Json, v = .ofMap entries ∧ o.types = (splitType entries).1 ∧
      o.content = (splitType entries).2.erase "metadata" ∧
      ((splitType entries).2.get? "metadata" = none ∧ o.metadata = {} ∨
        ∃ m, (splitType entries).2.get? "metadata" = some m ∧
          Metadata.ofDatum? (.ofJson m) = some o.metadata) := by
  cases v with
  | obj entries =>
    rw [ofJson?] at h
    dsimp only at h
    split at h
    · next hnone =>
      cases h
      exact ⟨⟨entries⟩, rfl, rfl, rfl, .inl ⟨hnone, rfl⟩⟩
    · next m hsome =>
      obtain ⟨metadata, hmetadata, h⟩ := Option.bind_eq_some_iff.1 h
      cases h
      exact ⟨⟨entries⟩, rfl, rfl, rfl, .inr ⟨m, hsome, hmetadata⟩⟩
  | _ => cases h

/-- The fields that remain when the type is taken apart. -/
private lemma get?_splitType (hversion : "apiVersion" ≠ key) (hkind : "kind" ≠ key) :
    (splitType entries).2.get? key = entries.get? key := by
  unfold splitType
  split <;> simp only [KeyMap.get?_erase, if_neg hversion, if_neg hkind]

/-- The metadata that is read is that of the object. -/
theorem metadata_of_ofJson? (h : ofJson? v = some o) :
    v.get? "metadata" = none ∧ o.metadata = {} ∨
      ∃ m, v.get? "metadata" = some m ∧ Metadata.ofDatum? (.ofJson m) = some o.metadata := by
  obtain ⟨entries, rfl, -, -, hmetadata⟩ := of_ofJson? h
  rw [get?_splitType (by decide) (by decide)] at hmetadata
  exact hmetadata

/-- An object that says its version and kind is read with its type, and no part of that or of the
metadata is left in its content. -/
theorem types_of_ofJson? (h : ofJson? v = some o)
    (hversion : v.get? "apiVersion" = some (.str apiVersion))
    (hkind : v.get? "kind" = some (.str kind)) :
    o.types = some ⟨apiVersion, kind⟩ ∧
      ∀ key ∈ ["apiVersion", "kind", "metadata"], o.content.get? key = none := by
  obtain ⟨entries, rfl, htypes, hcontent, -⟩ := of_ofJson? h
  have hsplit : splitType entries =
      (some ⟨apiVersion, kind⟩, (entries.erase "apiVersion").erase "kind") := by
    have hv : entries.get? "apiVersion" = some (.str apiVersion) := hversion
    have hk : entries.get? "kind" = some (.str kind) := hkind
    rw [splitType, hv, hk]
  rw [htypes, hcontent, hsplit]
  refine ⟨rfl, ?_⟩
  simp [KeyMap.get?_erase]

/-- An object that does not say its version is read without a type. -/
theorem types_of_ofJson?_untyped (h : ofJson? v = some o)
    (hversion : v.get? "apiVersion" = none) : o.types = none := by
  obtain ⟨entries, rfl, htypes, -⟩ := of_ofJson? h
  have hv : entries.get? "apiVersion" = none := hversion
  rw [htypes, splitType, hv]

/-- The specification that is read is that of the object. -/
theorem spec_of_ofJson? (h : ofJson? v = some o) : o.spec = v.field "spec" := by
  obtain ⟨entries, rfl, -, hcontent, -⟩ := of_ofJson? h
  rw [spec, hcontent, KeyMap.get?_erase, if_neg (by decide),
    get?_splitType (by decide) (by decide)]
  rfl

/-- The content of an object whose fields are in order is in order. -/
theorem increasing_content_of_ofJson? (h : ofJson? v = some o) (hv : v.Ordered) :
    o.content.Increasing := by
  obtain ⟨entries, rfl, -, hcontent, -⟩ := of_ofJson? h
  have hinc := Json.ordered_ofMap.1 hv
  have hrest : (splitType entries).2.Increasing := by
    unfold splitType
    split <;> simp only [hinc.erase, KeyMap.Increasing.erase]
  rw [hcontent]
  exact hrest.erase

end ClusterObject

end MonitorSync
