import MonitorSync.Proofs.Json.Containment
import MonitorSync.Proofs.Kube.Metadata
set_option autoImplicit false

/-!
# Specifications in their written form

The objects in a specification that was written have their keys in order, as long as the maps in it
are.

## Main results

* `ServiceSpec.keysInOrder_toJson`, `GroupSpec.keysInOrder_toJson` — the keys in a specification
  that was written are in order.
* `ServiceSpec.increasing_macros_of_ofDatum?` — the macros in a specification that was read are in
  order.
-/

namespace MonitorSync

lemma Policy.keysInOrder_toJson (p : Policy) : p.toJson.KeysInOrder := by
  refine Json.keysInOrder_ofEntries ?_
  rw [List.forall_mem_append]
  refine ⟨by simp, ?_⟩
  split <;> simp

/-- **Specifications of services.** The objects in a specification that was written have their keys
in order, if its macros are in order. -/
theorem ServiceSpec.keysInOrder_toJson {s : ServiceSpec} (hm : s.macros.Increasing) :
    s.toJson.KeysInOrder := by
  refine Json.keysInOrder_ofEntries ?_
  simp only [List.forall_mem_append, List.forall_mem_cons, Json.forall_mem_entry?,
    Json.forall_mem_textEntry, Json.forall_mem_textsEntry]
  simp [hm, s.policy.keysInOrder_toJson]

/-- **Specifications of groups.** The objects in a specification that was written have their keys
in order. -/
theorem GroupSpec.keysInOrder_toJson (g : GroupSpec) : g.toJson.KeysInOrder := by
  refine Json.keysInOrder_ofEntries ?_
  simp only [List.forall_mem_append, List.forall_mem_cons, Json.forall_mem_entry?]
  simp [g.policy.keysInOrder_toJson]

/-- The macros of a specification that is read are in order. -/
lemma ServiceSpec.increasing_macros_of_ofDatum? {d : Datum} {s : ServiceSpec}
    (h : ofDatum? d = some s) : s.macros.Increasing := by
  obtain ⟨f, -, h⟩ := Option.bind_eq_some_iff.1 h
  -- the fields before the macros
  iterate 14 obtain ⟨_, -, h⟩ := Option.bind_eq_some_iff.1 h
  obtain ⟨macros, hmacros, h⟩ := Option.bind_eq_some_iff.1 h
  obtain ⟨policy, -, h⟩ := Option.bind_eq_some_iff.1 h
  cases h
  rw [Datum.Fields.defaulted] at hmacros
  split at hmacros
  · cases hmacros
    exact List.Pairwise.nil
  · exact Metadata.increasing_of_map? hmacros

end MonitorSync
