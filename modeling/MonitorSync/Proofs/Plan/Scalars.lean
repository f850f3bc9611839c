import MonitorSync.Proofs.KeyMap
import MonitorSync.Proofs.Remote.Changes
import MonitorSync.Service.Plan
set_option autoImplicit false

/-!
# Changing scalars

A plan holds the scalars that differ as a map from parameters to values. They are set one by one,
the rename first, since it changes the name by which the others are set. Services and groups are
alike in this.

## Main definitions

* `scalarCalls` — the calls that set the scalars of a plan.
* `Settable` — what is asked of the scalars of an element so that they can be set one by one.

## Main results

* `get?_changedParams` — a plan has the value wanted exactly for scalars that differ.
* `Settable.changeAll?_scalarCalls` — after the calls of a plan, every scalar of the plan has its
  value and every other one is as it was.
-/

namespace MonitorSync

variable {σ : Type}

/-! ## The scalars of a plan -/

section Changed

variable {scalars : List (Scalar σ)} {actual expected : σ} {ignored : List String}

/-- The entries of a plan before they are made a map. -/
private def changedEntries (scalars : List (Scalar σ)) (actual expected : σ)
    (ignored : List String) : List (String × String) :=
  scalars.filterMap fun s =>
    if ignored.contains s.field || s.read actual = s.read expected then none
    else some (s.param, s.read expected)

private lemma fst_changedEntries_sublist :
    ((changedEntries scalars actual expected ignored).map Prod.fst).Sublist
      (scalars.map Scalar.param) := by
  induction scalars with
  | nil => exact List.Sublist.slnil
  | cons s scalars ih =>
    rw [changedEntries, List.filterMap_cons, List.map_cons]
    split
    · exact ih.cons _
    · next e he =>
      obtain ⟨-, rfl⟩ := by simpa using he
      exact ih.cons_cons _

/-- A plan sets parameters of scalars only. -/
lemma mem_params_of_mem_changedParams {param : String}
    (h : param ∈ (changedParams scalars actual expected ignored).keys) :
    param ∈ scalars.map Scalar.param :=
  fst_changedEntries_sublist.subset (KeyMap.mem_keys_ofList.1 h)

/-- A plan keeps its parameters in order. -/
lemma increasing_changedParams : (changedParams scalars actual expected ignored).Increasing :=
  KeyMap.increasing_ofList

/-- A plan sets no parameter of a scalar that is ignored. -/
lemma exists_scalar_of_mem_changedParams {param : String}
    (h : param ∈ (changedParams scalars actual expected ignored).keys) :
    ∃ s ∈ scalars, s.param = param ∧ s.field ∉ ignored := by
  obtain ⟨e, he, rfl⟩ := List.mem_map.1 (KeyMap.mem_keys_ofList.1 h)
  obtain ⟨s, hs, hse⟩ := List.mem_filterMap.1 he
  split at hse
  · cases hse
  · next hdiffer =>
    cases hse
    exact ⟨s, hs, rfl, fun hi => hdiffer (by simp [hi])⟩

/-- **The values of a plan.** A plan has the value wanted for every scalar that differs and is not
ignored, and no value for any other one. -/
theorem get?_changedParams (hn : (scalars.map Scalar.param).Nodup) {s : Scalar σ}
    (hs : s ∈ scalars) :
    (changedParams scalars actual expected ignored).get? s.param =
      if ignored.contains s.field || s.read actual = s.read expected then none
      else some (s.read expected) := by
  have hentries : ((changedEntries scalars actual expected ignored).map Prod.fst).Nodup :=
    hn.sublist fst_changedEntries_sublist
  rw [changedParams, KeyMap.get?_ofList]
  change KeyMap.lookup _ (changedEntries scalars actual expected ignored).reverse = _
  rw [KeyMap.lookup_reverse hentries]
  split
  · next hsame =>
    rw [KeyMap.lookup_eq_none_iff]
    intro hmem
    obtain ⟨e, he, hparam⟩ := List.mem_map.1 hmem
    obtain ⟨t, ht, hte⟩ := List.mem_filterMap.1 he
    split at hte
    · cases hte
    · next hdiffer =>
      cases hte
      obtain rfl : t = s := List.inj_on_of_nodup_map hn ht hs hparam
      exact hdiffer hsame
  · next hdiffer =>
    refine KeyMap.lookup_of_mem hentries (List.mem_filterMap.2 ⟨s, hs, ?_⟩)
    rw [if_neg hdiffer]

/-- The value of a scalar after a plan is the wanted one, or the old one if it is ignored. -/
theorem getD_get?_changedParams (hn : (scalars.map Scalar.param).Nodup) {s : Scalar σ}
    (hs : s ∈ scalars) :
    ((changedParams scalars actual expected ignored).get? s.param).getD (s.read actual) =
      if ignored.contains s.field then s.read actual else s.read expected := by
  rw [get?_changedParams hn hs]
  by_cases hi : s.field ∈ ignored <;> by_cases hr : s.read actual = s.read expected <;>
    simp [hi, hr]

/-- A plan sets nothing if no scalar differs that is not ignored. -/
lemma isEmpty_changedParams_iff :
    (changedParams scalars actual expected ignored).isEmpty ↔
      ∀ s ∈ scalars, ignored.contains s.field ∨ s.read actual = s.read expected := by
  rw [changedParams, KeyMap.isEmpty_ofList, List.isEmpty_iff, List.filterMap_eq_nil_iff]
  refine forall₂_congr fun s _ => ?_
  by_cases h : ignored.contains s.field || s.read actual = s.read expected
  · rw [if_pos h]
    simpa using h
  · rw [if_neg h]
    simpa using h

end Changed

/-! ## Setting scalars -/

/-- The calls that set the scalars of a plan on the element known as `name`. The rename goes first,
and the others address the renamed element. -/
def scalarCalls (set : String → String → String → RemoteCall) (rename : String)
    (params : KeyMap String) (name : String) : List RemoteCall :=
  let newName := params.get? rename
  newName.toList.map (set name rename) ++
    (params.erase rename).toList.map fun e => set (newName.getD name) e.1 e.2

/-- The calls for scalars set parameters of the plan. -/
lemma exists_param_of_mem_scalarCalls {set : String → String → String → RemoteCall}
    {rename name : String} {params : KeyMap String} {c : RemoteCall}
    (h : c ∈ scalarCalls set rename params name) :
    ∃ known param value, c = set known param value ∧ param ∈ params.keys := by
  simp only [scalarCalls, List.mem_append, List.mem_map] at h
  rcases h with ⟨value, hv, rfl⟩ | ⟨e, he, rfl⟩
  · refine ⟨_, _, _, rfl, ?_⟩
    by_contra hkey
    rw [KeyMap.get?_eq_none_iff.2 hkey] at hv
    cases hv
  · exact ⟨_, _, _, rfl, List.mem_map_of_mem (List.mem_of_mem_filter he)⟩

/-- There are calls for scalars unless the plan sets none. -/
lemma scalarCalls_eq_nil_iff {set : String → String → String → RemoteCall} {rename name : String}
    {params : KeyMap String} : scalarCalls set rename params name = [] ↔ params.isEmpty := by
  constructor
  · intro h
    simp only [scalarCalls, List.append_eq_nil_iff, List.map_eq_nil_iff, Option.toList_eq_nil_iff,
      KeyMap.get?_eq_none_iff] at h
    obtain ⟨hkey, herase⟩ := h
    refine List.isEmpty_iff.2 (List.eq_nil_iff_forall_not_mem.2 fun e he => ?_)
    refine List.eq_nil_iff_forall_not_mem.1 herase e (List.mem_filter.2 ⟨he, ?_⟩)
    exact decide_eq_true fun heq => hkey (heq ▸ List.mem_map_of_mem he)
  · intro h
    obtain ⟨entries⟩ := params
    obtain rfl : entries = [] := List.isEmpty_iff.1 h
    rfl

/-- Scalars that calls set one by one. `Inv` is what the calls keep of the rest of the element. -/
structure Settable (S : Stage σ) (scalars : List (Scalar σ))
    (set : String → String → String → RemoteCall) (rename : String) (name : σ → String)
    (Inv : σ → Prop) : Prop where
  params_nodup : (scalars.map Scalar.param).Nodup
  name_mem : ∃ s ∈ scalars, s.param = rename ∧ s.read = name
  exists_change {x : σ} (hx : Inv x) {s : Scalar σ} (hs : s ∈ scalars) (value : String) :
    ∃ y, S.change? (set (name x) s.param value) x = some y ∧ Inv y ∧ s.read y = value ∧
      ∀ t ∈ scalars, t.param ≠ s.param → t.read y = t.read x

namespace Settable

variable {S : Stage σ} {scalars : List (Scalar σ)} {set : String → String → String → RemoteCall}
  {rename : String} {name : σ → String} {Inv : σ → Prop} {x : σ}

/-- Setting parameters other than the name gives each its value. -/
private lemma changeAll?_map (h : Settable S scalars set rename name Inv)
    {entries : List (String × String)} (hx : Inv x) (hn : (entries.map Prod.fst).Nodup)
    (hmem : ∀ e ∈ entries, e.1 ∈ scalars.map Scalar.param ∧ e.1 ≠ rename) :
    ∃ y, S.changeAll? (entries.map fun e => set (name x) e.1 e.2) x = some y ∧ Inv y ∧
      ∀ s ∈ scalars, s.read y = (KeyMap.lookup s.param entries).getD (s.read x) := by
  induction entries generalizing x with
  | nil => exact ⟨x, rfl, hx, fun _ _ => rfl⟩
  | cons e entries ih =>
    rw [List.map_cons, List.nodup_cons] at hn
    obtain ⟨hparam, hne⟩ := hmem e List.mem_cons_self
    obtain ⟨s, hs, hse⟩ := List.mem_map.1 hparam
    obtain ⟨y, hy, hIy, hread, hrest⟩ := h.exists_change hx hs e.2
    -- the next calls address the element by the same name
    have hname : name y = name x := by
      obtain ⟨r, hr, hrp, hrn⟩ := h.name_mem
      rw [← hrn]
      exact hrest r hr fun heq => hne (by rw [← hse, ← heq, hrp])
    obtain ⟨z, hz, hIz, hreads⟩ := ih hIy hn.2 fun f hf => hmem f (List.mem_cons_of_mem _ hf)
    refine ⟨z, ?_, hIz, fun t ht => ?_⟩
    · rw [List.map_cons, Stage.changeAll?_cons, ← hse, hy, Option.bind_some, ← hname, hz]
    · rw [hreads t ht, KeyMap.lookup_cons]
      split
      · next het =>
        have hnone : KeyMap.lookup t.param entries = none :=
          KeyMap.lookup_eq_none_iff.2 (het ▸ hn.1)
        obtain rfl : t = s := List.inj_on_of_nodup_map h.params_nodup ht hs (by rw [← het, hse])
        rw [hnone, Option.getD_none, hread, Option.getD_some]
      · next het => rw [hrest t ht fun heq => het (by rw [heq, hse])]

/-- **The scalars of a plan.** After the calls of a plan, every scalar of the plan has its value and
every other one is as it was.

**Proof sketch.** The rename is one change, after which the element is known by its new name; the
others are set under that name. -/
theorem changeAll?_scalarCalls (h : Settable S scalars set rename name Inv) {params : KeyMap String}
    (hinc : params.Increasing) (hmem : ∀ p ∈ params.keys, p ∈ scalars.map Scalar.param)
    (hx : Inv x) :
    ∃ y, S.changeAll? (scalarCalls set rename params (name x)) x = some y ∧ Inv y ∧
      ∀ s ∈ scalars, s.read y = (params.get? s.param).getD (s.read x) := by
  have hn : ((params.erase rename).entries.map Prod.fst).Nodup := hinc.erase.nodup
  have hother : ∀ e ∈ (params.erase rename).entries,
      e.1 ∈ scalars.map Scalar.param ∧ e.1 ≠ rename := by
    intro e he
    obtain ⟨he, hne⟩ := List.mem_filter.1 he
    exact ⟨hmem _ (List.mem_map_of_mem he), by simpa using hne⟩
  rcases hr : params.get? rename with _ | newName
  · obtain ⟨y, hy, hIy, hreads⟩ := h.changeAll?_map hx hn hother
    refine ⟨y, ?_, hIy, fun s hs => ?_⟩
    · simp only [scalarCalls, hr, Option.toList_none, List.map_nil, List.nil_append,
        Option.getD_none]
      exact hy
    · rw [hreads s hs]
      congr 1
      change (params.erase rename).get? s.param = _
      rw [KeyMap.get?_erase]
      split
      · next heq => rw [← heq, hr]
      · rfl
  · obtain ⟨r, hrs, hrp, hrn⟩ := h.name_mem
    obtain ⟨y, hy, hIy, hread, hrest⟩ := h.exists_change hx hrs newName
    obtain ⟨z, hz, hIz, hreads⟩ := h.changeAll?_map hIy hn hother
    refine ⟨z, ?_, hIz, fun s hs => ?_⟩
    · have hname : name y = newName := by rw [← hrn, hread]
      simp only [scalarCalls, hr, Option.toList_some, List.map_cons, List.map_nil,
        List.cons_append, List.nil_append, Option.getD_some]
      rw [Stage.changeAll?_cons, ← hrp, hy, Option.bind_some]
      rw [hname, ← hrp] at hz
      exact hz
    · rw [hreads s hs]
      change ((params.erase rename).get? s.param).getD _ = _
      rw [KeyMap.get?_erase]
      split
      · next heq =>
        obtain rfl : s = r := List.inj_on_of_nodup_map h.params_nodup hs hrs (by rw [← heq, hrp])
        rw [hrp, hr, Option.getD_none, hread, Option.getD_some]
      · next hne =>
        rw [hrest s hs fun heq => hne (by rw [heq, hrp])]

end Settable

end MonitorSync
