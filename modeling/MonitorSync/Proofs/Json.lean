import MonitorSync.Json.Basic
import MonitorSync.Proofs.KeyMap
set_option autoImplicit false

/-!
# Fields of structured values

What is found under a key after a value was written, changed or merged.

## Main results

* `Json.get?_ofEntries` — the fields of an object that was written.
* `Json.get?_merge` — a field after a merge.
* `Json.Ordered.merge` — a merge keeps the keys of an object in order.
-/

namespace MonitorSync

namespace Json

variable {key k : String} {entries : List (String × Json)} {v target : Json}
  {P : String × Json → Prop}

/-- Of two entries of one key, the last is the field. -/
lemma get?_ofEntries : (ofEntries entries).get? key = KeyMap.lookup key entries.reverse :=
  KeyMap.get?_ofList

/-- A field that is there. -/
lemma field_eq (h : v.get? key = some target) : v.field key = target := by
  rw [field, h]
  rfl

/-- A field of an object that is set. -/
lemma get?_set_obj :
    ((obj entries).set k v).get? key = if k = key then some v else (obj entries).get? key :=
  KeyMap.lookup_insertEntry

/-- Without one field, the others stay. -/
lemma get?_remove (h : k ≠ key) : (v.remove k).get? key = v.get? key := by
  cases v with
  | obj entries => exact KeyMap.lookup_filter_ne.trans (if_neg h)
  | _ => rfl

/-- A field that was removed. -/
lemma get?_remove_self : (v.remove k).get? k = none := by
  cases v with
  | obj entries => exact KeyMap.lookup_filter_ne.trans (if_pos rfl)
  | _ => rfl

/-! ## Entries that may be left out -/

@[simp] lemma forall_mem_entry? {α : Type} {f : α → Json} {a : Option α} :
    (∀ e ∈ entry? key (a.map f), P e) ↔ ∀ x ∈ a, P (key, f x) := by
  unfold entry?
  rcases a with _ | x <;> simp

@[simp] lemma forall_mem_textEntry {s : String} :
    (∀ e ∈ textEntry key s, P e) ↔ (s.isEmpty = false → P (key, .str s)) := by
  rw [textEntry]
  split <;> simp_all

@[simp] lemma forall_mem_textsEntry {xs : List String} :
    (∀ e ∈ textsEntry key xs, P e) ↔ (xs.isEmpty = false → P (key, texts xs)) := by
  rw [textsEntry]
  split <;> simp_all

/-! ## Merges -/

/-- The entries after a merge, where the patch has each key once. -/
private lemma lookup_mergeEntries (hn : (entries.map Prod.fst).Nodup)
    (present : List (String × Json)) :
    KeyMap.lookup key (mergeEntries present entries) =
      (KeyMap.lookup key entries).elim (KeyMap.lookup key present) fun v =>
        some (merge ((KeyMap.lookup key present).getD .null) v) := by
  induction entries generalizing present with
  | nil => rfl
  | cons e entries ih =>
    obtain ⟨k, v⟩ := e
    rw [List.map_cons, List.nodup_cons] at hn
    rw [mergeEntries, ih hn.2, KeyMap.lookup_insertEntry, KeyMap.lookup_cons]
    by_cases hk : k = key
    · subst hk
      rw [if_pos rfl, if_pos rfl, KeyMap.lookup_eq_none_iff.2 hn.1]
      rfl
    · rw [if_neg hk, if_neg hk]

/-- **A field after a merge.** It is merged with the field of the patch, or stays where the patch
has none. -/
theorem get?_merge {m : KeyMap Json} (hm : m.Increasing) :
    (target.merge (ofMap m)).get? key = (m.get? key).elim (target.get? key) fun v =>
      some (((target.get? key).getD .null).merge v) := by
  rw [ofMap]
  cases target with
  | obj present => exact lookup_mergeEntries hm.nodup present
  | _ => exact lookup_mergeEntries hm.nodup []

/-- A merge keeps the keys of entries in order. -/
private lemma pairwise_mergeEntries {present : List (String × Json)}
    (h : (present.map Prod.fst).Pairwise (· < ·)) :
    ((mergeEntries present entries).map Prod.fst).Pairwise (· < ·) := by
  induction entries generalizing present with
  | nil => exact h
  | cons e entries ih => exact ih (KeyMap.pairwise_insertEntry h)

/-- An object whose keys stand in order. -/
def Ordered (v : Json) : Prop := ∃ m : KeyMap Json, v = ofMap m ∧ m.Increasing

lemma ordered_ofMap {m : KeyMap Json} : (ofMap m).Ordered ↔ m.Increasing := by
  refine ⟨?_, fun h => ⟨m, rfl, h⟩⟩
  rintro ⟨m', h, hinc⟩
  rw [ofMap, ofMap, obj.injEq] at h
  rwa [KeyMap.Increasing, KeyMap.keys, h]

lemma ordered_ofEntries : (ofEntries entries).Ordered := ⟨_, rfl, KeyMap.increasing_ofList⟩

/-- An object still has its keys in order after a field was set. -/
lemma Ordered.set (h : v.Ordered) : (v.set k target).Ordered := by
  obtain ⟨m, rfl, hm⟩ := h
  exact ⟨m.insert k target, rfl, KeyMap.pairwise_insertEntry hm⟩

/-- **Merging keeps order.** What an object is merged into has its keys in order, if it is no object
or had them in order. -/
theorem Ordered.merge {m : KeyMap Json} (h : target.Ordered ∨ target.isObject = false) :
    (target.merge (ofMap m)).Ordered := by
  rcases h with ⟨present, rfl, hp⟩ | h
  · exact ⟨⟨_⟩, rfl, pairwise_mergeEntries hp⟩
  · cases target with
    | obj => cases h
    | _ => exact ⟨⟨mergeEntries [] m.entries⟩, rfl, pairwise_mergeEntries List.Pairwise.nil⟩

end Json

end MonitorSync
