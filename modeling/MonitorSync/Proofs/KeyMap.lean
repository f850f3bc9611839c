import Mathlib.Data.List.Sort
import Mathlib.Data.String.Basic
import MonitorSync.KeyMap
set_option autoImplicit false

/-!
# Laws of maps with text keys

Lookup after each operation, and the order of the keys of a map that was built by insertion.

## Main definitions

* `KeyMap.Increasing` — the keys of a map stand in strictly increasing order.

## Main results

* `KeyMap.get?_insert`, `KeyMap.get?_erase` — lookup after an update.
* `KeyMap.get?_ofList` — of two entries of one key, the last wins.
* `KeyMap.mem_keys_ofList` — the keys of a map are those of the entries it was built from.
* `KeyMap.increasing_ofList` — a map that was built from entries has increasing keys.
* `KeyMap.ofList_entries` — entries in order make up the map that they are from.
* `KeyMap.Increasing.ext_get?` — increasing maps with the same values are equal.
-/

namespace MonitorSync

namespace KeyMap

variable {α : Type} {m : KeyMap α} {key k : String} {v : α} {entries : List (String × α)}

/-! ## Lookup -/

@[simp] lemma lookup_nil : lookup k ([] : List (String × α)) = none := rfl

lemma lookup_cons (e : String × α) :
    lookup k (e :: entries) = if e.1 = k then some e.2 else lookup k entries := rfl

/-- The first part that has a value of a key decides. -/
lemma lookup_append (xs ys : List (String × α)) :
    lookup k (xs ++ ys) = (lookup k xs).or (lookup k ys) := by
  induction xs with
  | nil => rfl
  | cons e xs ih =>
    simp only [List.cons_append, lookup_cons, ih]
    split <;> rfl

/-- Changing the values changes what is found. -/
lemma lookup_map {β : Type} (f : α → β) :
    lookup k (entries.map fun e => (e.1, f e.2)) = (lookup k entries).map f := by
  induction entries with
  | nil => rfl
  | cons e entries ih =>
    rw [List.map_cons, lookup_cons, lookup_cons, ih]
    split <;> rfl

/-- A key without a value is not the key of any entry. -/
lemma lookup_eq_none_iff : lookup k entries = none ↔ k ∉ entries.map Prod.fst := by
  induction entries with
  | nil => simp
  | cons e entries ih =>
    rw [lookup_cons, List.map_cons, List.mem_cons, not_or, ← ih]
    split
    · simp_all
    · next h => simp [Ne.symm h]

/-- What is found under a key is the value of an entry of that key. -/
lemma mem_of_lookup (h : lookup k entries = some v) : (k, v) ∈ entries := by
  induction entries with
  | nil => simp at h
  | cons e entries ih =>
    rw [lookup_cons] at h
    split at h
    · next hk =>
      obtain rfl : e.2 = v := by simpa using h
      subst hk
      exact List.mem_cons_self
    · exact List.mem_cons_of_mem _ (ih h)

/-- Where no two entries have one key, every entry is found. -/
lemma lookup_of_mem (hn : (entries.map Prod.fst).Nodup) (h : (k, v) ∈ entries) :
    lookup k entries = some v := by
  induction entries with
  | nil => simp at h
  | cons e entries ih =>
    rw [List.map_cons, List.nodup_cons] at hn
    rw [lookup_cons]
    rcases List.mem_cons.1 h with rfl | h
    · simp
    · have hne : e.1 ≠ k := by
        rintro rfl
        exact hn.1 (List.mem_map.2 ⟨_, h, rfl⟩)
      rw [if_neg hne, ih hn.2 h]

/-- Where no two entries have one key, their order does not matter to lookup. -/
lemma lookup_reverse (hn : (entries.map Prod.fst).Nodup) :
    lookup k entries.reverse = lookup k entries := by
  have hr : (entries.reverse.map Prod.fst).Nodup := by
    rw [List.map_reverse]
    exact List.nodup_reverse.2 hn
  rcases h : lookup k entries with _ | v
  · rw [lookup_eq_none_iff] at h ⊢
    simpa using h
  · exact lookup_of_mem hr (List.mem_reverse.2 (mem_of_lookup h))

/-! ## Lookup after an update -/

lemma lookup_insertEntry :
    lookup k (insertEntry key v entries) = if key = k then some v else lookup k entries := by
  induction entries with
  | nil => rfl
  | cons e entries ih =>
    obtain ⟨k', v'⟩ := e
    simp only [insertEntry]
    split
    · next h =>
      subst h
      simp only [lookup_cons]
      split <;> rfl
    · next h =>
      split
      · simp only [lookup_cons]
      · simp only [lookup_cons, ih]
        by_cases hk : key = k
        · subst hk
          simp [Ne.symm h]
        · simp [hk]

@[simp] theorem get?_empty : (KeyMap.empty : KeyMap α).get? k = none := rfl

theorem get?_insert : (m.insert key v).get? k = if key = k then some v else m.get? k :=
  lookup_insertEntry

/-- Where entries are kept by their keys, a key that is kept has its value. -/
lemma lookup_filter_key (p : String → Bool) :
    lookup k (entries.filter fun e => p e.1) = if p k then lookup k entries else none := by
  induction entries with
  | nil => simp
  | cons e entries ih =>
    rw [List.filter_cons, lookup_cons]
    by_cases hk : e.1 = k
    · subst hk
      by_cases hp : p e.1 <;> simp [hp, ih, lookup_cons]
    · by_cases hp : p e.1 <;> simp [hp, hk, ih, lookup_cons]

lemma lookup_filter_ne :
    lookup k (entries.filter fun e => e.1 ≠ key) = if key = k then none else lookup k entries := by
  rw [lookup_filter_key fun x => decide (x ≠ key)]
  by_cases hk : key = k
  · simp [hk]
  · simp [hk, Ne.symm hk]

/-- A key that is kept has its value. -/
theorem get?_filter_key (p : String → Bool) :
    (m.filter fun key _ => p key).get? k = if p k then m.get? k else none :=
  lookup_filter_key p

theorem get?_erase : (m.erase key).get? k = if key = k then none else m.get? k := lookup_filter_ne

/-- Entries are added from left to right, so the last one of a key wins. -/
theorem get?_extendList :
    (m.extendList entries).get? k = (lookup k entries.reverse).or (m.get? k) := by
  induction entries generalizing m with
  | nil => rfl
  | cons e entries ih =>
    change ((m.insert e.1 e.2).extendList entries).get? k = _
    rw [ih, get?_insert, List.reverse_cons, lookup_append, Option.or_assoc]
    congr 1
    rw [lookup_cons]
    split <;> rfl

theorem get?_ofList : (ofList entries).get? k = lookup k entries.reverse := by
  rw [ofList, get?_extendList, get?_empty, Option.or_none]

/-- A key has a value if it is among the keys. -/
theorem get?_eq_none_iff : m.get? k = none ↔ k ∉ m.keys := lookup_eq_none_iff

/-- The keys of a map are those of the entries it was built from. -/
theorem mem_keys_ofList : k ∈ (ofList entries).keys ↔ k ∈ entries.map Prod.fst := by
  rw [← not_iff_not, ← get?_eq_none_iff, get?_ofList, lookup_eq_none_iff, List.map_reverse,
    List.mem_reverse]

/-- A map without entries was built from none. -/
theorem isEmpty_ofList : (ofList entries).isEmpty = entries.isEmpty := by
  rcases entries with _ | ⟨e, entries⟩
  · rfl
  · have hk : e.1 ∈ (ofList (e :: entries)).keys := mem_keys_ofList.2 (by simp)
    rcases h : (ofList (e :: entries)).entries with _ | ⟨x, xs⟩
    · simp [keys, h] at hk
    · simp [isEmpty, h]

/-! ## The order of keys -/

/-- The keys stand in strictly increasing order. -/
def Increasing (m : KeyMap α) : Prop := m.keys.Pairwise (· < ·)

/-- No key of an increasing map stands twice. -/
lemma Increasing.nodup (h : m.Increasing) : m.keys.Nodup := h.imp fun hlt => ne_of_lt hlt

lemma mem_fst_insertEntry :
    k ∈ (insertEntry key v entries).map Prod.fst ↔ k = key ∨ k ∈ entries.map Prod.fst := by
  have h := @lookup_insertEntry α key k v entries
  by_cases hk : key = k
  · rw [if_pos hk] at h
    refine ⟨fun _ => .inl hk.symm, fun _ => ?_⟩
    exact List.mem_map.2 ⟨_, mem_of_lookup h, rfl⟩
  · rw [if_neg hk] at h
    rw [← not_iff_not, ← lookup_eq_none_iff, h, lookup_eq_none_iff]
    simp [Ne.symm hk]

lemma pairwise_insertEntry (h : (entries.map Prod.fst).Pairwise (· < ·)) :
    ((insertEntry key v entries).map Prod.fst).Pairwise (· < ·) := by
  induction entries with
  | nil => simp [insertEntry]
  | cons e entries ih =>
    obtain ⟨k', v'⟩ := e
    rw [List.map_cons, List.pairwise_cons] at h
    simp only [insertEntry]
    split
    · next hk => simpa [hk] using h
    · next hne =>
      split
      · next hlt =>
        refine List.pairwise_cons.2 ⟨fun x hx => ?_, List.pairwise_cons.2 h⟩
        rcases List.mem_cons.1 hx with rfl | hx
        · exact hlt
        · exact lt_trans hlt (h.1 x hx)
      · next hnlt =>
        refine List.pairwise_cons.2 ⟨fun x hx => ?_, ih h.2⟩
        rcases mem_fst_insertEntry.1 hx with rfl | hx
        · exact lt_of_le_of_ne (not_lt.1 hnlt) (Ne.symm hne)
        · exact h.1 x hx

theorem increasing_extendList (h : m.Increasing) : (m.extendList entries).Increasing := by
  induction entries generalizing m with
  | nil => exact h
  | cons e entries ih => exact ih (m := m.insert e.1 e.2) (pairwise_insertEntry h)

/-- A map that was built from entries has increasing keys. -/
theorem increasing_ofList : (ofList entries).Increasing :=
  increasing_extendList (List.Pairwise.nil (R := (· < ·)))

/-- An entry whose key comes after all others is put at the end. -/
private lemma insertEntry_eq_append (h : ∀ k ∈ entries.map Prod.fst, k < key) :
    insertEntry key v entries = entries ++ [(key, v)] := by
  induction entries with
  | nil => rfl
  | cons e entries ih =>
    rw [List.map_cons, List.forall_mem_cons] at h
    rw [insertEntry, if_neg (ne_of_gt h.1), if_neg (lt_asymm h.1), ih h.2]
    rfl

/-- Entries in order that come after all others are put at the end. -/
private lemma entries_extendList (h : ((m.entries ++ entries).map Prod.fst).Pairwise (· < ·)) :
    (m.extendList entries).entries = m.entries ++ entries := by
  induction entries generalizing m with
  | nil => exact (List.append_nil _).symm
  | cons e entries ih =>
    have hinsert : (m.insert e.1 e.2).entries = m.entries ++ [e] := by
      refine insertEntry_eq_append fun k hk => ?_
      rw [List.map_append, List.pairwise_append] at h
      exact h.2.2 k hk e.1 List.mem_cons_self
    rw [List.append_cons, ← hinsert] at h
    rw [List.append_cons, ← hinsert]
    exact ih h

/-- Entries in order make up the map that they are from. -/
theorem ofList_entries (h : m.Increasing) : ofList m.entries = m := by
  have hentries : (ofList m.entries).entries = m.entries := entries_extendList h
  exact congrArg KeyMap.mk hentries

/-- A map that was built from entries has no others. -/
theorem mem_of_mem_ofList {e : String × α} (h : e ∈ (ofList entries).entries) : e ∈ entries := by
  have hget : (ofList entries).get? e.1 = some e.2 := lookup_of_mem increasing_ofList.nodup h
  rw [get?_ofList] at hget
  exact List.mem_reverse.1 (mem_of_lookup hget)

/-- The keys of a map stay as they are when its values change. -/
theorem increasing_map {β : Type} {f : α → β} (h : m.Increasing) : (m.map f).Increasing := by
  have hkeys : (m.map f).keys = m.keys := by
    simp [map, keys, Function.comp_def]
  rwa [Increasing, hkeys]

/-- What is found under a key is what stands under it. -/
lemma Increasing.get?_eq_some_iff (h : m.Increasing) : m.get? k = some v ↔ (k, v) ∈ m.entries :=
  ⟨mem_of_lookup, lookup_of_mem h.nodup⟩

/-- Entries of different keys are one of them and those of other keys. -/
private lemma perm_cons_filter_ne (hn : (entries.map Prod.fst).Nodup) (h : (k, v) ∈ entries) :
    entries.Perm ((k, v) :: entries.filter fun e => e.1 ≠ k) := by
  induction entries with
  | nil => cases h
  | cons e entries ih =>
    rw [List.map_cons, List.nodup_cons] at hn
    rcases List.mem_cons.1 h with rfl | h
    · rw [List.filter_cons_of_neg (by simp), List.filter_eq_self.2]
      exact fun x hx => decide_eq_true fun heq => hn.1 (List.mem_map.2 ⟨x, hx, heq⟩)
    · have hne : e.1 ≠ k := fun heq => hn.1 (List.mem_map.2 ⟨_, h, heq.symm⟩)
      rw [List.filter_cons_of_pos (by simpa using hne)]
      exact ((ih hn.2 h).cons e).trans (List.Perm.swap _ _ _)

/-- An increasing map is an entry and the map without its key. -/
theorem Increasing.perm_cons_erase (h : m.Increasing) (hm : (k, v) ∈ m.entries) :
    m.entries.Perm ((k, v) :: (m.erase k).entries) :=
  perm_cons_filter_ne h.nodup hm

/-- An increasing map still is one without some entries. -/
theorem Increasing.filter (h : m.Increasing) (p : String → α → Bool) : (m.filter p).Increasing :=
  h.sublist (List.filter_sublist.map Prod.fst)

/-- An increasing map still is one without some key. -/
theorem Increasing.erase (h : m.Increasing) : (m.erase key).Increasing :=
  h.filter fun k _ => k ≠ key

/-- **Extensionality.** Increasing maps that give every key the same value are equal. -/
theorem Increasing.ext_get? {m' : KeyMap α} (h : m.Increasing) (h' : m'.Increasing)
    (hget : ∀ k, m.get? k = m'.get? k) : m = m' := by
  have : Std.Irrefl fun a b : String × α => a.1 < b.1 := ⟨fun _ => lt_irrefl _⟩
  have hmem : ∀ e, e ∈ m.entries ↔ e ∈ m'.entries := fun e => by
    rw [← h.get?_eq_some_iff, ← h'.get?_eq_some_iff, hget]
  exact congrArg KeyMap.mk ((List.pairwise_map.1 h).eq_of_mem_iff (List.pairwise_map.1 h') hmem)

end KeyMap

end MonitorSync
