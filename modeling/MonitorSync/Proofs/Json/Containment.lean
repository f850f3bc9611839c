import MonitorSync.Child.Change
import MonitorSync.Proofs.Json
set_option autoImplicit false

/-!
# Equality, containment and merging of values

Values are equal if they are alike once no zero has a sign. One value is found in another exactly if
merging it into that changes nothing.

## Main definitions

* `Json.unsigned` — a value whose zeros have no sign.
* `Json.KeysInOrder` — the objects on the way through a value have their keys in order.

## Main results

* `Json.beq_iff` — equality of values.
* `Json.contains_ofMap_iff`, `Json.contains_iff_of_leaf` — what it is to be found in a value.
* `Json.contains_refl` — a value is found in itself.
* `Json.contains_merge_self` — a value is found in everything that it is merged into.
* `Json.KeysInOrder.merge` — a merge keeps keys in order.
-/

namespace MonitorSync

/-! ## Equality -/

/-- A double whose zero has no sign. -/
def Binary64.unsigned (x : Binary64) : Binary64 := if x.isZero then .zero false else x

lemma Binary64.equal_iff {x y : Binary64} : x.equal y = true ↔ x.unsigned = y.unsigned := by
  have hzero : (zero false).isZero = true := rfl
  by_cases hx : x.isZero = true <;> by_cases hy : y.isZero = true <;>
    simp only [equal, unsigned, hx, hy] <;> aesop

/-- A number whose zero has no sign. -/
def Number.unsigned : Number → Number
  | .integer a => .integer a
  | .float x => .float x.unsigned

lemma Number.same_iff {a b : Number} : a.same b = true ↔ a.unsigned = b.unsigned := by
  cases a <;> cases b <;> simp [same, unsigned, Binary64.equal_iff]

namespace Json

mutual

/-- A value whose zeros have no sign. -/
def unsigned : Json → Json
  | .null => .null
  | .bool b => .bool b
  | .num n => .num n.unsigned
  | .str s => .str s
  | .arr items => .arr (unsignedItems items)
  | .obj entries => .obj (unsignedEntries entries)

/-- The items of a list, their zeros without signs. -/
def unsignedItems : List Json → List Json
  | [] => []
  | v :: rest => v.unsigned :: unsignedItems rest

/-- The entries of an object, the zeros of their values without signs. -/
def unsignedEntries : List (String × Json) → List (String × Json)
  | [] => []
  | (key, v) :: rest => (key, v.unsigned) :: unsignedEntries rest

end

mutual

private theorem same_iff : ∀ v w : Json, v.same w = true ↔ v.unsigned = w.unsigned
  | .arr xs, .arr ys => by simp [same, unsigned, sameItems_iff xs ys]
  | .obj xs, .obj ys => by simp [same, unsigned, sameEntries_iff xs ys]
  | .num a, .num b => by simp [same, unsigned, Number.same_iff]
  | .null, w | .bool _, w | .str _, w => by cases w <;> simp [same, unsigned]
  | .num _, .null | .num _, .bool _ | .num _, .str _ | .num _, .arr _ | .num _, .obj _ => by
    simp [same, unsigned]
  | .arr _, .null | .arr _, .bool _ | .arr _, .num _ | .arr _, .str _ | .arr _, .obj _ => by
    simp [same, unsigned]
  | .obj _, .null | .obj _, .bool _ | .obj _, .num _ | .obj _, .str _ | .obj _, .arr _ => by
    simp [same, unsigned]

private theorem sameItems_iff : ∀ xs ys : List Json,
    sameItems xs ys = true ↔ unsignedItems xs = unsignedItems ys
  | [], [] => by simp [sameItems]
  | [], _ :: _ => by simp [sameItems, unsignedItems]
  | _ :: _, [] => by simp [sameItems, unsignedItems]
  | x :: xs, y :: ys => by simp [sameItems, unsignedItems, same_iff x y, sameItems_iff xs ys]

private theorem sameEntries_iff : ∀ xs ys : List (String × Json),
    sameEntries xs ys = true ↔ unsignedEntries xs = unsignedEntries ys
  | [], [] => by simp [sameEntries]
  | [], _ :: _ => by simp [sameEntries, unsignedEntries]
  | _ :: _, [] => by simp [sameEntries, unsignedEntries]
  | (k, x) :: xs, (l, y) :: ys => by
    simp [sameEntries, unsignedEntries, same_iff x y, sameEntries_iff xs ys, and_assoc]

end

variable {v w c : Json} {m : KeyMap Json}

/-- **Equality.** Values are equal if they are alike once no zero has a sign. -/
theorem beq_iff : (v == w) = true ↔ v.unsigned = w.unsigned := same_iff v w

lemma unsignedEntries_eq (entries : List (String × Json)) :
    unsignedEntries entries = entries.map fun e => (e.1, e.2.unsigned) := by
  induction entries with
  | nil => rfl
  | cons e entries ih => rw [unsignedEntries, ih, List.map_cons]

lemma unsigned_ofMap : (ofMap m).unsigned = ofMap (m.map unsigned) := by
  rw [ofMap, unsigned, unsignedEntries_eq]
  rfl

@[simp] lemma isObject_unsigned : v.unsigned.isObject = v.isObject := by
  cases v <;> rfl

/-- Objects with keys in order are equal if they have equal values under every key. -/
lemma unsigned_ofMap_eq_iff {m' : KeyMap Json} (h : m.Increasing) (h' : m'.Increasing) :
    (ofMap m).unsigned = (ofMap m').unsigned ↔
      ∀ k, (m.get? k).map unsigned = (m'.get? k).map unsigned := by
  have hget (n : KeyMap Json) (k : String) : (n.map unsigned).get? k = (n.get? k).map unsigned :=
    KeyMap.lookup_map unsigned
  rw [unsigned_ofMap, unsigned_ofMap]
  refine ⟨fun heq k => ?_, fun hall => ?_⟩
  · rw [ofMap, ofMap, obj.injEq] at heq
    rw [← hget, ← hget, KeyMap.get?, KeyMap.get?, heq]
  · rw [(KeyMap.increasing_map h).ext_get? (KeyMap.increasing_map h') fun k => by
      rw [hget, hget, hall k]]

/-! ## Keys in order -/

/-- The objects that are reached through objects have their keys in order, each key once. -/
inductive KeysInOrder : Json → Prop
  | obj {m : KeyMap Json} (hm : m.Increasing) (h : ∀ e ∈ m.entries, KeysInOrder e.2) :
    KeysInOrder (ofMap m)
  | leaf {v : Json} (h : v.isObject = false) : KeysInOrder v

/-- What is found under a key has its keys in order. -/
lemma KeysInOrder.of_get? {k : String} (h : c.KeysInOrder) (hget : c.get? k = some v) :
    v.KeysInOrder := by
  cases h with
  | obj hm hfields => exact hfields (k, v) (KeyMap.mem_of_lookup hget)
  | leaf hleaf =>
    cases c with
    | obj => cases hleaf
    | _ => cases hget

/-- What stands under a key, null if there is nothing, has its keys in order. -/
lemma KeysInOrder.field (h : c.KeysInOrder) (k : String) : ((c.get? k).getD .null).KeysInOrder := by
  cases hget : c.get? k with
  | none => exact .leaf rfl
  | some v => exact h.of_get? hget

/-- The keys of an object made of a map are those of the map. -/
lemma KeysInOrder.increasing (h : (ofMap m).KeysInOrder) : m.Increasing := by
  generalize hv : ofMap m = v at h
  cases h with
  | obj hm hfields =>
    rw [ofMap, ofMap, Json.obj.injEq] at hv
    rwa [KeyMap.Increasing, KeyMap.keys, hv]
  | leaf hleaf =>
    subst hv
    cases hleaf

/-- An object that was written has its keys in order if all of its values have. -/
lemma keysInOrder_ofEntries {entries : List (String × Json)} (h : ∀ e ∈ entries, e.2.KeysInOrder) :
    (ofEntries entries).KeysInOrder :=
  .obj KeyMap.increasing_ofList fun e he => h e (KeyMap.mem_of_mem_ofList he)

@[simp] lemma keysInOrder_str (s : String) : (str s).KeysInOrder := .leaf rfl

@[simp] lemma keysInOrder_bool (b : Bool) : (bool b).KeysInOrder := .leaf rfl

@[simp] lemma keysInOrder_texts (xs : List String) : (texts xs).KeysInOrder := .leaf rfl

@[simp] lemma keysInOrder_textMap {m : KeyMap String} (hm : m.Increasing) :
    (textMap m).KeysInOrder := by
  refine .obj (KeyMap.increasing_map hm) fun e he => ?_
  obtain ⟨p, -, rfl⟩ := List.mem_map.1 he
  exact keysInOrder_str p.2

/-- An object is the object made of a map. -/
lemma exists_ofMap_of_isObject (h : v.isObject = true) : ∃ m, v = ofMap m := by
  cases v with
  | obj entries => exact ⟨⟨entries⟩, rfl⟩
  | _ => cases h

/-! ## Containment -/

/-- Entries are found among others where each of them is. -/
lemma containsEntries_iff {present entries : List (String × Json)} :
    containsEntries present entries ↔
      ∀ e ∈ entries, ∃ a, KeyMap.lookup e.1 present = some a ∧ a.contains e.2 := by
  induction entries with
  | nil => simp [containsEntries]
  | cons e entries ih =>
    obtain ⟨key, v⟩ := e
    rw [containsEntries, Bool.and_eq_true, ih, List.forall_mem_cons]
    refine and_congr_left fun _ => ?_
    rcases KeyMap.lookup key present with _ | a <;> simp

/-- A value that is no object is found in those that are equal to it. -/
lemma contains_iff_of_leaf (h : v.isObject = false) :
    c.contains v = true ↔ c.unsigned = v.unsigned := by
  cases v with
  | obj => cases h
  | _ => rw [contains, beq_iff]

/-- An object is found in an object where each of its fields is. -/
lemma contains_ofMap_iff (hm : m.Increasing) : c.contains (ofMap m) = true ↔
    ∃ mc, c = ofMap mc ∧ ∀ k v, m.get? k = some v → ∃ a, mc.get? k = some a ∧ a.contains v := by
  have hmem (k : String) (v : Json) : m.get? k = some v ↔ (k, v) ∈ m.entries :=
    hm.get?_eq_some_iff
  cases c with
  | obj present =>
    rw [ofMap, contains, containsEntries_iff]
    refine ⟨fun h => ⟨⟨present⟩, rfl, fun k v hv => h (k, v) ((hmem k v).1 hv)⟩, ?_⟩
    rintro ⟨mc, hmc, h⟩ e he
    rw [ofMap, Json.obj.injEq] at hmc
    subst hmc
    exact h e.1 e.2 ((hmem _ _).2 he)
  | _ => simp [ofMap, contains]

lemma contains_ofMap_ofMap_iff {mc : KeyMap Json} (hm : m.Increasing) :
    (ofMap mc).contains (ofMap m) = true ↔
      ∀ k v, m.get? k = some v → ∃ a, mc.get? k = some a ∧ a.contains v := by
  rw [contains_ofMap_iff hm]
  refine ⟨?_, fun h => ⟨mc, rfl, h⟩⟩
  rintro ⟨mc', hmc, h⟩
  rw [ofMap, ofMap, Json.obj.injEq] at hmc
  obtain rfl : mc = mc' := congrArg KeyMap.mk hmc
  exact h

/-- Only objects are found in objects, and nothing else is found in other values. -/
lemma isObject_of_contains (h : c.contains v = true) : c.isObject = v.isObject := by
  cases hv : v.isObject with
  | false => rw [← isObject_unsigned, (contains_iff_of_leaf hv).1 h, isObject_unsigned, hv]
  | true =>
    cases v with
    | obj =>
      cases c with
      | obj => rfl
      | _ => simp [contains] at h
    | _ => cases hv

/-- **Reflexivity.** A value is found in itself. -/
theorem contains_refl (h : v.KeysInOrder) : v.contains v = true := by
  induction h with
  | leaf hleaf => exact (contains_iff_of_leaf hleaf).2 rfl
  | obj hm _ ih =>
    exact (contains_ofMap_ofMap_iff hm).2 fun k v hv =>
      ⟨v, hv, ih (k, v) (KeyMap.mem_of_lookup hv)⟩

/-- What is found in an object is found in one with a further field. -/
lemma contains_set {entries : List (String × Json)} {key : String} {wanted : Json}
    (hkey : KeyMap.lookup key entries = none)
    (h : (obj entries).contains wanted) : ((obj entries).set key v).contains wanted := by
  cases wanted with
  | obj wanted =>
    rw [contains, containsEntries_iff] at h
    rw [set, contains, containsEntries_iff]
    intro e he
    obtain ⟨a, ha, hcontains⟩ := h e he
    have hne : key ≠ e.1 := by
      rintro rfl
      cases hkey.symm.trans ha
    exact ⟨a, by rw [KeyMap.lookup_insertEntry, if_neg hne, ha], hcontains⟩
  | _ =>
    rw [contains] at h
    cases h

/-! ## Merging -/

/-- What is no object replaces. -/
lemma merge_of_leaf (h : v.isObject = false) : c.merge v = v := by
  cases v with
  | obj => cases h
  | _ => rw [merge]

/-- What an object is merged into is an object. -/
lemma exists_merge_ofMap (h : c.KeysInOrder) :
    ∃ mx, c.merge (ofMap m) = ofMap mx ∧ mx.Increasing := by
  refine Ordered.merge ?_
  cases h with
  | obj hmc hfields => exact .inl (ordered_ofMap.2 hmc)
  | leaf hleaf => exact .inr hleaf

/-- **Merging keeps order.** -/
theorem KeysInOrder.merge (h : v.KeysInOrder) : ∀ {c : Json}, c.KeysInOrder →
    (c.merge v).KeysInOrder := by
  induction h with
  | leaf hleaf =>
    intro c hc
    rw [merge_of_leaf hleaf]
    exact .leaf hleaf
  | @obj m hm hfields ih =>
    intro c hc
    obtain ⟨mx, hmx, hx⟩ := exists_merge_ofMap (m := m) hc
    rw [hmx]
    refine .obj hx fun e he => ?_
    have hget : (c.merge (ofMap m)).get? e.1 = some e.2 := by
      rw [hmx]
      exact hx.get?_eq_some_iff.2 he
    rw [get?_merge hm] at hget
    cases hw : m.get? e.1 with
    | none =>
      rw [hw] at hget
      exact hc.of_get? hget
    | some w =>
      rw [hw] at hget
      have hmerged : ((c.get? e.1).getD .null).merge w = e.2 := Option.some.inj hget
      rw [← hmerged]
      exact ih _ (KeyMap.mem_of_lookup hw) (hc.field e.1)

/-- **Merging into nothing.** What is merged into a value without fields stands there as it was. -/
theorem KeysInOrder.merge_of_no_fields (h : v.KeysInOrder) : ∀ {c : Json}, c.KeysInOrder →
    (∀ k, c.get? k = none) → c.merge v = v := by
  induction h with
  | leaf hleaf => exact fun _ _ => merge_of_leaf hleaf
  | @obj m hm hfields ih =>
    intro c hc hnone
    obtain ⟨mx, hmx, hx⟩ := exists_merge_ofMap (m := m) hc
    have hsame (k : String) : mx.get? k = m.get? k := by
      have hget : (c.merge (ofMap m)).get? k = mx.get? k := by
        rw [hmx]
        rfl
      rw [← hget, get?_merge hm, hnone]
      cases hw : m.get? k with
      | none => rfl
      | some w => exact congrArg some (ih (k, w) (KeyMap.mem_of_lookup hw) (.leaf rfl) fun _ => rfl)
    rw [hmx, hx.ext_get? hm hsame]

/-- **What is merged is found.** A value is found in everything that it is merged into. -/
theorem contains_merge_self (h : v.KeysInOrder) : ∀ {c : Json}, c.KeysInOrder →
    (c.merge v).contains v = true := by
  induction h with
  | leaf hleaf =>
    intro c hc
    rw [merge_of_leaf hleaf, contains_iff_of_leaf hleaf]
  | @obj m hm hfields ih =>
    intro c hc
    obtain ⟨mx, hmx, -⟩ := exists_merge_ofMap (m := m) hc
    rw [contains_ofMap_iff hm]
    refine ⟨mx, hmx, fun k w hw => ?_⟩
    have hget : (c.merge (ofMap m)).get? k = some (((c.get? k).getD .null).merge w) := by
      rw [get?_merge hm, hw]
      rfl
    rw [hmx] at hget
    exact ⟨_, hget, ih (k, w) (KeyMap.mem_of_lookup hw) (hc.field k)⟩

end Json

end MonitorSync
