import MonitorSync.Proofs.Json.Containment
set_option autoImplicit false

/-!
# Updates of children

A child is applied on the server's side: fields that were applied last and are no longer wanted are
removed, wanted fields are set, and fields of others stay. An update is told by looking for the
wanted fields among the present ones, which does not show what is removed.

## Main definitions

* `Json.pruned` — a value without the fields that are no longer wanted.
* `Json.applied` — a value after an apply.

## Main results

* `Json.applied_eq_iff` — when an apply changes nothing.
* `childChange?_tells_apply_iff` — when the change that is told is the one that the apply makes.
-/

namespace MonitorSync

namespace Json

/-! ## Applying on the server's side -/

mutual

/-- A value without the fields that were applied last and are no longer wanted. Of a field that is
still wanted, the fields in it are looked at in turn; a field that was not applied stays as it
is. -/
def pruned (last : Option Json) (wanted : Json) : Json → Json
  | .obj entries => .obj (prunedEntries last wanted entries)
  | .null => .null
  | .bool b => .bool b
  | .num n => .num n
  | .str s => .str s
  | .arr items => .arr items

/-- The entries of an object that stay. -/
def prunedEntries (last : Option Json) (wanted : Json) :
    List (String × Json) → List (String × Json)
  | [] => []
  | (key, v) :: rest =>
    match last.bind (get? key), wanted.get? key with
    | some _, none => prunedEntries last wanted rest
    | none, none => (key, v) :: prunedEntries last wanted rest
    | before, some w => (key, pruned before w v) :: prunedEntries last wanted rest

end

/-- A value after an apply by the manager that applied `last` before: what it no longer wants is
removed, and what it wants is set. -/
def applied (last : Option Json) (wanted current : Json) : Json :=
  (pruned last wanted current).merge wanted

variable {last : Option Json} {wanted current v : Json} {key : String} {m : KeyMap Json}
  {entries : List (String × Json)}

/-- A field that stays: one that is wanted, or that was not applied. -/
def prunedField (last : Option Json) (wanted : Json) (key : String) (v : Json) : Option Json :=
  match last.bind (get? key), wanted.get? key with
  | some _, none => none
  | none, none => some v
  | before, some w => some (pruned before w v)

private lemma keys_prunedEntries_sublist :
    ((prunedEntries last wanted entries).map Prod.fst).Sublist (entries.map Prod.fst) := by
  induction entries with
  | nil => exact .slnil
  | cons e entries ih =>
    obtain ⟨key, v⟩ := e
    rw [prunedEntries]
    split
    · exact ih.cons _
    · exact ih.cons_cons _
    · exact ih.cons_cons _

private lemma lookup_prunedEntries (hn : (entries.map Prod.fst).Nodup) :
    KeyMap.lookup key (prunedEntries last wanted entries) =
      (KeyMap.lookup key entries).bind (prunedField last wanted key) := by
  induction entries with
  | nil => rfl
  | cons e entries ih =>
    obtain ⟨k, v⟩ := e
    rw [List.map_cons, List.nodup_cons] at hn
    rw [prunedEntries, KeyMap.lookup_cons]
    by_cases hk : k = key
    · subst hk
      have hrest : KeyMap.lookup k (prunedEntries last wanted entries) = none := by
        rw [ih hn.2, KeyMap.lookup_eq_none_iff.2 hn.1]
        rfl
      rw [if_pos rfl, Option.bind_some, prunedField]
      split <;> simp [hrest, KeyMap.lookup_cons]
    · rw [if_neg hk]
      split <;> simp [ih hn.2, KeyMap.lookup_cons, hk]

lemma pruned_of_leaf (h : v.isObject = false) : pruned last wanted v = v := by
  cases v with
  | obj => cases h
  | _ => rw [pruned]

/-- What stays of an object is an object, each of whose fields stays. -/
lemma exists_pruned_ofMap (last : Option Json) (wanted : Json) (hm : m.Increasing) :
    ∃ mx : KeyMap Json, pruned last wanted (ofMap m) = ofMap mx ∧ mx.Increasing ∧
      ∀ k, mx.get? k = (m.get? k).bind (prunedField last wanted k) :=
  ⟨⟨prunedEntries last wanted m.entries⟩, by rw [ofMap, pruned]; rfl,
    hm.sublist keys_prunedEntries_sublist, fun _ => lookup_prunedEntries hm.nodup⟩

/-- What becomes of a field, by what was applied under its key last, what is wanted, and what is
there. -/
def appliedField : Option Json → Option Json → Option Json → Option Json
  | before, some w, some a => some (applied before w a)
  | _, some w, none => some (Json.null.merge w)
  | some _, none, some _ => none
  | none, none, some a => some a
  | _, none, none => none

/-- An object after an apply of an object. -/
lemma exists_applied_ofMap {mw mc : KeyMap Json} (last : Option Json) (hw : mw.Increasing)
    (hc : mc.Increasing) :
    ∃ mx : KeyMap Json, applied last (ofMap mw) (ofMap mc) = ofMap mx ∧ mx.Increasing ∧
      ∀ k, mx.get? k = appliedField (last.bind (get? k)) (mw.get? k) (mc.get? k) := by
  obtain ⟨mp, hpruned, hp, hfield⟩ := exists_pruned_ofMap last (ofMap mw) hc
  obtain ⟨mx, hmx, hx⟩ := Ordered.merge (m := mw) (.inl (ordered_ofMap.2 hp))
  refine ⟨mx, by rw [applied, hpruned, hmx], hx, fun k => ?_⟩
  have hget : mx.get? k = (mw.get? k).elim (mp.get? k) fun w =>
      some (((mp.get? k).getD .null).merge w) := by
    change (ofMap mx).get? k = _
    rw [← hmx, get?_merge hw]
    rfl
  rw [hget, hfield]
  have hwanted : (ofMap mw).get? k = mw.get? k := rfl
  cases hw' : mw.get? k <;> cases hc' : mc.get? k <;> cases hl : last.bind (get? k) <;>
    simp [prunedField, appliedField, applied, hwanted, hw', hl]

/-- A field stays as it is if what is wanted is found in it and is all that was applied. -/
lemma appliedField_eq_iff (before wanted current : Option Json)
    (ih : ∀ w a, wanted = some w → current = some a →
      ((applied before w a).unsigned = a.unsigned ↔
        a.contains w = true ∧ ∀ b ∈ before, w.contains b = true))
    (hbefore : ∀ b ∈ before, ∃ a, current = some a ∧ a.contains b = true) :
    (appliedField before wanted current).map unsigned = current.map unsigned ↔
      (∀ w, wanted = some w → ∃ a, current = some a ∧ a.contains w = true) ∧
        ∀ b, before = some b → ∃ w, wanted = some w ∧ w.contains b = true := by
  cases wanted with
  | some w =>
    cases current with
    | some a => simpa [appliedField] using ih w a rfl rfl
    | none => simp [appliedField]
  | none =>
    cases before with
    | none => cases current <;> simp [appliedField]
    | some b =>
      obtain ⟨a, rfl, -⟩ := hbefore b rfl
      simp [appliedField]

/-- What was applied last as an object is found in an object where each of its fields is. -/
lemma forall_contains_iff (hlast : ∀ b ∈ last, b.KeysInOrder ∧ b.isObject = true) :
    (∀ b ∈ last, (ofMap m).contains b = true) ↔
      ∀ k v, last.bind (get? k) = some v → ∃ a, m.get? k = some a ∧ a.contains v = true := by
  cases last with
  | none => simp
  | some b =>
    obtain ⟨hb, hobject⟩ := hlast b rfl
    obtain ⟨mb, rfl⟩ := exists_ofMap_of_isObject hobject
    simp only [Option.mem_some_iff, forall_eq', contains_ofMap_ofMap_iff hb.increasing]
    rfl

/-- **Applying without effect.** Where the fields that were applied last are there, an apply changes
nothing exactly if the wanted fields are there too and none of those applied last is left out. -/
theorem applied_eq_iff (hwanted : wanted.KeysInOrder) : ∀ {last : Option Json} {current : Json},
    current.KeysInOrder → (∀ b ∈ last, b.KeysInOrder ∧ current.contains b = true) →
      ((applied last wanted current).unsigned = current.unsigned ↔
        current.contains wanted = true ∧ ∀ b ∈ last, wanted.contains b = true) := by
  induction hwanted with
  | @leaf wanted hleaf =>
    intro last current hcurrent hlast
    rw [applied, merge_of_leaf hleaf, contains_iff_of_leaf hleaf]
    refine ⟨fun heq => ⟨heq.symm, fun b hb => ?_⟩, fun h => h.1.symm⟩
    have hobject : current.isObject = false := by
      rw [← isObject_unsigned, ← heq, isObject_unsigned, hleaf]
    have hbleaf : b.isObject = false := isObject_of_contains (hlast b hb).2 ▸ hobject
    rw [contains_iff_of_leaf hbleaf, heq]
    exact (contains_iff_of_leaf hbleaf).1 (hlast b hb).2
  | @obj m hm hfields ih =>
    intro last current hcurrent hlast
    cases hcurrent with
    | leaf hleaf =>
      obtain ⟨mx, hmx, -⟩ := exists_merge_ofMap (m := m) (.leaf hleaf)
      refine iff_of_false (fun heq => ?_) fun h => ?_
      · rw [applied, pruned_of_leaf hleaf, hmx] at heq
        rw [← isObject_unsigned, ← heq, isObject_unsigned] at hleaf
        cases hleaf
      · rw [isObject_of_contains h.1] at hleaf
        cases hleaf
    | @obj mc hmc hall =>
      have hobject : ∀ b ∈ last, b.KeysInOrder ∧ b.isObject = true :=
        fun b hb => ⟨(hlast b hb).1, (isObject_of_contains (hlast b hb).2).symm⟩
      have hthere := (forall_contains_iff hobject).1 fun b hb => (hlast b hb).2
      have hpoint (k : String) := appliedField_eq_iff (last.bind (get? k)) (m.get? k) (mc.get? k)
        (fun w a hw ha => ih (k, w) (KeyMap.mem_of_lookup hw)
          (hall (k, a) (KeyMap.mem_of_lookup ha)) fun b hb => by
            obtain ⟨v, hv, hget⟩ := Option.bind_eq_some_iff.1 hb
            obtain ⟨a', ha', hcontains⟩ := hthere k b hb
            obtain rfl : a = a' := Option.some.inj (ha.symm.trans ha')
            exact ⟨(hobject v hv).1.of_get? hget, hcontains⟩)
        fun b hb => hthere k b hb
      obtain ⟨mx, hmx, hx, hfield⟩ := exists_applied_ofMap last hm hmc
      rw [hmx, unsigned_ofMap_eq_iff hx hmc, contains_ofMap_ofMap_iff hm,
        forall_contains_iff hobject, ← forall_and]
      refine forall_congr' fun k => ?_
      rw [hfield]
      exact hpoint k

end Json

/-! ## The change that is told -/

/-- **Changes told.** A child stands as it was applied last, with further fields beside those.
Whether it is told to be updated agrees with what the apply does exactly if the new specification
leaves out no field of the last one, or a field that it wants is not there as well: a field that is
only left out is removed without being told. -/
theorem childChange?_tells_apply_iff {current : List ClusterObject} {child present : ClusterObject}
    {last others : Json} (hlast : last.KeysInOrder) (hothers : others.KeysInOrder)
    (hwanted : child.spec.KeysInOrder)
    (hpresent : lastOfKey? child.childKey current = some present)
    (hspec : present.spec = others.merge last) :
    ((childChange? current child = none ↔
        (Json.applied (some last) child.spec present.spec == present.spec) = true) ∧
      (childChange? current child = some .update ↔
        (Json.applied (some last) child.spec present.spec == present.spec) = false)) ↔
      (present.spec.contains child.spec = true → child.spec.contains last = true) := by
  have happly : (Json.applied (some last) child.spec present.spec == present.spec) = true ↔
      present.spec.contains child.spec = true ∧ child.spec.contains last = true := by
    rw [Json.beq_iff, hspec, Json.applied_eq_iff hwanted (hlast.merge hothers)]
    · simp
    · rintro b hb
      obtain rfl := Option.mem_some_iff.1 hb
      exact ⟨hlast, Json.contains_merge_self hlast hothers⟩
  have htold : childChange? current child =
      if present.spec.contains child.spec then none else some .update := by
    rw [childChange?, hpresent]
  rw [htold, ← Bool.not_eq_true, happly]
  cases present.spec.contains child.spec <;> cases child.spec.contains last <;> simp

/-- A service in the namespace `prod` with a specification of the given entries. -/
def serviceChild (entries : List (String × Json)) : ClusterObject where
  types := some MonitoredService.type
  metadata := { name := some "ping", ns := some "prod" }
  content := .ofList [("spec", .ofEntries entries)]

/-- Another host is told, with a field beside those that were applied. -/
theorem childChange?_tells_apply_iff_host :
    let child := serviceChild [("host", .str "remote"), ("name", .str "ping")]
    let last := Json.ofEntries [("host", .str "localhost"), ("name", .str "ping")]
    let others := Json.ofEntries [("activate", .bool false)]
    let present := serviceChild
      [("activate", .bool false), ("host", .str "localhost"), ("name", .str "ping")]
    present.spec = others.merge last ∧ childChange? [present] child = some .update ∧
      ((childChange? [present] child = none ↔
          (Json.applied (some last) child.spec present.spec == present.spec) = true) ∧
        (childChange? [present] child = some .update ↔
          (Json.applied (some last) child.spec present.spec == present.spec) = false)) := by
  intro child last others present
  have hleaves (entries : List (String × Json)) (h : ∀ e ∈ entries, e.2.isObject = false) :
      (Json.ofEntries entries).KeysInOrder := Json.keysInOrder_ofEntries fun e he => .leaf (h e he)
  have hlast : last.KeysInOrder := hleaves _ (by decide)
  have hothers : others.KeysInOrder := hleaves _ (by decide)
  have hchild : child.spec.KeysInOrder :=
    hleaves [("host", .str "remote"), ("name", .str "ping")] (by decide)
  have hspec : present.spec = others.merge last := rfl
  exact ⟨hspec, by decide +kernel,
    (childChange?_tells_apply_iff hlast hothers hchild rfl hspec).2 (by decide +kernel)⟩

/-- A list that is left out is removed, which is not told. -/
theorem removal_is_not_told :
    let child := serviceChild [("host", .str "localhost"), ("name", .str "ping")]
    let present := serviceChild
      [("groups", .texts ["web"]), ("host", .str "localhost"), ("name", .str "ping")]
    childChange? [present] child = none ∧
      (Json.applied (some present.spec) child.spec present.spec == present.spec) = false := by
  decide +kernel

end MonitorSync
