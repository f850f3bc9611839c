import MonitorSync.Proofs.Plan.Lists
set_option autoImplicit false

/-!
# Pairing off macros of one name

A service may be read with several macros of one name. Each wanted macro is paired with the next
actual one of its name, so among the macros of one name the k-th wanted one has the k-th actual one
as its partner, and the actual ones beyond the wanted ones are left over.

## Main definitions

* `macrosNamed` — the macros of a name, in order.
* `unmet` — the wanted macros that have no partner or one that does not meet them.
* `MacrosAgree` — every wanted macro is met by its partner, and no macro is left over that would be
  deleted.

## Main results

* `macrosNamed_matchMacros_fst`, `macrosNamed_matchMacros_snd` — pairing off, name by name.
* `macroChanges_eq_nil_iff` — there is nothing to change exactly if macros agree.
-/

namespace MonitorSync

variable {n : String} {m w current : ServiceMacro}
  {actual expected remaining ms : List ServiceMacro}

/-! ## The macros of a name -/

/-- The macros of a name, in order. -/
def macrosNamed (n : String) (ms : List ServiceMacro) : List ServiceMacro :=
  ms.filter fun m => m.name = n

lemma mem_macrosNamed : m ∈ macrosNamed n ms ↔ m ∈ ms ∧ m.name = n := by
  simp [macrosNamed]

lemma macrosNamed_cons_self : macrosNamed w.name (w :: ms) = w :: macrosNamed w.name ms :=
  List.filter_cons_of_pos (decide_eq_true rfl)

lemma macrosNamed_cons_of_ne (h : w.name ≠ n) : macrosNamed n (w :: ms) = macrosNamed n ms :=
  List.filter_cons_of_neg (by simpa using h)

/-- Every macro is among those of its name. -/
lemma forall_mem_iff_macrosNamed {P : ServiceMacro → Prop} :
    (∀ m ∈ ms, P m) ↔ ∀ n, ∀ m ∈ macrosNamed n ms, P m := by
  constructor
  · exact fun h n m hm => h m (mem_macrosNamed.1 hm).1
  · exact fun h m hm => h m.name m (mem_macrosNamed.2 ⟨hm, rfl⟩)

lemma macrosNamed_eq_nil_iff : macrosNamed n ms = [] ↔ n ∉ macroNames ms := by
  simp [macrosNamed, macroNames]

/-- A name stands among the names of macros as often as there are macros of it. -/
lemma length_macrosNamed : (macrosNamed n ms).length = (macroNames ms).count n := by
  rw [macrosNamed, macroNames, List.count, List.countP_map, List.countP_eq_length_filter]
  rfl

/-- Deleting macros takes away all of their names and leaves the others. -/
lemma macrosNamed_deleteMacros (n : String) (toDelete ms : List ServiceMacro) :
    macrosNamed n (deleteMacros toDelete ms) =
      if n ∈ macroNames toDelete then [] else macrosNamed n ms := by
  induction toDelete generalizing ms with
  | nil => rfl
  | cons d toDelete ih =>
    have hfilter : macrosNamed n (ms.filter fun m => m.name ≠ d.name) =
        if n = d.name then [] else macrosNamed n ms := by
      rw [macrosNamed, List.filter_filter]
      split
      · next h => simp [h]
      · next h =>
        refine List.filter_congr fun m _ => ?_
        by_cases hm : m.name = n <;> simp [hm, h]
    change macrosNamed n (deleteMacros toDelete _) = _
    rw [ih, hfilter, macroNames, macroNames, List.map_cons, ← ite_or]
    simp only [List.mem_cons, or_comm]

/-- Taking out the first macro of a name takes it off those of the name. -/
lemma macrosNamed_of_takeFirst?
    (h : takeFirst? (fun m => m.name = w.name) actual = some (current, remaining)) :
    macrosNamed w.name actual = current :: macrosNamed w.name remaining := by
  induction actual generalizing remaining with
  | nil => cases h
  | cons a actual ih =>
    rw [takeFirst?] at h
    split at h
    · next ha =>
      cases h
      exact List.filter_cons_of_pos ha
    · next ha =>
      obtain ⟨⟨c, rest⟩, hrest, heq⟩ := Option.map_eq_some_iff.1 h
      cases heq
      have hne : a.name ≠ w.name := by simpa using ha
      rw [macrosNamed_cons_of_ne hne, macrosNamed_cons_of_ne hne, ih hrest]

/-- Taking out a macro leaves those of other names. -/
lemma macrosNamed_of_takeFirst?_of_ne
    (h : takeFirst? (fun m => m.name = w.name) actual = some (current, remaining))
    (hn : w.name ≠ n) : macrosNamed n actual = macrosNamed n remaining := by
  have hname := name_of_takeFirst? h
  obtain ⟨before, after, rfl, rfl⟩ := (takeFirst?_eq_some h).2
  rw [macrosNamed, macrosNamed, List.filter_append, List.filter_append,
    List.filter_cons_of_neg (by simpa [hname] using hn)]

/-- If no macro of a name can be taken out, then there is none. -/
lemma macrosNamed_of_takeFirst?_eq_none
    (h : takeFirst? (fun m => m.name = w.name) actual = none) : macrosNamed w.name actual = [] :=
  List.filter_eq_nil_iff.2 (takeFirst?_eq_none h)

/-! ## Partners -/

/-- The wanted macros that have no partner or one that does not meet them, where the macros of two
lists are paired in order. -/
def unmet : List ServiceMacro → List ServiceMacro → List ServiceMacro
  | [], expected => expected
  | _, [] => []
  | m :: actual, w :: expected =>
    if m.meets w then unmet actual expected else w :: unmet actual expected

lemma unmet_nil : unmet actual [] = [] := by
  cases actual <;> rfl

/-- **The macros to set.** Of the wanted macros of a name, those are to be set that have no partner
or one that does not meet them. -/
theorem macrosNamed_matchMacros_fst (n : String) :
    macrosNamed n (matchMacros actual expected).1 =
      unmet (macrosNamed n actual) (macrosNamed n expected) := by
  induction expected generalizing actual with
  | nil => exact unmet_nil.symm
  | cons w rest ih =>
    rcases htake : takeFirst? (fun m => m.name = w.name) actual with _ | ⟨current, remaining⟩
    · rw [matchMacros_cons_of_none htake]
      by_cases hn : w.name = n
      · subst hn
        rw [macrosNamed_cons_self, macrosNamed_cons_self, ih,
          macrosNamed_of_takeFirst?_eq_none htake]
        rfl
      · rw [macrosNamed_cons_of_ne hn, macrosNamed_cons_of_ne hn, ih]
    · rw [matchMacros_cons_of_some htake]
      by_cases hn : w.name = n
      · subst hn
        rw [macrosNamed_of_takeFirst? htake, macrosNamed_cons_self, unmet, ← ih]
        split
        · rfl
        · exact macrosNamed_cons_self
      · rw [macrosNamed_of_takeFirst?_of_ne htake hn, macrosNamed_cons_of_ne hn, ← ih]
        split
        · rfl
        · exact macrosNamed_cons_of_ne hn

/-- **The macros left over.** Of the actual macros of a name, those beyond the wanted ones are left
over. -/
theorem macrosNamed_matchMacros_snd (n : String) :
    macrosNamed n (matchMacros actual expected).2 =
      (macrosNamed n actual).drop (macrosNamed n expected).length := by
  induction expected generalizing actual with
  | nil => rfl
  | cons w rest ih =>
    rcases htake : takeFirst? (fun m => m.name = w.name) actual with _ | ⟨current, remaining⟩
    · rw [matchMacros_cons_of_none htake, ih]
      by_cases hn : w.name = n
      · subst hn
        rw [macrosNamed_of_takeFirst?_eq_none htake, List.drop_nil, List.drop_nil]
      · rw [macrosNamed_cons_of_ne hn]
    · rw [matchMacros_cons_of_some htake, ih]
      by_cases hn : w.name = n
      · subst hn
        rw [macrosNamed_of_takeFirst? htake, macrosNamed_cons_self, List.length_cons,
          List.drop_succ_cons]
      · rw [macrosNamed_of_takeFirst?_of_ne htake hn, macrosNamed_cons_of_ne hn]

/-! ## Agreement -/

/-- Every wanted macro is met by its partner, and no macro is left over that would be deleted: among
the macros of one name, the k-th wanted one has a k-th actual one of its value and password flag,
and an actual one beyond the wanted ones does not come from the service itself or is empty. -/
structure MacrosAgree (actual expected : List ServiceMacro) : Prop where
  met : ∀ (n : String) (k : Nat) (w : ServiceMacro), (macrosNamed n expected)[k]? = some w →
    ∃ m : ServiceMacro, (macrosNamed n actual)[k]? = some m ∧ m.value = w.value ∧
      m.effectiveFlag = w.effectiveFlag
  leftOver : ∀ (n : String) (k : Nat) (m : ServiceMacro), (macrosNamed n actual)[k]? = some m →
    (macrosNamed n expected)[k]? = none → m.source ≠ ServiceMacro.directSource ∨ m.value = ""

/-- No wanted macro is unmet if each is met by its partner. -/
lemma unmet_eq_nil_iff : unmet actual expected = [] ↔
    ∀ (k : Nat) (w : ServiceMacro), expected[k]? = some w →
      ∃ m : ServiceMacro, actual[k]? = some m ∧ m.meets w := by
  induction expected generalizing actual with
  | nil => simp [unmet_nil]
  | cons w rest ih =>
    cases actual with
    | nil => simpa [unmet] using ⟨0, w, rfl⟩
    | cons m actual =>
      have hsplit : (∀ (k : Nat) (v : ServiceMacro), (w :: rest)[k]? = some v →
          ∃ a : ServiceMacro, (m :: actual)[k]? = some a ∧ a.meets v) ↔
          m.meets w ∧ ∀ (k : Nat) (v : ServiceMacro), rest[k]? = some v →
            ∃ a : ServiceMacro, actual[k]? = some a ∧ a.meets v := by
        constructor
        · intro h
          obtain ⟨a, ha, hmeets⟩ := h 0 w rfl
          cases ha
          exact ⟨hmeets, fun k => h (k + 1)⟩
        · rintro ⟨hmeets, h⟩ (_ | k) v hv
          · cases hv
            exact ⟨m, rfl, hmeets⟩
          · exact h k v hv
      rw [hsplit, ← ih, unmet]
      by_cases hm : m.meets w <;> simp [hm]

lemma name_of_getElem?_macrosNamed {k : Nat} (h : (macrosNamed n ms)[k]? = some m) :
    m.name = n :=
  (mem_macrosNamed.1 (List.mem_of_getElem? h)).2

/-- Nothing is to be set if every wanted macro is met by its partner. -/
lemma matchMacros_fst_eq_nil_iff : (matchMacros actual expected).1 = [] ↔
    ∀ (n : String) (k : Nat) (w : ServiceMacro), (macrosNamed n expected)[k]? = some w →
      ∃ m : ServiceMacro, (macrosNamed n actual)[k]? = some m ∧ m.value = w.value ∧
        m.effectiveFlag = w.effectiveFlag := by
  rw [List.eq_nil_iff_forall_not_mem, forall_mem_iff_macrosNamed]
  refine forall_congr' fun n => ?_
  rw [← List.eq_nil_iff_forall_not_mem, macrosNamed_matchMacros_fst, unmet_eq_nil_iff]
  refine forall₃_congr fun k w hw => exists_congr fun m => and_congr_right fun hm => ?_
  have hname : m.name = w.name :=
    (name_of_getElem?_macrosNamed hm).trans (name_of_getElem?_macrosNamed hw).symm
  simp [ServiceMacro.meets, hname]

/-- What holds of every macro left over holds of every actual one beyond the wanted ones. -/
lemma forall_mem_matchMacros_snd {P : ServiceMacro → Prop} :
    (∀ m ∈ (matchMacros actual expected).2, P m) ↔
      ∀ (n : String) (k : Nat) (m : ServiceMacro), (macrosNamed n actual)[k]? = some m →
        (macrosNamed n expected)[k]? = none → P m := by
  rw [forall_mem_iff_macrosNamed]
  refine forall_congr' fun n => ?_
  rw [macrosNamed_matchMacros_snd]
  simp only [List.mem_iff_getElem?, List.getElem?_drop, List.getElem?_eq_none_iff]
  constructor
  · intro h k m hm hk
    exact h m ⟨k - (macrosNamed n expected).length, by rwa [Nat.add_sub_cancel' hk]⟩
  · rintro h m ⟨k, hk⟩
    exact h _ m hk (Nat.le_add_right _ _)

/-- The macros to delete are those left over that come from the service itself and are not empty. -/
lemma mem_macroChanges_snd : m ∈ (macroChanges actual expected).2 ↔
    m ∈ (matchMacros actual expected).2 ∧
      ¬ (m.source ≠ ServiceMacro.directSource ∨ m.value = "") := by
  rw [macroChanges, List.mem_filter, ← String.isEmpty_iff]
  simp

/-- **Nothing to change.** No macro is to be set or deleted exactly if macros agree. -/
theorem macroChanges_eq_nil_iff :
    macroChanges actual expected = ([], []) ↔ MacrosAgree actual expected := by
  have hleft : (macroChanges actual expected).2 = [] ↔
      ∀ m ∈ (matchMacros actual expected).2,
        m.source ≠ ServiceMacro.directSource ∨ m.value = "" := by
    rw [List.eq_nil_iff_forall_not_mem]
    refine forall_congr' fun m => ?_
    rw [mem_macroChanges_snd, not_and_not_right]
  rw [Prod.ext_iff, hleft, forall_mem_matchMacros_snd]
  exact (and_congr_left' matchMacros_fst_eq_nil_iff).trans
    ⟨fun h => ⟨h.1, h.2⟩, fun h => ⟨h.met, h.leftOver⟩⟩

end MonitorSync
