import Mathlib.Data.List.Perm.Subperm
import MonitorSync.Proofs.KeyMap
import MonitorSync.Remote.InMemory
import MonitorSync.Service.Plan
set_option autoImplicit false

/-!
# Changing lists of names and macros

Groups and categories of a service are sets of names: a plan adds what is missing and removes what
is too much. Macros are known by name: a plan sets those that differ and removes those that were
set on the service itself and are not wanted.

## Main definitions

* `ServiceMacro.meets` — a macro has the name, value and password flag of a wanted one.
* `changedMacros` — the macros after those of a plan were set and deleted.

## Main results

* `missingNames_changedNames` — after a change of names, none is missing and none is too much.
* `matchMacros_eq` — pairing off macros whose names differ is filtering.
* `macroChanges_changedMacros` — after a change of macros, there is nothing left to change.
* `nodup_of_matchMacros` — macros that are all met by macros of different names have different
  names.
-/

namespace MonitorSync

open InMemoryPlatform

/-! ## Names -/

section Names

variable {n : String} {left right present names : List String}

lemma mem_missingNames : n ∈ missingNames left right ↔ n ∈ left ∧ n ∉ right := by
  rw [missingNames, KeyMap.mem_keys_ofList]
  simp

lemma missingNames_eq_nil_iff : missingNames left right = [] ↔ left ⊆ right := by
  rw [List.eq_nil_iff_forall_not_mem]
  refine forall_congr' fun n => ?_
  rw [mem_missingNames, not_and, not_not]

lemma mem_addNames : n ∈ addNames present names ↔ n ∈ present ∨ n ∈ names := by
  rw [addNames]
  induction names generalizing present with
  | nil => simp
  | cons m names ih =>
    rw [List.foldl_cons, ih, List.mem_cons]
    split
    · next h =>
      have hm : m ∈ present := by simpa using h
      refine ⟨fun h => h.imp_right .inr, ?_⟩
      rintro (h | rfl | h)
      · exact .inl h
      · exact .inl hm
      · exact .inr h
    · simp only [List.mem_append, List.mem_singleton, or_assoc]

lemma mem_removeNames : n ∈ removeNames present names ↔ n ∈ present ∧ n ∉ names := by
  simp [removeNames]

@[simp] lemma addNames_nil : addNames present [] = present := rfl

@[simp] lemma removeNames_nil : removeNames present [] = present := by
  simp [removeNames]

/-- The names after those of a plan were added and removed. -/
def changedNames (actual expected : List String) : List String :=
  removeNames (addNames actual (missingNames expected actual)) (missingNames actual expected)

/-- A change of names makes a set of names the one that is wanted. -/
theorem mem_changedNames {actual expected : List String} :
    n ∈ changedNames actual expected ↔ n ∈ expected := by
  rw [changedNames, mem_removeNames, mem_addNames, mem_missingNames, mem_missingNames]
  tauto

/-- After a change of names, none is missing and none is too much. -/
theorem missingNames_changedNames (actual expected : List String) :
    missingNames expected (changedNames actual expected) = [] ∧
      missingNames (changedNames actual expected) expected = [] :=
  ⟨missingNames_eq_nil_iff.2 fun _ hn => mem_changedNames.2 hn,
    missingNames_eq_nil_iff.2 fun _ hn => mem_changedNames.1 hn⟩

end Names

/-! ## Pairing off macros -/

section Macros

variable {m w : ServiceMacro} {actual expected : List ServiceMacro}

/-- A macro has the name, value and password flag of a wanted one. -/
def ServiceMacro.meets (m w : ServiceMacro) : Prop :=
  m.name = w.name ∧ m.value = w.value ∧ m.effectiveFlag = w.effectiveFlag

instance (m w : ServiceMacro) : Decidable (m.meets w) :=
  inferInstanceAs (Decidable (_ ∧ _ ∧ _))

/-- The names of macros. -/
def macroNames (ms : List ServiceMacro) : List String := ms.map ServiceMacro.name

/-- The first element that is taken out stands between the others. -/
lemma takeFirst?_eq_some {α : Type} {p : α → Bool} {xs rest : List α} {x : α}
    (h : takeFirst? p xs = some (x, rest)) :
    p x ∧ ∃ before after, xs = before ++ x :: after ∧ rest = before ++ after := by
  induction xs generalizing rest with
  | nil => cases h
  | cons y xs ih =>
    rw [takeFirst?] at h
    split at h
    · next hy =>
      cases h
      exact ⟨hy, [], xs, rfl, rfl⟩
    · obtain ⟨⟨z, r⟩, hr, heq⟩ := Option.map_eq_some_iff.1 h
      cases heq
      obtain ⟨hx, before, after, rfl, rfl⟩ := ih hr
      exact ⟨hx, y :: before, after, rfl, rfl⟩

/-- If nothing is taken out, then no element is like it. -/
lemma takeFirst?_eq_none {α : Type} {p : α → Bool} {xs : List α} (h : takeFirst? p xs = none) :
    ∀ x ∈ xs, ¬ p x := by
  induction xs with
  | nil => simp
  | cons y xs ih =>
    rw [takeFirst?] at h
    split at h
    · cases h
    · next hy =>
      rw [Option.map_eq_none_iff] at h
      exact List.forall_mem_cons.2 ⟨hy, ih h⟩

lemma name_of_takeFirst? {current : ServiceMacro} {remaining : List ServiceMacro}
    (h : takeFirst? (fun m => m.name = w.name) actual = some (current, remaining)) :
    current.name = w.name := by
  simpa using (takeFirst?_eq_some h).1

/-- A wanted macro without a partner is to be set. -/
lemma matchMacros_cons_of_none {rest : List ServiceMacro}
    (h : takeFirst? (fun m => m.name = w.name) actual = none) :
    matchMacros actual (w :: rest) =
      (w :: (matchMacros actual rest).1, (matchMacros actual rest).2) := by
  rw [matchMacros, h]

/-- A wanted macro with a partner is to be set if the partner does not meet it. -/
lemma matchMacros_cons_of_some {rest remaining : List ServiceMacro} {current : ServiceMacro}
    (h : takeFirst? (fun m => m.name = w.name) actual = some (current, remaining)) :
    matchMacros actual (w :: rest) =
      (if current.meets w then (matchMacros remaining rest).1
        else w :: (matchMacros remaining rest).1, (matchMacros remaining rest).2) := by
  have hname := name_of_takeFirst? h
  rw [matchMacros, h]
  dsimp only
  by_cases hm : current.meets w
  · rw [if_neg (by simp [hm.2.1, hm.2.2]), if_pos hm]
  · rw [if_neg hm, if_pos]
    by_contra hsame
    exact hm ⟨hname, by simpa using hsame⟩

/-- Where no two macros have one name, taking out the one of a name leaves those of other names. -/
private lemma remaining_eq_filter {current : ServiceMacro} {remaining : List ServiceMacro}
    (ha : (macroNames actual).Nodup)
    (h : takeFirst? (fun m => m.name = w.name) actual = some (current, remaining)) :
    remaining = actual.filter fun m => m.name ≠ w.name := by
  have hname := name_of_takeFirst? h
  obtain ⟨before, after, rfl, rfl⟩ := (takeFirst?_eq_some h).2
  rw [macroNames, List.map_append, List.map_cons, List.nodup_middle, List.nodup_cons,
    ← List.map_append] at ha
  have hothers : ∀ m ∈ before ++ after, m.name ≠ w.name := fun m hm heq =>
    ha.1 (List.mem_map.2 ⟨m, hm, by rw [heq, hname]⟩)
  rw [List.filter_append, List.filter_cons_of_neg (by simpa using hname), ← List.filter_append]
  exact (List.filter_eq_self.2 fun m hm => decide_eq_true (hothers m hm)).symm

/-- Where no two macros have one name, only the partner of a wanted macro can meet it. -/
private lemma forall_not_meets_iff {current : ServiceMacro} (ha : (macroNames actual).Nodup)
    (hcurrent : current ∈ actual) (hname : current.name = w.name) :
    (∀ m ∈ actual, ¬ m.meets w) ↔ ¬ current.meets w := by
  refine ⟨fun h => h current hcurrent, fun h m hm hmeets => h ?_⟩
  rwa [List.inj_on_of_nodup_map ha hcurrent hm (hname.trans hmeets.1.symm)]

/-- **Pairing off.** Where no two macros of a list have one name, the macros to set are those that
no actual one meets, and the macros left over are those whose names are not wanted. -/
theorem matchMacros_eq (ha : (macroNames actual).Nodup) (he : (macroNames expected).Nodup) :
    matchMacros actual expected =
      (expected.filter fun w => ∀ m ∈ actual, ¬ m.meets w,
        actual.filter fun m => m.name ∉ macroNames expected) := by
  induction expected generalizing actual with
  | nil => simp [matchMacros, macroNames]
  | cons w rest ih =>
    rw [macroNames, List.map_cons, List.nodup_cons] at he
    rcases htake : takeFirst? (fun m => m.name = w.name) actual with _ | ⟨current, remaining⟩
    · -- no actual macro has the name
      have hne : ∀ m ∈ actual, m.name ≠ w.name := by simpa using takeFirst?_eq_none htake
      rw [matchMacros_cons_of_none htake, ih ha he.2, List.filter_cons_of_pos]
      · congr 1
        refine List.filter_congr fun m hm => ?_
        simp [macroNames, hne m hm]
      · simpa using fun m hm (hmeets : m.meets w) => hne m hm hmeets.1
    · have hcurrent : current ∈ actual := by
        obtain ⟨before, after, rfl, -⟩ := (takeFirst?_eq_some htake).2
        exact List.mem_append_right _ List.mem_cons_self
      have hw := forall_not_meets_iff ha hcurrent (name_of_takeFirst? htake)
      have hremaining := remaining_eq_filter ha htake
      have hset : (rest.filter fun v => ∀ m ∈ remaining, ¬ m.meets v) =
          rest.filter fun v => ∀ m ∈ actual, ¬ m.meets v := by
        -- a macro that meets one of the rest has another name than `w`
        refine List.filter_congr fun v hv => decide_eq_decide.2 ?_
        have hne (m : ServiceMacro) (h : m.meets v) : m.name ≠ w.name := fun heq =>
          he.1 (List.mem_map.2 ⟨v, hv, by rw [← h.1, heq]⟩)
        simp only [hremaining, List.mem_filter, decide_eq_true_eq, and_imp]
        exact forall₂_congr fun m _ => ⟨fun h hm => h (hne m hm) hm, fun h _ => h⟩
      have hleft : (remaining.filter fun m => m.name ∉ macroNames rest) =
          actual.filter fun m => m.name ∉ macroNames (w :: rest) := by
        rw [hremaining, List.filter_filter]
        refine List.filter_congr fun m _ => ?_
        by_cases hm : m.name = w.name <;> simp [macroNames, hm]
      have ha' : (macroNames remaining).Nodup := by
        rw [hremaining]
        exact ha.sublist (List.filter_sublist.map _)
      rw [matchMacros_cons_of_some htake, ih ha' he.2, hset, hleft, List.filter_cons]
      simp only [hw, decide_not, Bool.not_eq_true', decide_eq_false_iff_not, ite_not]

/-! ## Setting and deleting macros -/

/-- The macro of a name. -/
def macro? (n : String) (ms : List ServiceMacro) : Option ServiceMacro :=
  ms.find? fun m => m.name = n

lemma mem_of_macro? {n : String} {ms : List ServiceMacro} (h : macro? n ms = some m) :
    m ∈ ms ∧ m.name = n :=
  ⟨List.mem_of_find?_eq_some h, by simpa using List.find?_some h⟩

lemma macro?_eq_none_iff {n : String} {ms : List ServiceMacro} :
    macro? n ms = none ↔ n ∉ macroNames ms := by
  simp [macro?, macroNames]

/-- Where no two macros have one name, each is found under its own. -/
lemma macro?_of_mem {ms : List ServiceMacro} (hn : (macroNames ms).Nodup) (h : m ∈ ms) :
    macro? m.name ms = some m := by
  rcases hf : macro? m.name ms with _ | k
  · exact absurd (List.mem_map_of_mem h) (macro?_eq_none_iff.1 hf)
  · obtain ⟨hk, hname⟩ := mem_of_macro? hf
    rw [List.inj_on_of_nodup_map hn hk h hname]

/-- A macro that is put replaces the one of its name and leaves all others. -/
lemma macro?_putMacro (n : String) (m : ServiceMacro) (ms : List ServiceMacro) :
    macro? n (putMacro m ms) = if m.name = n then some m else macro? n ms := by
  rw [putMacro]
  split
  · next hany =>
    induction ms with
    | nil => simp at hany
    | cons x ms ih =>
      rw [modifyFirst]
      by_cases hx : x.name = m.name
      · rw [if_pos (by simpa using hx), macro?, macro?, List.find?_cons, List.find?_cons, hx]
        by_cases hm : m.name = n <;> simp [hm]
      · rw [if_neg (by simpa using hx)]
        have hany' : ms.any fun x => x.name = m.name := by simpa [hx] using hany
        have ih := ih hany'
        rw [macro?, macro?] at ih ⊢
        rw [List.find?_cons, List.find?_cons, ih]
        by_cases hm : m.name = n
        · simp [hm ▸ hx, hm]
        · simp [hm]
  · next hany =>
    have hnone (hm : m.name = n) : ms.find? (fun m => m.name = n) = none := by
      subst hm
      simpa using hany
    rw [macro?, macro?, List.find?_append]
    by_cases hm : m.name = n
    · simp [hnone hm, hm]
    · simp [hm]

/-- Replacing a macro by one of its name keeps all names. -/
private lemma macroNames_modifyFirst (m : ServiceMacro) (ms : List ServiceMacro) :
    macroNames (modifyFirst (fun x => x.name = m.name) (fun _ => m) ms) = macroNames ms := by
  induction ms with
  | nil => rfl
  | cons x ms ih =>
    rw [modifyFirst]
    split
    · next hx => simp [macroNames, show x.name = m.name by simpa using hx]
    · simpa [macroNames] using ih

/-- Putting a macro keeps names apart. -/
lemma nodup_putMacro {ms : List ServiceMacro} (hn : (macroNames ms).Nodup) (m : ServiceMacro) :
    (macroNames (putMacro m ms)).Nodup := by
  rw [putMacro]
  split
  · rwa [macroNames_modifyFirst]
  · next hany =>
    rw [macroNames, List.map_append, List.map_singleton, ← List.concat_eq_append,
      List.nodup_concat]
    refine ⟨fun hm => hany ?_, hn⟩
    obtain ⟨x, hx, hname⟩ := List.mem_map.1 hm
    exact List.any_eq_true.2 ⟨x, hx, by simpa using hname⟩

/-- Setting macros one after the other. -/
def setMacros (toSet ms : List ServiceMacro) : List ServiceMacro :=
  toSet.foldl (fun ms m => putMacro { m with source := ServiceMacro.directSource } ms) ms

/-- Deleting macros one after the other. -/
def deleteMacros (toDelete ms : List ServiceMacro) : List ServiceMacro :=
  toDelete.foldl (fun ms d => ms.filter fun m => m.name ≠ d.name) ms

lemma nodup_setMacros {toSet ms : List ServiceMacro} (hn : (macroNames ms).Nodup) :
    (macroNames (setMacros toSet ms)).Nodup := by
  induction toSet generalizing ms with
  | nil => exact hn
  | cons w toSet ih => exact ih (nodup_putMacro hn _)

lemma nodup_deleteMacros {toDelete ms : List ServiceMacro} (hn : (macroNames ms).Nodup) :
    (macroNames (deleteMacros toDelete ms)).Nodup := by
  induction toDelete generalizing ms with
  | nil => exact hn
  | cons d toDelete ih => exact ih (hn.sublist (List.filter_sublist.map _))

lemma macro?_setMacros_of_not_mem {n : String} {toSet ms : List ServiceMacro}
    (hn : n ∉ macroNames toSet) : macro? n (setMacros toSet ms) = macro? n ms := by
  induction toSet generalizing ms with
  | nil => rfl
  | cons w toSet ih =>
    rw [macroNames, List.map_cons, List.mem_cons, not_or] at hn
    change macro? n (setMacros toSet _) = _
    rw [ih hn.2, macro?_putMacro, if_neg (Ne.symm hn.1)]

private lemma macro?_setMacros_of_mem {toSet ms : List ServiceMacro}
    (hn : (macroNames toSet).Nodup) (hw : w ∈ toSet) :
    macro? w.name (setMacros toSet ms) = some { w with source := ServiceMacro.directSource } := by
  induction toSet generalizing ms with
  | nil => cases hw
  | cons v toSet ih =>
    rw [macroNames, List.map_cons, List.nodup_cons] at hn
    change macro? w.name (setMacros toSet _) = _
    rcases List.mem_cons.1 hw with rfl | hw
    · rw [macro?_setMacros_of_not_mem hn.1, macro?_putMacro, if_pos rfl]
    · exact ih hn.2 hw

lemma macro?_deleteMacros (n : String) (toDelete ms : List ServiceMacro) :
    macro? n (deleteMacros toDelete ms) =
      if n ∈ macroNames toDelete then none else macro? n ms := by
  induction toDelete generalizing ms with
  | nil => rfl
  | cons d toDelete ih =>
    change macro? n (deleteMacros toDelete _) = _
    have hfilter : macro? n (ms.filter fun m => m.name ≠ d.name) =
        if n = d.name then none else macro? n ms := by
      rw [macro?, List.find?_filter]
      split
      · next heq => simp [heq]
      · next hne =>
        rw [macro?]
        congr 1
        funext m
        by_cases hm : m.name = n <;> simp [hm, hne]
    rw [ih, hfilter]
    by_cases hd : n = d.name <;> by_cases hmem : n ∈ macroNames toDelete <;>
      simp_all [macroNames]

/-- Setting macros adds their names. -/
lemma mem_macroNames_setMacros {n : String} {toSet ms : List ServiceMacro} :
    n ∈ macroNames (setMacros toSet ms) ↔ n ∈ macroNames ms ∨ n ∈ macroNames toSet := by
  induction toSet generalizing ms with
  | nil => simp [setMacros, macroNames]
  | cons w toSet ih =>
    have hput : n ∈ macroNames (putMacro { w with source := ServiceMacro.directSource } ms) ↔
        n ∈ macroNames ms ∨ n = w.name := by
      rw [← not_iff_not, ← macro?_eq_none_iff, macro?_putMacro, not_or, ← macro?_eq_none_iff]
      by_cases hw : n = w.name <;> simp [hw, eq_comm]
    change n ∈ macroNames (setMacros toSet _) ↔ _
    rw [ih, hput, macroNames, macroNames, macroNames, List.map_cons, List.mem_cons, or_assoc]

/-- The macros after those of a plan were set and deleted. -/
def changedMacros (actual expected : List ServiceMacro) : List ServiceMacro :=
  deleteMacros (macroChanges actual expected).2 (setMacros (macroChanges actual expected).1 actual)

/-- Changing macros keeps names apart. -/
theorem nodup_changedMacros (ha : (macroNames actual).Nodup) (expected : List ServiceMacro) :
    (macroNames (changedMacros actual expected)).Nodup :=
  nodup_deleteMacros (nodup_setMacros ha)

/-- What a plan changes: the wanted macros that no actual one meets are set, and the macros of the
service itself that are neither wanted nor empty are deleted. -/
lemma macroChanges_eq (ha : (macroNames actual).Nodup) (he : (macroNames expected).Nodup) :
    macroChanges actual expected =
      (expected.filter fun w => ∀ m ∈ actual, ¬ m.meets w,
        (actual.filter fun m => m.name ∉ macroNames expected).filter
          fun m => m.source = ServiceMacro.directSource && !m.value.isEmpty) := by
  rw [macroChanges, matchMacros_eq ha he]

/-- Nothing is set that is not wanted. -/
lemma names_set_sublist (ha : (macroNames actual).Nodup)
    (he : (macroNames expected).Nodup) :
    (macroNames (macroChanges actual expected).1).Sublist (macroNames expected) := by
  rw [macroChanges_eq ha he]
  exact List.filter_sublist.map _

/-- Nothing is deleted that is wanted. -/
private lemma not_mem_names_deleted (ha : (macroNames actual).Nodup)
    (he : (macroNames expected).Nodup) {n : String} (hn : n ∈ macroNames expected) :
    n ∉ macroNames (macroChanges actual expected).2 := by
  intro hd
  obtain ⟨d, hmem, rfl⟩ := List.mem_map.1 hd
  rw [macroChanges_eq ha he] at hmem
  simpa [hn] using List.mem_of_mem_filter hmem

/-- After a change of macros, a wanted one is met: either it was set and its name was not deleted,
or the one that met it before is still there. -/
private lemma exists_meets_changedMacros (ha : (macroNames actual).Nodup)
    (he : (macroNames expected).Nodup) (hw : w ∈ expected) :
    ∃ m ∈ changedMacros actual expected, m.meets w := by
  have hlookup : macro? w.name (changedMacros actual expected) =
      macro? w.name (setMacros (macroChanges actual expected).1 actual) := by
    rw [changedMacros, macro?_deleteMacros,
      if_neg (not_mem_names_deleted ha he (List.mem_map_of_mem hw))]
  by_cases hset : w ∈ (macroChanges actual expected).1
  · rw [macro?_setMacros_of_mem (he.sublist (names_set_sublist ha he)) hset] at hlookup
    exact ⟨_, (mem_of_macro? hlookup).1, rfl, rfl, rfl⟩
  · have hnot : w.name ∉ macroNames (macroChanges actual expected).1 := by
      intro hmap
      obtain ⟨v, hv, hname⟩ := List.mem_map.1 hmap
      have hv' : v ∈ expected := by
        rw [macroChanges_eq ha he] at hv
        exact List.mem_of_mem_filter hv
      exact hset (List.inj_on_of_nodup_map he hv' hw hname ▸ hv)
    obtain ⟨m, hm, hmeets⟩ : ∃ m ∈ actual, m.meets w := by
      rw [macroChanges_eq ha he, List.mem_filter] at hset
      simpa [hw] using hset
    rw [macro?_setMacros_of_not_mem hnot, ← hmeets.1, macro?_of_mem ha hm] at hlookup
    exact ⟨m, (mem_of_macro? hlookup).1, hmeets⟩

/-- After a change of macros, one of a name that is not wanted was there before, and it stayed
because it is empty or not one of the service itself. -/
private lemma not_deletable_of_mem_changedMacros (ha : (macroNames actual).Nodup)
    (he : (macroNames expected).Nodup) (hm : m ∈ changedMacros actual expected)
    (hn : m.name ∉ macroNames expected) :
    ¬ (m.source = ServiceMacro.directSource && !m.value.isEmpty) := by
  have hlookup := macro?_of_mem (nodup_changedMacros ha expected) hm
  rw [changedMacros, macro?_deleteMacros, macro?_setMacros_of_not_mem fun h =>
    hn ((names_set_sublist ha he).subset h)] at hlookup
  split at hlookup
  · cases hlookup
  · next hstay =>
    intro hdirect
    have hactual := (mem_of_macro? hlookup).1
    refine hstay (List.mem_map_of_mem (f := ServiceMacro.name) ?_)
    rw [macroChanges_eq ha he]
    exact List.mem_filter.2 ⟨List.mem_filter.2 ⟨hactual, by simpa using hn⟩, hdirect⟩

/-- **Macros converge.** After a change of macros, there is nothing left to change. -/
theorem macroChanges_changedMacros (ha : (macroNames actual).Nodup)
    (he : (macroNames expected).Nodup) :
    macroChanges (changedMacros actual expected) expected = ([], []) := by
  rw [macroChanges_eq (nodup_changedMacros ha expected) he]
  refine Prod.ext (List.filter_eq_nil_iff.2 fun w hw => ?_)
    (List.filter_eq_nil_iff.2 fun m hm => ?_)
  · simpa using exists_meets_changedMacros ha he hw
  · rw [List.mem_filter] at hm
    exact not_deletable_of_mem_changedMacros ha he hm.1 (by simpa using hm.2)

/-- Wanted macros that have all found a partner have names among those of their partners, as often
as these. -/
private lemma subperm_of_matchMacros (h : (matchMacros actual expected).1 = []) :
    (macroNames expected).Subperm (macroNames actual) := by
  induction expected generalizing actual with
  | nil => exact List.nil_subperm
  | cons w rest ih =>
    rcases htake : takeFirst? (fun m => m.name = w.name) actual with _ | ⟨current, remaining⟩
    · rw [matchMacros_cons_of_none htake] at h
      cases h
    · rw [matchMacros_cons_of_some htake] at h
      have hrest : (matchMacros remaining rest).1 = [] := by
        dsimp only at h
        split at h
        · exact h
        · cases h
      have hname := name_of_takeFirst? htake
      obtain ⟨before, after, rfl, rfl⟩ := (takeFirst?_eq_some htake).2
      have hperm : (macroNames (current :: (before ++ after))).Perm
          (macroNames (before ++ current :: after)) := List.perm_middle.symm.map _
      refine List.Subperm.trans ?_ hperm.subperm
      rw [macroNames, macroNames, List.map_cons, List.map_cons, hname]
      exact (List.subperm_cons _).2 (ih hrest)

/-- Wanted macros that are all met by macros of different names have different names. -/
theorem nodup_of_matchMacros (ha : (macroNames actual).Nodup)
    (h : (matchMacros actual expected).1 = []) : (macroNames expected).Nodup := by
  obtain ⟨names, hperm, hsub⟩ := subperm_of_matchMacros h
  exact hperm.nodup_iff.1 (ha.sublist hsub)

end Macros

end MonitorSync
