import MonitorSync.Proofs.Service.Application
set_option autoImplicit false

/-!
# Plans are minimal

A plan is a collection of entries, each of which asks for one change. None of them is redundant:
carrying out a plan without one of its entries leaves the difference for which the entry stands.

## Main definitions

* `PlanEntry` — one change that a plan asks for.
* `ServicePlan.entries` — the entries of a plan.
* `ServicePlan.drop` — a plan without one of its entries.

## Main results

* `ServicePlan.perm_entries_drop` — a plan consists of an entry and of the plan without it.
* `ServicePlan.mem_entries_between_of_drop` — an entry that was dropped is found missing again.
* `ServicePlan.exec_apply_drop` — dropping an entry leaves a difference.
-/

namespace MonitorSync

open InMemoryPlatform

/-- One change that a plan asks for. -/
inductive PlanEntry where
  | param (name value : String)
  | host (value : String)
  | groupToSet (name : String)
  | groupToDelete (name : String)
  | categoryToSet (name : String)
  | categoryToDelete (name : String)
  | macroToSet (m : ServiceMacro)
  | macroToDelete (m : ServiceMacro)
deriving DecidableEq, Repr

/-! ## The entries of a plan -/

namespace ServicePlan

/-- The entries of a plan. -/
def entries (p : ServicePlan) : List PlanEntry :=
  p.params.toList.map (fun e => .param e.1 e.2) ++ (p.host.toList.map .host ++
    (p.groupsToSet.map .groupToSet ++ (p.groupsToDelete.map .groupToDelete ++
      (p.categoriesToSet.map .categoryToSet ++ (p.categoriesToDelete.map .categoryToDelete ++
        (p.macrosToSet.map .macroToSet ++ p.macrosToDelete.map .macroToDelete))))))

/-- A plan without one of its entries. -/
def drop (p : ServicePlan) : PlanEntry → ServicePlan
  | .param name _ => { p with params := p.params.erase name }
  | .host _ => { p with host := none }
  | .groupToSet name => { p with groupsToSet := p.groupsToSet.erase name }
  | .groupToDelete name => { p with groupsToDelete := p.groupsToDelete.erase name }
  | .categoryToSet name => { p with categoriesToSet := p.categoriesToSet.erase name }
  | .categoryToDelete name => { p with categoriesToDelete := p.categoriesToDelete.erase name }
  | .macroToSet m => { p with macrosToSet := p.macrosToSet.erase m }
  | .macroToDelete m => { p with macrosToDelete := p.macrosToDelete.erase m }

variable {p : ServicePlan} {e : PlanEntry} {name value : String} {m : ServiceMacro}

@[simp] lemma param_mem_entries :
    .param name value ∈ p.entries ↔ (name, value) ∈ p.params.entries := by
  simp [entries, KeyMap.toList]

@[simp] lemma host_mem_entries : .host value ∈ p.entries ↔ p.host = some value := by
  simp [entries]

@[simp] lemma groupToSet_mem_entries : .groupToSet name ∈ p.entries ↔ name ∈ p.groupsToSet := by
  simp [entries]

@[simp] lemma groupToDelete_mem_entries :
    .groupToDelete name ∈ p.entries ↔ name ∈ p.groupsToDelete := by
  simp [entries]

@[simp] lemma categoryToSet_mem_entries :
    .categoryToSet name ∈ p.entries ↔ name ∈ p.categoriesToSet := by
  simp [entries]

@[simp] lemma categoryToDelete_mem_entries :
    .categoryToDelete name ∈ p.entries ↔ name ∈ p.categoriesToDelete := by
  simp [entries]

@[simp] lemma macroToSet_mem_entries : .macroToSet m ∈ p.entries ↔ m ∈ p.macrosToSet := by
  simp [entries]

@[simp] lemma macroToDelete_mem_entries :
    .macroToDelete m ∈ p.entries ↔ m ∈ p.macrosToDelete := by
  simp [entries]

/-- There is something to change exactly if a plan has an entry. -/
lemma isDiff_iff_entries : p.isDiff = true ↔ p.entries ≠ [] := by
  rcases p with ⟨⟨entries⟩, host, _, _, _, _, _, _⟩
  simp [isDiff, ServicePlan.entries, KeyMap.isEmpty, KeyMap.toList, Option.isSome_iff_ne_none,
    imp_iff_not_or, or_assoc]

/-- What is one entry more in the second part is one entry more in the whole. -/
private lemma perm_append_cons {xs l l' : List PlanEntry} (h : l.Perm (e :: l')) :
    (xs ++ l).Perm (e :: (xs ++ l')) :=
  (h.append_left xs).trans List.perm_middle

/-- A list of entries consists of one of them and of those of the list without it. -/
private lemma perm_map_erase {α : Type} [BEq α] [LawfulBEq α] {l : List α} {a : α}
    (f : α → PlanEntry) (h : a ∈ l) : (l.map f).Perm (f a :: (l.erase a).map f) :=
  (List.perm_cons_erase h).map f

/-- **One entry less.** A plan consists of any of its entries and of the plan without it. -/
theorem perm_entries_drop (hinc : p.params.Increasing) (he : e ∈ p.entries) :
    p.entries.Perm (e :: (p.drop e).entries) := by
  cases e with
  | param name value =>
    exact ((hinc.perm_cons_erase (param_mem_entries.1 he)).map _).append_right _
  | host value =>
    refine perm_append_cons ?_
    rw [host_mem_entries.1 he]
    exact .refl _
  | groupToSet name =>
    exact perm_append_cons <| perm_append_cons <|
      (perm_map_erase _ (groupToSet_mem_entries.1 he)).append_right _
  | groupToDelete name =>
    exact perm_append_cons <| perm_append_cons <| perm_append_cons <|
      (perm_map_erase _ (groupToDelete_mem_entries.1 he)).append_right _
  | categoryToSet name =>
    exact perm_append_cons <| perm_append_cons <| perm_append_cons <| perm_append_cons <|
      (perm_map_erase _ (categoryToSet_mem_entries.1 he)).append_right _
  | categoryToDelete name =>
    exact perm_append_cons <| perm_append_cons <| perm_append_cons <| perm_append_cons <|
      perm_append_cons <| (perm_map_erase _ (categoryToDelete_mem_entries.1 he)).append_right _
  | macroToSet m =>
    exact perm_append_cons <| perm_append_cons <| perm_append_cons <| perm_append_cons <|
      perm_append_cons <| perm_append_cons <|
        (perm_map_erase _ (macroToSet_mem_entries.1 he)).append_right _
  | macroToDelete m =>
    exact perm_append_cons <| perm_append_cons <| perm_append_cons <| perm_append_cons <|
      perm_append_cons <| perm_append_cons <| perm_append_cons <|
        perm_map_erase _ (macroToDelete_mem_entries.1 he)

/-- A plan without one of its entries keeps its parameters in order. -/
private lemma increasing_params_drop (h : p.params.Increasing) (e : PlanEntry) :
    (p.drop e).params.Increasing := by
  cases e with
  | param => exact h.erase
  | _ => exact h

/-- A plan without one of its entries sets no other parameters. -/
private lemma params_drop_subset {param : String} (h : param ∈ (p.drop e).params.keys) :
    param ∈ p.params.keys := by
  cases e with
  | param => exact (List.filter_sublist.map Prod.fst).subset h
  | _ => exact h

end ServicePlan

/-! ## Names that were not changed -/

section Names

variable {n : String} {actual expected present names : List String}

/-- A name that is to be added and was not is missing still. -/
lemma mem_missingNames_of_notAdded (h : n ∈ missingNames expected actual) :
    n ∈ missingNames expected
      (removeNames (addNames actual ((missingNames expected actual).erase n)) names) := by
  have hn : (missingNames expected actual).Nodup := KeyMap.increasing_ofList.nodup
  rw [mem_missingNames, mem_removeNames, mem_addNames]
  rw [mem_missingNames] at h
  refine ⟨h.1, ?_⟩
  rintro ⟨hactual | herase, -⟩
  · exact h.2 hactual
  · exact hn.not_mem_erase herase

/-- A name that is to be removed and was not is too much still. -/
lemma mem_missingNames_of_notRemoved (h : n ∈ missingNames actual expected) :
    n ∈ missingNames
      (removeNames (addNames actual names) ((missingNames actual expected).erase n)) expected := by
  have hn : (missingNames actual expected).Nodup := KeyMap.increasing_ofList.nodup
  rw [mem_missingNames, mem_removeNames, mem_addNames]
  exact ⟨⟨.inl (mem_missingNames.1 h).1, hn.not_mem_erase⟩, (mem_missingNames.1 h).2⟩

/-- The same for a list of names that may be ignored. -/
lemma mem_watched_of_notAdded {c : Bool} (h : n ∈ if c then [] else missingNames expected actual) :
    n ∈ if c then [] else missingNames expected (removeNames
      (addNames actual ((if c then [] else missingNames expected actual).erase n)) names) := by
  cases c with
  | true => cases h
  | false => exact mem_missingNames_of_notAdded h

/-- The same for a list of names that may be ignored. -/
lemma mem_watched_of_notRemoved {c : Bool}
    (h : n ∈ if c then [] else missingNames actual expected) :
    n ∈ if c then [] else missingNames (removeNames (addNames actual names)
      ((if c then [] else missingNames actual expected).erase n)) expected := by
  cases c with
  | true => cases h
  | false => exact mem_missingNames_of_notRemoved h

end Names

/-! ## Macros that were not changed -/

section Macros

variable {m : ServiceMacro} {actual expected ms : List ServiceMacro}

/-- Where no two macros have one name, no other macro has the name of one. -/
private lemma name_notMem_erase (hn : (macroNames ms).Nodup) (hm : m ∈ ms) :
    m.name ∉ macroNames (ms.erase m) := by
  intro hname
  obtain ⟨x, hx, heq⟩ := List.mem_map.1 hname
  obtain rfl : x = m := List.inj_on_of_nodup_map hn (List.mem_of_mem_erase hx) hm heq
  exact (List.Nodup.of_map _ hn).not_mem_erase hx

/-- A macro that is to be set and was not is to be set still. -/
lemma mem_macroChanges_of_notSet (ha : (macroNames actual).Nodup)
    (he : (macroNames expected).Nodup) (hm : m ∈ (macroChanges actual expected).1) :
    m ∈ (macroChanges (deleteMacros (macroChanges actual expected).2
      (setMacros ((macroChanges actual expected).1.erase m) actual)) expected).1 := by
  have hset : (macroNames (macroChanges actual expected).1).Nodup :=
    he.sublist (names_set_sublist ha he)
  have hafter : (macroNames (deleteMacros (macroChanges actual expected).2
      (setMacros ((macroChanges actual expected).1.erase m) actual))).Nodup :=
    nodup_deleteMacros (nodup_setMacros ha)
  -- a macro of the name was there before
  have hbefore : ∀ x ∈ deleteMacros (macroChanges actual expected).2
      (setMacros ((macroChanges actual expected).1.erase m) actual),
      x.name = m.name → x ∈ actual := by
    intro x hx hname
    have hlookup := macro?_of_mem hafter hx
    rw [hname, macro?_deleteMacros, macro?_setMacros_of_not_mem (name_notMem_erase hset hm)]
      at hlookup
    split at hlookup
    · cases hlookup
    · exact (mem_of_macro? hlookup).1
  rw [macroChanges_eq ha he, List.mem_filter, decide_eq_true_eq] at hm
  rw [macroChanges_eq hafter he]
  exact List.mem_filter.2 ⟨hm.1, decide_eq_true fun x hx hmeets =>
    hm.2 x (hbefore x hx hmeets.1) hmeets⟩

/-- A macro that is to be deleted and was not is to be deleted still. -/
lemma mem_macroChanges_of_notDeleted (ha : (macroNames actual).Nodup)
    (he : (macroNames expected).Nodup) (hm : m ∈ (macroChanges actual expected).2) :
    m ∈ (macroChanges (deleteMacros ((macroChanges actual expected).2.erase m)
      (setMacros (macroChanges actual expected).1 actual)) expected).2 := by
  have hdelete : (macroNames (macroChanges actual expected).2).Nodup := by
    rw [macroChanges_eq ha he]
    exact ha.sublist ((List.filter_sublist.trans List.filter_sublist).map _)
  have hafter : (macroNames (deleteMacros ((macroChanges actual expected).2.erase m)
      (setMacros (macroChanges actual expected).1 actual))).Nodup :=
    nodup_deleteMacros (nodup_setMacros ha)
  have hnot : m ∈ actual ∧ m.name ∉ macroNames expected := by
    rw [macroChanges_eq ha he] at hm
    simpa using List.mem_of_mem_filter hm
  have hlookup : macro? m.name (deleteMacros ((macroChanges actual expected).2.erase m)
      (setMacros (macroChanges actual expected).1 actual)) = some m := by
    rw [macro?_deleteMacros, if_neg (name_notMem_erase hdelete hm),
      macro?_setMacros_of_not_mem fun h => hnot.2 ((names_set_sublist ha he).subset h),
      macro?_of_mem ha hnot.1]
  rw [macroChanges_eq ha he, List.mem_filter] at hm
  rw [macroChanges_eq hafter he]
  exact List.mem_filter.2 ⟨List.mem_filter.2 ⟨(mem_of_macro? hlookup).1, by simpa using hnot.2⟩,
    hm.2⟩

/-- The same for macros that may be ignored. -/
lemma mem_watched_of_notSet {c : Bool} (ha : (macroNames actual).Nodup)
    (he : (macroNames expected).Nodup)
    (hm : m ∈ (if c then ([], []) else macroChanges actual expected).1) :
    m ∈ (if c then ([], []) else macroChanges (deleteMacros
      (if c then ([], []) else macroChanges actual expected).2 (setMacros
        ((if c then ([], []) else macroChanges actual expected).1.erase m) actual))
          expected).1 := by
  cases c with
  | true => cases hm
  | false => exact mem_macroChanges_of_notSet ha he hm

/-- The same for macros that may be ignored. -/
lemma mem_watched_of_notDeleted {c : Bool} (ha : (macroNames actual).Nodup)
    (he : (macroNames expected).Nodup)
    (hm : m ∈ (if c then ([], []) else macroChanges actual expected).2) :
    m ∈ (if c then ([], []) else macroChanges (deleteMacros
      ((if c then ([], []) else macroChanges actual expected).2.erase m) (setMacros
        (if c then ([], []) else macroChanges actual expected).1 actual)) expected).2 := by
  cases c with
  | true => cases hm
  | false => exact mem_macroChanges_of_notDeleted ha he hm

end Macros

/-! ## Main result -/

namespace ServicePlan

variable {actual expected result : RemoteService} {ignored : List String} {e : PlanEntry}

/-- **Found missing again.** Where a plan between two services was achieved without one of its
entries, the plan from there has the entry. -/
theorem mem_entries_between_of_drop (ha : (macroNames actual.macros).Nodup)
    (he : (macroNames expected.macros).Nodup) (hmem : e ∈ (between actual expected ignored).entries)
    (h : ((between actual expected ignored).drop e).Achieved actual result) :
    e ∈ (between result expected ignored).entries := by
  cases e with
  | param name value =>
    rw [param_mem_entries] at hmem ⊢
    obtain ⟨s, hs, rfl, -⟩ := exists_scalar_of_mem_changedParams (List.mem_map_of_mem hmem)
    have hread : s.read result = s.read actual := by
      rw [h.scalars s hs]
      simp only [drop]
      rw [KeyMap.get?_erase, if_pos rfl, Option.getD_none]
    rw [← increasing_params_between.get?_eq_some_iff] at hmem ⊢
    rw [← hmem]
    simp only [between]
    rw [get?_changedParams (by decide) hs, get?_changedParams (by decide) hs, hread]
  | host value =>
    have hhost : result.host = actual.host := h.host
    rw [host_mem_entries] at hmem ⊢
    simpa only [between, hhost] using hmem
  | groupToSet name =>
    rw [groupToSet_mem_entries] at hmem ⊢
    rw [between, h.groups]
    exact mem_watched_of_notAdded hmem
  | groupToDelete name =>
    rw [groupToDelete_mem_entries] at hmem ⊢
    rw [between, h.groups]
    exact mem_watched_of_notRemoved hmem
  | categoryToSet name =>
    rw [categoryToSet_mem_entries] at hmem ⊢
    rw [between, h.categories]
    exact mem_watched_of_notAdded hmem
  | categoryToDelete name =>
    rw [categoryToDelete_mem_entries] at hmem ⊢
    rw [between, h.categories]
    exact mem_watched_of_notRemoved hmem
  | macroToSet m =>
    rw [macroToSet_mem_entries] at hmem ⊢
    rw [between, h.macros]
    exact mem_watched_of_notSet ha he hmem
  | macroToDelete m =>
    rw [macroToDelete_mem_entries] at hmem ⊢
    rw [between, h.macros]
    exact mem_watched_of_notDeleted ha he hmem

/-- **Plans are minimal.** Take a platform that holds one service whose macros have different names,
and the plan to a wanted service whose macros have different names. Each of its entries can be
dropped, which leaves a plan of all the others. Carrying that out, no call fails, and it leaves a
service that differs from the wanted one: the entry that was dropped is to be done still.

**Proof sketch.** Without the entry, the plan is one of the same kind, so it is achieved. The
entries that are left change other parameters, names in lists and macros than the one that was
dropped. -/
theorem exec_apply_drop (ha : (macroNames actual.macros).Nodup)
    (he : (macroNames expected.macros).Nodup) (ignored : List String) (gs : List RemoteGroup)
    (hmem : e ∈ (between actual expected ignored).entries) :
    let rest := (between actual expected ignored).drop e
    (between actual expected ignored).entries.Perm (e :: rest.entries) ∧
    ∃ result, Program.exec idealAnswer (rest.apply actual.host actual.name) ⟨[actual], gs⟩ =
        (.ok (), ⟨[result], gs⟩) ∧
      (between result expected ignored).isDiff = true ∧
      e ∈ (between result expected ignored).entries := by
  intro rest
  obtain ⟨result, hexec, hachieved⟩ : ∃ result,
      Program.exec idealAnswer (rest.apply actual.host actual.name) ⟨[actual], gs⟩ =
        (.ok (), ⟨[result], gs⟩) ∧ rest.Achieved actual result :=
    exec_apply_alone (increasing_params_drop increasing_params_between e)
      (fun _ hp => params_between_subset (params_drop_subset hp)) actual gs
  have hstill : e ∈ (between result expected ignored).entries :=
    mem_entries_between_of_drop ha he hmem hachieved
  exact ⟨perm_entries_drop increasing_params_between hmem, result, hexec,
    isDiff_iff_entries.2 (List.ne_nil_of_mem hstill), hstill⟩

/-- A service that is to be renamed and moved is only renamed if the move is dropped. -/
theorem exec_apply_drop_move :
    PlanEntry.host "g" ∈ (between { host := "h", name := "old" } { host := "g", name := "new" }
      []).entries ∧
    ∃ result, Program.exec idealAnswer
        (((between { host := "h", name := "old" } { host := "g", name := "new" } []).drop
          (.host "g")).apply "h" "old") ⟨[{ host := "h", name := "old" }], []⟩ =
          (.ok (), ⟨[result], []⟩) ∧
      PlanEntry.host "g" ∈ (between result { host := "g", name := "new" } []).entries := by
  have hmem : PlanEntry.host "g" ∈
      (between { host := "h", name := "old" } { host := "g", name := "new" } []).entries := by
    decide
  have hn : (macroNames []).Nodup := List.nodup_nil
  obtain ⟨-, result, hexec, -, hstill⟩ := exec_apply_drop hn hn [] [] hmem
  exact ⟨hmem, result, hexec, hstill⟩

end ServicePlan

end MonitorSync
