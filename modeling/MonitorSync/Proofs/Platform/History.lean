import MonitorSync.Proofs.Platform.Registry
set_option autoImplicit false

/-!
# The history of a registry

What a registry holds follows from the changes that were made to it, in order: registrations that
succeeded, and removals. The default entry is one more place for the entry of some platform, so it
must go or change whenever that platform does.

## Main definitions

* `RegistryChange` — a registration that succeeded, or a removal.
* `RegistryChange.Standing` — a name that a client was built for, and whose entry was not taken away
  since.
* `Registry.Changed` — what a change makes of a registry.
* `Registry.Recorded` — a registry with the changes that led to it from an empty one.

## Main results

* `RegistryOp.changed_run` — an operation makes at most one change.
* `Registry.Recorded.named` — every entry stands under its own name.
* `Registry.Recorded.holds_iff` — the names that have entries are those that stand.
* `Registry.default_entry_fresh` — the default entry is that of a platform that is registered.
-/

namespace MonitorSync

variable {Client : Type}

/-! ## Changes -/

/-- A change of a registry. -/
inductive RegistryChange where
  /-- A platform was registered, with a new client (`built`) or with the one that it had. -/
  | registered (name : String) (isDefault built : Bool)
  | removed (name : String)
deriving DecidableEq, Repr

namespace RegistryChange

variable {log : List RegistryChange} {c : RegistryChange} {n : String}

/-- A change takes the entry of a platform away: the platform is removed, or it is the one named
`default` and another platform becomes the default one. -/
def TakesAway (n : String) : RegistryChange → Prop
  | .registered name isDefault _ =>
    n = Registry.defaultName ∧ name ≠ Registry.defaultName ∧ isDefault = true
  | .removed name => name = n

/-- A client was built for a name, and its entry was not taken away since. -/
def Standing (log : List RegistryChange) (n : String) : Prop :=
  ∃ before isDefault since, log = before ++ .registered n isDefault true :: since ∧
    ∀ c ∈ since, ¬ c.TakesAway n

lemma not_standing_nil : ¬ Standing [] n := by
  rintro ⟨before, isDefault, since, h, -⟩
  simp at h

/-- A name stands after one more change if that built a client for it, or if the name stood before
and was not taken away. -/
lemma standing_concat : Standing (log ++ [c]) n ↔
    (∃ isDefault, c = .registered n isDefault true) ∨ Standing log n ∧ ¬ c.TakesAway n := by
  constructor
  · rintro ⟨before, isDefault, since, h, hsince⟩
    rcases since.eq_nil_or_concat with rfl | ⟨since, last, rfl⟩
    · obtain ⟨-, hc⟩ := List.append_inj' h rfl
      exact .inl ⟨isDefault, List.singleton_inj.1 hc⟩
    · rw [List.concat_eq_append, ← List.cons_append, ← List.append_assoc] at h
      obtain ⟨hlog, hc⟩ := List.append_inj' h rfl
      obtain rfl := List.singleton_inj.1 hc
      rw [List.concat_eq_append] at hsince
      exact .inr ⟨⟨before, isDefault, since, hlog, fun c hc =>
        hsince c (List.mem_append_left _ hc)⟩, hsince c List.mem_concat_self⟩
  · rintro (⟨isDefault, rfl⟩ | ⟨⟨before, isDefault, since, rfl, hsince⟩, hc⟩)
    · exact ⟨log, isDefault, [], rfl, fun _ h => by cases h⟩
    · refine ⟨before, isDefault, since ++ [c], by simp, fun c' hc' => ?_⟩
      rcases List.mem_append.1 hc' with hc' | hc'
      · exact hsince c' hc'
      · rwa [List.mem_singleton.1 hc']

end RegistryChange

namespace Registry

/-- What a change makes of a registry. A registration makes an entry or keeps the one of the
platform; the default entry is the same one if asked for, and else is not one of the platform. -/
inductive Changed : RegistryChange → Registry Client → Registry Client → Prop
  | registered {name : String} {isDefault built : Bool} {r r' : Registry Client}
    (e : PlatformEntry Client)
    (hentry : built = true ∧ e.name = name ∨ built = false ∧ r.entries.get? name = some e)
    (hafter : ∀ key, r'.entries.get? key =
      if key = name then some e
      else if key = defaultName then
        if isDefault then some e else (r.entries.get? defaultName).filter (·.name ≠ name)
      else r.entries.get? key) :
    Changed (.registered name isDefault built) r r'
  | removed {name : String} {r : Registry Client} : Changed (.removed name) r (r.remove name)

/-- A registry with the changes that led to it from an empty one. -/
inductive Recorded : List RegistryChange → Registry Client → Prop
  | empty : Recorded [] {}
  | change {log : List RegistryChange} {c : RegistryChange} {r r' : Registry Client}
    (h : Recorded log r) (hchange : Changed c r r') : Recorded (log ++ [c]) r'

/-- What an optional change makes of a registry. -/
def ChangedBy : Option RegistryChange → Registry Client → Registry Client → Prop
  | some c, r, r' => Changed c r r'
  | none, r, r' => r' = r

lemma Recorded.next {log : List RegistryChange} {c? : Option RegistryChange}
    {r r' : Registry Client} (h : Recorded log r) (hnext : ChangedBy c? r r') :
    Recorded (log ++ c?.toList) r' := by
  rcases c? with _ | c
  · obtain rfl : r' = r := hnext
    rwa [Option.toList_none, List.append_nil]
  · exact h.change hnext

end Registry

/-! ## The changes of operations -/

/-- The change that an operation makes: a registration that fails makes none. -/
def RegistryOp.change? (r : Registry Client) : RegistryOp Client → Option RegistryChange
  | .upsert name isDefault settings credentials build =>
    match (run r (.upsert name isDefault settings credentials build)).1 with
    | .ok built => some (.registered name isDefault built)
    | .error _ => none
  | .remove name => some (.removed name)

/-- **Operations.** An operation makes its change and no other. -/
theorem RegistryOp.changed_run (r : Registry Client) (op : RegistryOp Client) :
    Registry.ChangedBy (op.change? r) r (op.run r).2 := by
  cases op with
  | upsert name isDefault settings credentials build =>
    rcases hrun : ((RegistryOp.upsert name isDefault settings credentials build).run r).1
      with failure | built
    · simp only [change?, hrun]
      exact run_upsert_error hrun
    · simp only [change?, hrun]
      obtain ⟨e, hentry, hafter⟩ := run_upsert_ok hrun
      refine .registered e ?_ hafter
      rcases hentry with ⟨hbuilt, hname, -⟩ | ⟨hbuilt, hget, -⟩
      · exact .inl ⟨hbuilt, hname⟩
      · exact .inr ⟨hbuilt, hget⟩
  | remove name => exact .removed

namespace Registry

/-- The changes of a sequence of operations, in order. -/
def changes (r : Registry Client) : List (RegistryOp Client) → List RegistryChange
  | [] => []
  | op :: ops => (op.change? r).toList ++ changes (op.run r).2 ops

/-- Every registry that operations lead to has its record. -/
theorem recorded_after (ops : List (RegistryOp Client)) :
    Recorded (changes {} ops) (after ops) := by
  suffices hrun : ∀ (log : List RegistryChange) (r : Registry Client), Recorded log r →
      Recorded (log ++ changes r ops) (r.runAll ops) from hrun [] {} .empty
  induction ops with
  | nil =>
    intro log r h
    rwa [changes, List.append_nil]
  | cons op ops ih =>
    intro log r h
    rw [changes, ← List.append_assoc]
    exact ih _ _ (h.next (op.changed_run r))

/-! ## What a record says -/

variable {log : List RegistryChange} {c : RegistryChange} {r r' : Registry Client}
  {key n : String} {e : PlatformEntry Client}

/-- Every entry stands under its own name, and else only under that of the default entry. -/
def Named (r : Registry Client) : Prop :=
  ∀ key e, r.entries.get? key = some e →
    (key = e.name ∨ key = defaultName) ∧ r.entries.get? e.name = some e

/-- **Changes keep entries under their names.**

**Proof sketch.** A registration puts its entry under the name of the platform, and under the
default name only as well; the default entry of that platform does not survive otherwise. The other
entries keep their places, and with them the default entry if it is one of them. -/
lemma Changed.named (hchange : Changed c r r') (h : r.Named) : r'.Named := by
  intro key e hget
  cases hchange with
  | @registered name isDefault built _ _ e' hentry hafter =>
    -- The new entry has the name of the platform, unless it is one kept under the default name.
    have hname : e'.name = name ∨
        name = defaultName ∧ e'.name ≠ defaultName ∧ r.entries.get? e'.name = some e' := by
      rcases hentry with ⟨-, hname⟩ | ⟨-, hkept⟩
      · exact .inl hname
      · obtain ⟨rfl | rfl, hself⟩ := h _ _ hkept
        · exact .inl rfl
        · by_cases hdefault : e'.name = defaultName
          · exact .inl hdefault
          · exact .inr ⟨rfl, hdefault, hself⟩
    have hnew : r'.entries.get? e'.name = some e' := by
      rw [hafter]
      rcases hname with hname | ⟨rfl, hdefault, hself⟩
      · rw [if_pos hname]
      · rw [if_neg hdefault, if_neg hdefault, hself]
    rw [hafter] at hget
    split_ifs at hget with hkey hdefault hisDefault
    · obtain rfl := Option.some.inj hget
      refine ⟨?_, hnew⟩
      rcases hname with hname | ⟨hname, -⟩
      · exact .inl (hkey.trans hname.symm)
      · exact .inr (hkey.trans hname)
    · obtain rfl := Option.some.inj hget
      exact ⟨.inr hdefault, hnew⟩
    · obtain ⟨hkept, hother⟩ := Option.filter_eq_some_iff.1 hget
      have hother : e.name ≠ name := by simpa using hother
      refine ⟨.inr hdefault, ?_⟩
      rw [hafter, if_neg hother, hget]
      split
      · rfl
      · exact (h _ _ hkept).2
    · have hplace := h _ _ hget
      obtain rfl := hplace.1.resolve_right hdefault
      refine ⟨.inl rfl, ?_⟩
      rw [hafter, if_neg hkey, if_neg hdefault, hget]
  | @removed name =>
    rw [get?_remove] at hget
    split_ifs at hget with hkey hdefault
    · obtain ⟨hkept, hother⟩ := Option.filter_eq_some_iff.1 hget
      have hother : e.name ≠ name := by simpa using hother
      refine ⟨.inr hdefault, ?_⟩
      rw [get?_remove, if_neg hother, hget]
      split
      · rfl
      · exact (h _ _ hkept).2
    · have hplace := h _ _ hget
      obtain rfl := hplace.1.resolve_right hdefault
      refine ⟨.inl rfl, ?_⟩
      rw [get?_remove, if_neg hkey, if_neg hdefault, hget]

/-- **Entries stand under their names.** -/
theorem Recorded.named (h : Recorded log r) : r.Named := by
  induction h with
  | empty => exact fun _ _ hget => by cases hget
  | change _ hchange ih => exact hchange.named ih

/-- A platform has an entry under its own name. -/
def Holds (r : Registry Client) (n : String) : Prop :=
  ∃ e, r.entries.get? n = some e ∧ e.name = n

/-- A registry that holds nothing has no names. -/
lemma Named.names_eq_nil_iff (h : r.Named) : r.names = [] ↔ ∀ n, ¬ r.Holds n := by
  constructor
  · rintro hnames n ⟨e, hget, -⟩
    have hmem : n ∈ r.names := List.mem_map.2 ⟨_, KeyMap.mem_of_lookup hget, rfl⟩
    rw [hnames] at hmem
    cases hmem
  · intro hnone
    rw [names, KeyMap.keys, List.map_eq_nil_iff, List.eq_nil_iff_forall_not_mem]
    rintro ⟨key, e⟩ hmem
    have hkey : r.entries.get? key ≠ none := fun hget =>
      KeyMap.lookup_eq_none_iff.1 hget (List.mem_map.2 ⟨_, hmem, rfl⟩)
    obtain ⟨e', hget⟩ := Option.ne_none_iff_exists'.1 hkey
    exact hnone e'.name ⟨e', (h _ _ hget).2, rfl⟩

/-- **Changes and names.** A platform has an entry after a change if that built a client for it, or
if it had one that the change did not take away. -/
lemma Changed.holds_iff (hchange : Changed c r r') (h : r.Named) : r'.Holds n ↔
    (∃ isDefault, c = .registered n isDefault true) ∨ r.Holds n ∧ ¬ c.TakesAway n := by
  cases hchange with
  | @registered name isDefault built _ _ e hentry hafter =>
    simp only [Holds, hafter, RegistryChange.registered.injEq, RegistryChange.TakesAway]
    by_cases hn : n = name
    · subst hn
      rcases hentry with ⟨rfl, hname⟩ | ⟨rfl, hkept⟩
      · simp [hname]
      · simp only [hkept, if_true, Bool.false_eq_true, and_false, exists_false, false_or]
        exact (and_iff_left fun htaken => htaken.2.1 htaken.1).symm
    · by_cases hdefault : n = defaultName
      · subst hdefault
        -- The entry that another platform puts in the default place is not one named `default`.
        have hother : e.name ≠ defaultName := by
          rcases hentry with ⟨-, hname⟩ | ⟨-, hkept⟩
          · exact fun hname' => hn (hname'.symm.trans hname)
          · rcases (h _ _ hkept).1 with hname | hname
            · exact fun hname' => hn (hname'.symm.trans hname.symm)
            · exact absurd hname.symm hn
        cases isDefault
        · simp only [hn, Ne.symm hn, if_false, if_true, Bool.false_eq_true]
          constructor
          · rintro ⟨e', hget, hname⟩
            exact .inr ⟨⟨e', (Option.filter_eq_some_iff.1 hget).1, hname⟩, by simp⟩
          · rintro (⟨_, hname, -⟩ | ⟨⟨e', hget, hname⟩, -⟩)
            · exact hname.elim
            · refine ⟨e', Option.filter_eq_some_iff.2 ⟨hget, ?_⟩, hname⟩
              simpa [hname] using hn
        · simp [hn, Ne.symm hn, hother]
      · simp [hn, Ne.symm hn, hdefault]
  | @removed name =>
    simp only [Holds, get?_remove, RegistryChange.TakesAway]
    by_cases hn : n = name
    · simp [hn]
    · by_cases hdefault : n = defaultName
      · subst hdefault
        simp only [hn, Ne.symm hn, if_false, if_true, Option.filter_eq_some_iff]
        constructor
        · rintro ⟨e, ⟨hget, -⟩, hname⟩
          exact .inr ⟨⟨e, hget, hname⟩, not_false⟩
        · rintro (⟨_, ⟨⟩⟩ | ⟨⟨e, hget, hname⟩, -⟩)
          exact ⟨e, ⟨hget, by simpa [hname] using hn⟩, hname⟩
      · simp [hn, Ne.symm hn, hdefault]

/-- **Records and names.** The names that have entries are those that stand in the record. -/
theorem Recorded.holds_iff (h : Recorded log r) : r.Holds n ↔ RegistryChange.Standing log n := by
  induction h with
  | empty =>
    refine iff_of_false ?_ RegistryChange.not_standing_nil
    rintro ⟨e, hget, -⟩
    cases hget
  | change h hchange ih => rw [hchange.holds_iff h.named, RegistryChange.standing_concat, ih]

/-! ## The default entry -/

/-- **The default entry is never stale.** After any operations, every entry but the default one
stands under its own name, and the default entry is the very entry of the platform that it names. So
an empty reference gives the client that this platform has: the platform was registered, and it was
not removed since.

**Proof sketch.** An entry is under its own name after every change. What has an entry under its
name stands in the record of the changes. -/
theorem default_entry_fresh (ops : List (RegistryOp Client)) :
    (∀ key e, key ≠ defaultName → (after ops).entries.get? key = some e → e.name = key) ∧
    (∀ e, (after ops).entries.get? defaultName = some e → e.name ≠ defaultName →
      (after ops).entries.get? e.name = some e) ∧
    ∀ e, (after ops).get "" = .ok e →
      (after ops).entries.get? e.name = some e ∧
        RegistryChange.Standing (changes {} ops) e.name := by
  have hrecord := recorded_after ops
  refine ⟨fun key e hkey hget => ?_, fun e hget _ => (hrecord.named _ e hget).2,
    fun e hget => ?_⟩
  · exact ((hrecord.named key e hget).1.resolve_right hkey).symm
  · have hself := (hrecord.named _ e (get_eq_ok_iff.1 hget)).2
    exact ⟨hself, hrecord.holds_iff.1 ⟨e, hself, rfl⟩⟩

end Registry

end MonitorSync
