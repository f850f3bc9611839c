import MonitorSync.Kube.Metadata
import MonitorSync.Proofs.Json
set_option autoImplicit false

/-!
# Reading metadata

What is read of the metadata of an object in its written form.

## Main results

* `Shape.lookup_readFields?` — the fields of an object that is read by its shape.
* `Metadata.name_of_ofDatum?`, `Metadata.ns_of_ofDatum?` — the name and namespace that are read.
* `Metadata.increasing_labels_of_ofDatum?` — labels are read in order.
-/

namespace MonitorSync

/-! ## Records -/

/-- The entries of an object as data. -/
lemma Datum.namedEntries?_ofJson (entries : List (String × Json)) :
    (Datum.ofJson (.obj entries)).namedEntries? =
      some (entries.map fun e => (e.1, Datum.ofJson e.2)) := by
  rw [Datum.ofJson, Datum.namedEntries?, Datum.entries?]
  change List.mapM _ (Datum.ofJsonEntries entries) = _
  induction entries with
  | nil => rfl
  | cons e entries ih =>
    obtain ⟨k, v⟩ := e
    rw [Datum.ofJsonEntries, List.mapM_cons, ih]
    rfl

/-- A value is read only from data that is one. -/
lemma Datum.read_of_optional? {α : Type} {read : Datum → Option α} {d : Datum} {a : α}
    (h : Datum.optional? read d = some (some a)) : read d = some a := by
  unfold Datum.optional? at h
  split at h
  · cases h
  · split at h
    · cases h
    · simpa using h
  · split at h
    · split at h <;> cases h
    · simpa using h
  · simpa using h

namespace Shape

variable {fields : List (String × Bool × Shape)} {entries : List (String × Datum)}
  {values : List (String × Json)} {name : String} {always : Bool} {shape : Shape}

/-- What is given for a field. -/
def given? (name : String) (shape : Shape) (entries : List (String × Datum)) :
    Option (Option Json) :=
  match lastValue? name entries with
  | none => some none
  | some d => Datum.optional? (read? shape) d

lemma readFields?_cons (rest : List (String × Bool × Shape)) :
    readFields? ((name, always, shape) :: rest) entries =
      (given? name shape entries).bind fun given => (readFields? rest entries).map fun others =>
        match given with
        | some v => (name, v) :: others
        | none => if always then (name, default shape) :: others else others := by
  have hrest (given : Option Json) :
      (do
        let others ← readFields? rest entries
        match given with
        | some v => some ((name, v) :: others)
        | none => some (if always then (name, default shape) :: others else others)) =
      (readFields? rest entries).map fun others =>
        match given with
        | some v => (name, v) :: others
        | none => if always then (name, default shape) :: others else others := by
    rcases given with _ | v <;> rcases readFields? rest entries with _ | others <;> rfl
  rw [readFields?, given?]
  rcases lastValue? name entries with _ | d
  · exact hrest none
  · refine congrArg (Option.bind _) (funext hrest)

/-- The fields that are read are among those of the shape, in order. -/
lemma sublist_readFields? (h : readFields? fields entries = some values) :
    (values.map Prod.fst).Sublist (fields.map Prod.fst) := by
  induction fields generalizing values with
  | nil =>
    cases h
    exact .slnil
  | cons f rest ih =>
    obtain ⟨name, always, shape⟩ := f
    rw [readFields?_cons] at h
    obtain ⟨given, -, h⟩ := Option.bind_eq_some_iff.1 h
    obtain ⟨others, hothers, rfl⟩ := Option.map_eq_some_iff.1 h
    rcases given with _ | v
    · dsimp only
      split
      · exact (ih hothers).cons_cons _
      · exact (ih hothers).cons _
    · exact (ih hothers).cons_cons _

/-- **Fields of a shape.** A field that may be absent is read from what is given for it. -/
theorem lookup_readFields? (hn : (fields.map Prod.fst).Nodup)
    (h : readFields? fields entries = some values) (hf : (name, false, shape) ∈ fields) :
    given? name shape entries = some (KeyMap.lookup name values) := by
  induction fields generalizing values with
  | nil => cases hf
  | cons f rest ih =>
    obtain ⟨name', always', shape'⟩ := f
    rw [List.map_cons, List.nodup_cons] at hn
    rw [readFields?_cons] at h
    obtain ⟨given, hgiven, h⟩ := Option.bind_eq_some_iff.1 h
    obtain ⟨others, hothers, rfl⟩ := Option.map_eq_some_iff.1 h
    rcases List.mem_cons.1 hf with heq | hf
    · cases heq
      have hnone : KeyMap.lookup name others = none := KeyMap.lookup_eq_none_iff.2 fun hmem =>
        hn.1 ((sublist_readFields? hothers).subset hmem)
      rw [hgiven]
      rcases given with _ | v
      · exact congrArg some hnone.symm
      · dsimp only
        rw [KeyMap.lookup_cons, if_pos rfl]
    · have hne : name' ≠ name := by
        rintro rfl
        exact hn.1 (List.mem_map.2 ⟨_, hf, rfl⟩)
      rw [ih hn.2 hothers hf]
      rcases given with _ | v
      · dsimp only
        split
        · rw [KeyMap.lookup_cons, if_neg hne]
        · rfl
      · dsimp only
        rw [KeyMap.lookup_cons, if_neg hne]

/-- **Reading by a shape.** A field of an object that is read by its shape is what is given for
it. -/
theorem given?_of_read? {d : Datum} {v : Json} (hn : (fields.map Prod.fst).Nodup)
    (h : read? (.object fields) d = some v) (hf : (name, false, shape) ∈ fields) :
    ∃ entries, d.namedEntries? = some entries ∧ given? name shape entries = some (v.get? name) := by
  have hlist : ∀ items, d ≠ .list items := by
    rintro items rfl
    rw [read?] at h
    cases h
  rw [read?] at h
  · obtain ⟨entries, hentries, h⟩ := Option.bind_eq_some_iff.1 h
    obtain ⟨values, hvalues, h⟩ := Option.bind_eq_some_iff.1 h
    cases h
    have hnodup := (sublist_readFields? hvalues).nodup hn
    refine ⟨entries, hentries, ?_⟩
    rw [Json.get?_ofEntries, KeyMap.lookup_reverse hnodup]
    exact lookup_readFields? hn hvalues hf
  · exact hlist

/-- The last value of a key of an object in order. -/
lemma lastValue?_map {m : KeyMap Json} (hm : m.Increasing) :
    lastValue? name (m.entries.map fun e => (e.1, Datum.ofJson e.2)) =
      (m.get? name).map Datum.ofJson := by
  rw [lastValue?, KeyMap.lookup_reverse]
  · exact KeyMap.lookup_map Datum.ofJson
  · have hnodup := hm.nodup
    rw [KeyMap.keys] at hnodup
    simpa [Function.comp_def] using hnodup

/-- A text that is given is that of the field. -/
private lemma toText?_given? {m : KeyMap Json} (hm : m.Increasing) {given : Option Json}
    (h : given? name .text (m.entries.map fun e => (e.1, Datum.ofJson e.2)) = some given) :
    given.bind Json.toText? = (m.get? name).bind Json.toText? := by
  rw [given?, lastValue?_map hm] at h
  rcases hget : m.get? name with _ | v
  · rw [hget] at h
    cases h
    rfl
  · rw [hget] at h
    cases v <;> simp only [Option.map_some, Datum.ofJson, Datum.optional?, read?, Datum.text?] at h
    all_goals cases h <;> rfl

end Shape

namespace Metadata

variable {m : KeyMap Json} {md : Metadata} {d : Datum}

private lemma shape_nodup : ∀ fields, shape = .object fields → (fields.map Prod.fst).Nodup := by
  rintro fields ⟨⟩
  decide

private lemma labels_mem : ∀ fields, shape = .object fields →
    ("labels", false, Shape.map .text) ∈ fields := by
  rintro fields ⟨⟩
  simp [Shape.textFields, Shape.field]

/-- A text that is read by a shape is that of the field. -/
private lemma textIn_of_read? {fields : List (String × Bool × Shape)} {v : Json} {key : String}
    (hn : (fields.map Prod.fst).Nodup) (hm : m.Increasing)
    (h : (Shape.object fields).read? (.ofJson (.ofMap m)) = some v)
    (hf : (key, false, Shape.text) ∈ fields) :
    textIn v key = (m.get? key).bind Json.toText? := by
  obtain ⟨entries, hentries, hgiven⟩ := Shape.given?_of_read? hn h hf
  rw [Json.ofMap, Datum.namedEntries?_ofJson] at hentries
  cases hentries
  exact Shape.toText?_given? hm hgiven

/-- The name that is read is that in the metadata. -/
theorem name_of_ofDatum? (hm : m.Increasing) (h : ofDatum? (.ofJson (.ofMap m)) = some md) :
    md.name = (m.get? "name").bind Json.toText? := by
  obtain ⟨v, hv, h⟩ := Option.bind_eq_some_iff.1 h
  cases h
  exact textIn_of_read? (shape_nodup _ rfl) hm hv (by simp [Shape.textFields, Shape.field])

/-- The namespace that is read is that in the metadata. -/
theorem ns_of_ofDatum? (hm : m.Increasing) (h : ofDatum? (.ofJson (.ofMap m)) = some md) :
    md.ns = (m.get? "namespace").bind Json.toText? := by
  obtain ⟨v, hv, h⟩ := Option.bind_eq_some_iff.1 h
  cases h
  exact textIn_of_read? (shape_nodup _ rfl) hm hv (by simp [Shape.textFields, Shape.field])

/-- A map is read in order. -/
lemma increasing_of_map? {α : Type} {read : Datum → Option α} {m : KeyMap α}
    (h : d.map? read = some m) : m.Increasing := by
  obtain ⟨entries, -, h⟩ := Option.bind_eq_some_iff.1 h
  obtain ⟨values, -, h⟩ := Option.bind_eq_some_iff.1 h
  cases h
  exact KeyMap.increasing_ofList

/-- The texts of a map in order are in order. -/
private lemma sublist_texts (entries : List (String × Json)) :
    ((entries.filterMap fun e => e.2.toText?.map (e.1, ·)).map Prod.fst).Sublist
      (entries.map Prod.fst) := by
  induction entries with
  | nil => exact .slnil
  | cons e entries ih =>
    rw [List.filterMap_cons]
    rcases e.2.toText? with _ | s
    · exact ih.cons _
    · exact ih.cons_cons _

/-- Labels are read in order. -/
theorem increasing_labels_of_ofDatum? (h : ofDatum? d = some md) {labels : KeyMap String}
    (hlabels : md.labels = some labels) : labels.Increasing := by
  obtain ⟨v, hv, h⟩ := Option.bind_eq_some_iff.1 h
  cases h
  obtain ⟨entries, -, hgiven⟩ := Shape.given?_of_read? (shape_nodup _ rfl) hv (labels_mem _ rfl)
  dsimp only at hlabels
  rw [mapIn] at hlabels
  split at hlabels
  · next present hpresent =>
    cases hlabels
    rw [hpresent, Shape.given?] at hgiven
    rcases hlast : Shape.lastValue? "labels" entries with _ | last
    · rw [hlast] at hgiven
      cases hgiven
    · rw [hlast] at hgiven
      have hread := Datum.read_of_optional? hgiven
      rw [Shape.read?] at hread
      obtain ⟨m, hm, hmap⟩ := Option.bind_eq_some_iff.1 hread
      cases hmap
      exact (increasing_of_map? hm).sublist (sublist_texts m.entries)
  · cases hlabels

end Metadata

end MonitorSync
