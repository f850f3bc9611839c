import MonitorSync.Proofs.Kube.Metadata
set_option autoImplicit false

/-!
# Values that have a shape

When reading by a shape succeeds. A value that was written has the shape of its part, so the
metadata that is asked for can be read back.

## Main definitions

* `Shape.Fits` — a value can be read by a shape.
* `Shape.FieldsFit` — the fields that an object has can be read by those of a shape.
* `Metadata.Asked` — metadata without what only a server sets.

## Main results

* `Shape.FieldsFit.fits` — an object can be read if its fields can.
* `Metadata.Asked.fieldsFit_toJson` — the fields of metadata that is asked for can be read.
-/

namespace MonitorSync

namespace Shape

/-- A value can be read by a shape. -/
def Fits (shape : Shape) (v : Json) : Prop := (shape.read? (.ofJson v)).isSome

variable {fields : List (String × Bool × Shape)} {shape : Shape} {v : Json} {m : KeyMap Json}

/-- A value that fits can be read where it may be absent. -/
lemma Fits.isSome_optional? (h : shape.Fits v) :
    (Datum.optional? (read? shape) (.ofJson v)).isSome := by
  cases v with
  | null => rfl
  | _ =>
    rw [Datum.ofJson, Datum.optional?, Option.isSome_map]
    · exact h
    all_goals intros; contradiction

/-! ## Lists and maps -/

/-- All of a list is read if each of its items is. -/
private lemma isSome_mapM {α β : Type} {f : α → Option β} {xs : List α}
    (h : ∀ x ∈ xs, (f x).isSome) : (xs.mapM f).isSome := by
  induction xs with
  | nil => rfl
  | cons x xs ih =>
    rw [List.forall_mem_cons] at h
    obtain ⟨y, hy⟩ := Option.isSome_iff_exists.1 h.1
    obtain ⟨ys, hys⟩ := Option.isSome_iff_exists.1 (ih h.2)
    rw [List.mapM_cons, hy, hys]
    rfl

/-- The items of a list as data. -/
private lemma ofJsonItems_eq (items : List Json) :
    Datum.ofJsonItems items = items.map Datum.ofJson := by
  induction items with
  | nil => rfl
  | cons v items ih => rw [Datum.ofJsonItems, ih, List.map_cons]

lemma fits_list {items : List Json} (h : ∀ v ∈ items, shape.Fits v) :
    (Shape.list shape).Fits (.arr items) := by
  have hread : ((Datum.ofJsonItems items).mapM (read? shape)).isSome := by
    rw [ofJsonItems_eq]
    refine isSome_mapM fun d hd => ?_
    obtain ⟨v, hv, rfl⟩ := List.mem_map.1 hd
    exact h v hv
  obtain ⟨values, hvalues⟩ := Option.isSome_iff_exists.1 hread
  rw [Fits, Datum.ofJson, read?, Datum.items?]
  change ((Datum.ofJsonItems items).mapM (read? shape) >>= _).isSome = true
  rw [hvalues]
  rfl

lemma fits_texts (xs : List String) : (Shape.list .text).Fits (.texts xs) := by
  refine fits_list fun v hv => ?_
  obtain ⟨s, -, rfl⟩ := List.mem_map.1 hv
  rfl

lemma fits_textMap (m : KeyMap String) : (Shape.map .text).Fits (.textMap m) := by
  have hnamed : (Datum.ofJson (.textMap m)).namedEntries? =
      some ((m.map Json.str).entries.map fun e => (e.1, Datum.ofJson e.2)) :=
    Datum.namedEntries?_ofJson _
  have hread : (((m.map Json.str).entries.map fun e => (e.1, Datum.ofJson e.2)).mapM
      fun e => (read? .text e.2).map (e.1, ·)).isSome := by
    refine isSome_mapM fun e he => ?_
    obtain ⟨x, hx, rfl⟩ := List.mem_map.1 he
    obtain ⟨p, -, rfl⟩ := List.mem_map.1 hx
    rfl
  obtain ⟨values, hvalues⟩ := Option.isSome_iff_exists.1 hread
  rw [Fits, read?, Datum.map?, hnamed]
  change ((((m.map Json.str).entries.map fun e => (e.1, Datum.ofJson e.2)).mapM
    (fun e => (read? .text e.2).map (e.1, ·)) >>= _) >>= _).isSome = true
  rw [hvalues]
  rfl

/-! ## Objects -/

/-- The fields that an object has can be read by those of a shape. -/
def FieldsFit (fields : List (String × Bool × Shape)) (v : Json) : Prop :=
  ∀ key w, v.get? key = some w → ∀ p ∈ KeyMap.lookup key fields, p.2.Fits w

lemma fieldsFit_ofEntries {entries : List (String × Json)}
    (h : ∀ e ∈ entries, ∀ p ∈ KeyMap.lookup e.1 fields, p.2.Fits e.2) :
    FieldsFit fields (.ofEntries entries) := by
  intro key w hw
  exact h (key, w) (KeyMap.mem_of_mem_ofList (KeyMap.mem_of_lookup hw))

/-- A field that is set fits as the others do. -/
lemma FieldsFit.set {key : String} {w : Json} (h : FieldsFit fields v)
    (hw : ∀ p ∈ KeyMap.lookup key fields, p.2.Fits w) : FieldsFit fields (v.set key w) := by
  cases v with
  | obj entries =>
    intro k x hx
    rw [Json.get?_set_obj] at hx
    by_cases hkey : key = k
    · rw [if_pos hkey] at hx
      cases hx
      exact hkey ▸ hw
    · rw [if_neg hkey] at hx
      exact h k x hx
  | _ => exact h

/-- What is given for a field of an object in order can be read if the field fits. -/
private lemma isSome_given? {name : String} (hm : m.Increasing)
    (h : ∀ w, m.get? name = some w → shape.Fits w) :
    (given? name shape (m.entries.map fun e => (e.1, Datum.ofJson e.2))).isSome := by
  rw [given?, lastValue?_map hm]
  cases hget : m.get? name with
  | none => rfl
  | some w => exact (h w hget).isSome_optional?

/-- All fields can be read if what is given for each can. -/
private lemma isSome_readFields? {entries : List (String × Datum)}
    (h : ∀ f ∈ fields, (given? f.1 f.2.2 entries).isSome) :
    (readFields? fields entries).isSome := by
  induction fields with
  | nil => rfl
  | cons f rest ih =>
    obtain ⟨name, always, shape⟩ := f
    rw [List.forall_mem_cons] at h
    obtain ⟨given, hgiven⟩ := Option.isSome_iff_exists.1 h.1
    obtain ⟨others, hothers⟩ := Option.isSome_iff_exists.1 (ih h.2)
    rw [readFields?_cons, hgiven, hothers]
    rfl

/-- **Objects.** An object in order can be read by a shape if its fields can. -/
theorem FieldsFit.fits (hn : (fields.map Prod.fst).Nodup) (hv : v.Ordered)
    (h : FieldsFit fields v) : (Shape.object fields).Fits v := by
  obtain ⟨m, rfl, hm⟩ := hv
  have hread :
      (readFields? fields (m.entries.map fun e => (e.1, Datum.ofJson e.2))).isSome := by
    refine isSome_readFields? fun f hf => isSome_given? hm fun w hw => ?_
    exact h f.1 w hw f.2 (KeyMap.lookup_of_mem hn hf)
  obtain ⟨values, hvalues⟩ := Option.isSome_iff_exists.1 hread
  rw [Fits, read?]
  · rw [Json.ofMap, Datum.namedEntries?_ofJson]
    change (readFields? fields (m.entries.map fun e => (e.1, Datum.ofJson e.2)) >>= _).isSome = true
    rw [hvalues]
    rfl
  · intro items hitems
    rw [Json.ofMap, Datum.ofJson] at hitems
    cases hitems

end Shape

open Shape

/-! ## Metadata -/

/-- The fields of a shape, if it is one of objects. -/
def Shape.fields : Shape → List (String × Bool × Shape)
  | .object fields => fields
  | _ => []

/-- A value fits the field of its name if it has the shape of that. -/
private lemma fits_field {fields : List (String × Bool × Shape)} {key : String} {always : Bool}
    {shape : Shape} {v : Json} (hfield : KeyMap.lookup key fields = some (always, shape))
    (hv : shape.Fits v) : ∀ p ∈ KeyMap.lookup key fields, p.2.Fits v := by
  rintro p hp
  obtain rfl : (always, shape) = p := Option.some.inj (hfield.symm.trans hp)
  exact hv

/-- A reference to an owner that was written can be read. -/
lemma OwnerReference.fits_toJson (r : OwnerReference) : Metadata.ownerShape.Fits r.toJson := by
  have hfields : FieldsFit Metadata.ownerShape.fields r.toJson := by
    refine fieldsFit_ofEntries ?_
    simp only [List.forall_mem_append, List.forall_mem_cons, Json.forall_mem_entry?]
    refine ⟨⟨⟨?_, ?_, ?_, ?_, List.forall_mem_nil _⟩, fun flag _ => ?_⟩, fun flag _ => ?_⟩
    all_goals exact fits_field rfl rfl
  exact hfields.fits (by decide) Json.ordered_ofEntries

namespace Metadata

/-- Metadata without what only a server sets. -/
structure Asked (m : Metadata) : Prop where
  generation : m.generation = none
  deletionTimestamp : m.deletionTimestamp = none
  managedFields : m.managedFields = none
  others : m.others = []

variable {m : Metadata} {v : Json}

/-- Metadata that is asked for is written from what may be asked for. -/
lemma Asked.toJson_eq (h : m.Asked) : m.toJson = .ofEntries (
    Json.entry? "name" (m.name.map .str) ++
    Json.entry? "generateName" (m.generateName.map .str) ++
    Json.entry? "namespace" (m.ns.map .str) ++
    Json.entry? "uid" (m.uid.map .str) ++
    Json.entry? "labels" (m.labels.map .textMap) ++
    Json.entry? "annotations" (m.annotations.map .textMap) ++
    Json.entry? "finalizers" (m.finalizers.map .texts) ++
    Json.entry? "ownerReferences"
      (m.ownerReferences.map fun owners => .arr (owners.map OwnerReference.toJson)) ++
    Json.entry? "resourceVersion" (m.resourceVersion.map .str)) := by
  have hnone (key : String) : Json.entry? key none = [] := rfl
  rw [toJson, h.generation, h.deletionTimestamp, h.managedFields, h.others]
  simp only [Option.map_none, hnone, List.nil_append, List.append_nil]

/-- **Metadata that is asked for.** Its fields can be read once it was written. -/
theorem Asked.fieldsFit_toJson (h : m.Asked) : FieldsFit shape.fields m.toJson := by
  rw [h.toJson_eq]
  refine fieldsFit_ofEntries ?_
  simp only [List.forall_mem_append, Json.forall_mem_entry?]
  refine ⟨⟨⟨⟨⟨⟨⟨⟨?_, ?_⟩, ?_⟩, ?_⟩, ?_⟩, ?_⟩, ?_⟩, ?_⟩, ?_⟩
  · exact fun name _ => fits_field rfl rfl
  · exact fun name _ => fits_field rfl rfl
  · exact fun ns _ => fits_field rfl rfl
  · exact fun uid _ => fits_field rfl rfl
  · exact fun labels _ => fits_field rfl (fits_textMap labels)
  · exact fun annotations _ => fits_field rfl (fits_textMap annotations)
  · exact fun finalizers _ => fits_field rfl (fits_texts finalizers)
  · intro owners _
    refine fits_field rfl (fits_list fun v hv => ?_)
    obtain ⟨r, -, rfl⟩ := List.mem_map.1 hv
    exact r.fits_toJson
  · exact fun version _ => fits_field rfl rfl

/-- A text that is set in metadata can be read there, under the names of texts. -/
lemma fieldsFit_set_text {key s : String} {always : Bool} (h : FieldsFit shape.fields v)
    (hkey : KeyMap.lookup key shape.fields = some (always, .text)) :
    FieldsFit shape.fields (v.set key (.str s)) :=
  h.set (fits_field hkey rfl)

/-- Metadata whose fields can be read is read. -/
theorem exists_of_fieldsFit (hv : v.Ordered) (h : FieldsFit shape.fields v) :
    ∃ m, ofDatum? (.ofJson v) = some m := by
  have hfits : shape.Fits v := h.fits (by decide) hv
  obtain ⟨w, hw⟩ := Option.isSome_iff_exists.1 hfits
  rw [ofDatum?, hw]
  exact ⟨_, rfl⟩

end Metadata

end MonitorSync
