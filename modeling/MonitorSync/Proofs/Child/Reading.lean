import MonitorSync.Child.Kind
import MonitorSync.Proofs.Kube.Metadata
set_option autoImplicit false

/-!
# Reading specifications back

A specification in its written form is read as the one that was written. What is left out when it is
written is what is there by default.

## Main definitions

* `Json.ofParts` — the object with the given fields, where those without a value are left out.

## Main results

* `Datum.Fields.exists_ofMap`, `Datum.Fields.exists_ofParts` — the fields of an object in order, and
  of one that was written from parts.
* `Policy.ofDatum?_toJson`, `ServiceSpec.ofDatum?_toJson`, `GroupSpec.ofDatum?_toJson` — what is
  read is what was written.
-/

namespace MonitorSync

/-! ## Entries that may be left out -/

namespace Json

variable {key : String} {parts : List (String × Option Json)}

/-- The object with the given fields, where those without a value are left out. -/
def ofParts (parts : List (String × Option Json)) : Json :=
  ofEntries (parts.flatMap fun p => entry? p.1 p.2)

/-- The fields of an object are among its parts, in order. -/
private lemma sublist_parts :
    ((parts.flatMap fun p => entry? p.1 p.2).map Prod.fst).Sublist (parts.map Prod.fst) := by
  induction parts with
  | nil => exact .slnil
  | cons p parts ih =>
    obtain ⟨key, _ | v⟩ := p
    · exact ih.cons _
    · exact ih.cons_cons _

lemma lookup_part {k : String} {v : Option Json} :
    KeyMap.lookup k (Json.entry? key v) = if key = k then v else none := by
  unfold entry?
  rcases v with _ | v <;> simp [KeyMap.lookup_cons]

/-- **Fields.** A field of an object made of parts has the value that it is given there. -/
theorem get?_ofParts (hn : (parts.map Prod.fst).Nodup) :
    (ofParts parts).get? key = (KeyMap.lookup key parts).join := by
  rw [ofParts, get?_ofEntries, KeyMap.lookup_reverse (sublist_parts.nodup hn)]
  induction parts with
  | nil => rfl
  | cons p parts ih =>
    obtain ⟨name, v⟩ := p
    rw [List.map_cons, List.nodup_cons] at hn
    rw [List.flatMap_cons, KeyMap.lookup_append, lookup_part, ih hn.2, KeyMap.lookup_cons]
    by_cases hkey : name = key
    · subst hkey
      rw [if_pos rfl, if_pos rfl, KeyMap.lookup_eq_none_iff.2 hn.1]
      exact Option.or_none
    · rw [if_neg hkey, if_neg hkey]
      exact Option.none_or

lemma textEntry_eq {s : String} :
    textEntry key s = entry? key (if s.isEmpty then none else some (.str s)) := by
  rw [textEntry]
  split <;> rfl

lemma textsEntry_eq {xs : List String} :
    textsEntry key xs = entry? key (if xs.isEmpty then none else some (texts xs)) := by
  rw [textsEntry]
  split <;> rfl

lemma ite_entry_eq {left : Bool} {v : Json} :
    (if left then [] else [(key, v)]) = entry? key (if left then none else some v) := by
  cases left <;> rfl

end Json

namespace Datum

/-! ## Fields -/

namespace Fields

variable {α : Type} {f : Fields} {key : String} {read : Datum → Option α} {default a : α}

/-- Names that are all different are not repeated. -/
private lemma repeats_eq_false {names : List String} {entries : List (String × Datum)}
    (h : (entries.map Prod.fst).Nodup) : repeats names entries = false := by
  refine List.any_eq_false.2 fun name _ => ?_
  have hcount := List.nodup_iff_count_le_one.1 h name
  rw [List.count, List.countP_map, List.countP_eq_length_filter] at hcount
  simpa [Function.comp_def, beq_eq_decide] using hcount

/-- **Fields of an object.** An object in order is read as its fields. -/
theorem exists_ofMap (names : List String) {m : KeyMap Json} (hm : m.Increasing) :
    ∃ f, Fields.ofDatum? names (.ofJson (.ofMap m)) = some f ∧ f.positional = false ∧
      ∀ key, f.get? key = (m.get? key).map .ofJson := by
  have hnamed : (Datum.ofJson (.ofMap m)).namedEntries? =
      some (m.entries.map fun e => (e.1, Datum.ofJson e.2)) := Datum.namedEntries?_ofJson m.entries
  have hrepeats : repeats names (m.entries.map fun e => (e.1, Datum.ofJson e.2)) = false := by
    refine repeats_eq_false ?_
    rw [List.map_map]
    exact hm.nodup
  refine ⟨⟨false, m.entries.map fun e => (e.1, Datum.ofJson e.2)⟩, ?_, rfl, fun key => ?_⟩
  · rw [ofDatum?, hnamed]
    · simp [hrepeats]
    · intro items hitems
      simp [Json.ofMap, ofJson] at hitems
  · exact KeyMap.lookup_map Datum.ofJson

/-- The fields of an object that was written from parts. -/
lemma exists_ofParts (names : List String) (parts : List (String × Option Json))
    (hn : (parts.map Prod.fst).Nodup) :
    ∃ f, Fields.ofDatum? names (.ofJson (.ofParts parts)) = some f ∧
      ∀ key, f.get? key = (KeyMap.lookup key parts).join.map .ofJson := by
  have hm : (KeyMap.ofList (parts.flatMap fun p => Json.entry? p.1 p.2)).Increasing :=
    KeyMap.increasing_ofList
  obtain ⟨f, hf, -, hget⟩ := exists_ofMap names hm
  refine ⟨f, hf, fun key => ?_⟩
  rw [hget]
  exact congrArg (Option.map _) (Json.get?_ofParts hn)

/-- A field of an object that was written is read as its value, if what is left out is the
default. -/
lemma defaulted_eq {v : Option Json} (hget : f.get? key = v.map .ofJson)
    (hnone : v = none → default = a) (hsome : ∀ w, v = some w → read (.ofJson w) = some a) :
    f.defaulted key read default = some a := by
  rw [defaulted, hget]
  rcases v with _ | w
  · exact congrArg some (hnone rfl)
  · exact hsome w rfl

/-- A text that may be absent. -/
lemma optional_text_eq {s : Option String} (hget : f.get? key = (s.map Json.str).map .ofJson) :
    f.optional key text? = some s := by
  refine defaulted_eq hget (fun h => ?_) fun w h => ?_
  · exact (Option.map_eq_none_iff.1 h).symm
  · obtain ⟨s, rfl, rfl⟩ := Option.map_eq_some_iff.1 h
    rfl

/-- A flag that may be absent. -/
lemma optional_flag_eq {b : Option Bool} (hget : f.get? key = (b.map Json.bool).map .ofJson) :
    f.optional key flag? = some b := by
  refine defaulted_eq hget (fun h => ?_) fun w h => ?_
  · exact (Option.map_eq_none_iff.1 h).symm
  · obtain ⟨b, rfl, rfl⟩ := Option.map_eq_some_iff.1 h
    rfl

/-- A flag that is always there. -/
lemma defaulted_flag_eq {b c : Bool} (hget : f.get? key = (some (Json.bool b)).map .ofJson) :
    f.defaulted key flag? c = some b := by
  refine defaulted_eq hget nofun fun w h => ?_
  cases h
  rfl

/-- A text that is always there. -/
lemma defaulted_text_eq_of_some {s t : String}
    (hget : f.get? key = (some (Json.str s)).map .ofJson) : f.defaulted key text? t = some s := by
  refine defaulted_eq hget nofun fun w h => ?_
  cases h
  rfl

/-- A text that is left out when it is empty. -/
lemma defaulted_text_eq {s : String}
    (hget : f.get? key = (if s.isEmpty then none else some (Json.str s)).map .ofJson) :
    f.defaulted key text? "" = some s := by
  refine defaulted_eq hget (fun h => ?_) fun w h => ?_
  · have hempty : s.isEmpty = true := by simpa using h
    exact (String.isEmpty_iff.1 hempty).symm
  · obtain ⟨-, rfl⟩ : s.isEmpty = false ∧ Json.str s = w := by simpa using h
    rfl

/-- What is read item by item is what was written. -/
private lemma mapM_map_eq {β : Type} (write : α → β) (read : β → Option α)
    (h : ∀ a, read (write a) = some a) (xs : List α) : (xs.map write).mapM read = some xs := by
  induction xs with
  | nil => rfl
  | cons x xs ih =>
    rw [List.map_cons, List.mapM_cons, ih, h]
    rfl

/-- Texts are read from their list. -/
lemma list?_texts (xs : List String) : list? text? (.ofJson (.texts xs)) = some xs := by
  have hitems : ofJsonItems (xs.map Json.str) = xs.map Datum.text := by
    induction xs with
    | nil => rfl
    | cons x xs ih => rw [List.map_cons, ofJsonItems, ih, ofJson, List.map_cons]
  rw [Json.texts, ofJson, list?, items?, hitems]
  exact mapM_map_eq Datum.text text? (fun _ => rfl) xs

/-- A list of texts that is left out when it is empty. -/
lemma defaulted_texts_eq {xs : List String}
    (hget : f.get? key = (if xs.isEmpty then none else some (Json.texts xs)).map .ofJson) :
    f.defaulted key (list? text?) [] = some xs := by
  refine defaulted_eq hget (fun h => ?_) fun w h => ?_
  · have hempty : xs.isEmpty = true := by simpa using h
    exact (List.isEmpty_iff.1 hempty).symm
  · obtain ⟨-, rfl⟩ : xs.isEmpty = false ∧ Json.texts xs = w := by simpa using h
    exact list?_texts xs

/-- A map of texts is read from its object. -/
lemma map?_textMap {m : KeyMap String} (hm : m.Increasing) :
    map? text? (.ofJson (.textMap m)) = some m := by
  have hnamed : (Datum.ofJson (.textMap m)).namedEntries? =
      some ((m.map Json.str).entries.map fun e => (e.1, Datum.ofJson e.2)) :=
    Datum.namedEntries?_ofJson _
  have hread : ((m.map Json.str).entries.map fun e => (e.1, Datum.ofJson e.2)).mapM
      (fun e => (text? e.2).map (e.1, ·)) = some m.entries := by
    rw [KeyMap.map, List.map_map]
    exact mapM_map_eq (fun e => (e.1, Datum.text e.2)) (fun e => (text? e.2).map (e.1, ·))
      (fun _ => rfl) m.entries
  rw [map?, hnamed]
  change ((m.map Json.str).entries.map fun e => (e.1, Datum.ofJson e.2)).mapM
    (fun e => (text? e.2).map (e.1, ·)) >>= _ = _
  rw [hread]
  exact congrArg some (KeyMap.ofList_entries hm)

/-- A map of texts that is left out when it is empty. -/
lemma defaulted_textMap_eq {m : KeyMap String} (hm : m.Increasing)
    (hget : f.get? key = (if m.isEmpty then none else some (Json.textMap m)).map .ofJson) :
    f.defaulted key (map? text?) .empty = some m := by
  refine defaulted_eq hget (fun h => ?_) fun w h => ?_
  · have hempty : m.isEmpty = true := by simpa using h
    exact congrArg KeyMap.mk (List.isEmpty_iff.1 hempty).symm
  · obtain ⟨-, rfl⟩ : m.isEmpty = false ∧ Json.textMap m = w := by simpa using h
    exact map?_textMap hm

end Fields

end Datum

open Datum.Fields

/-! ## Specifications -/

/-- A field that is read, and what is made of it. -/
private lemma read_next {α β : Type} {x : Option α} {g : α → Option β} {a : α} {b : β}
    (h : x = some a) (hg : g a = some b) : (x >>= g) = some b :=
  Option.bind_eq_some_iff.2 ⟨a, h, hg⟩

/-- The fields of a policy. -/
private def Policy.writtenParts (p : Policy) : List (String × Option Json) :=
  [("noCreate", some (.bool p.noCreate)), ("noUpdate", some (.bool p.noUpdate)),
    ("noDelete", some (.bool p.noDelete)),
    ("excludeFields", if p.excludeFields.isEmpty then none else some (.texts p.excludeFields))]

private lemma Policy.toJson_eq_ofParts (p : Policy) : p.toJson = .ofParts p.writtenParts := by
  simp only [toJson, Json.ite_entry_eq, Json.ofParts, writtenParts, List.flatMap_cons,
    List.flatMap_nil, List.append_nil]
  rfl

/-- **Policies.** What is read is what was written. -/
theorem Policy.ofDatum?_toJson (p : Policy) : ofDatum? (.ofJson p.toJson) = some p := by
  obtain ⟨f, hf, hget⟩ := exists_ofParts ["noCreate", "noUpdate", "noDelete", "excludeFields"]
    p.writtenParts (by simp [writtenParts])
  have hcreate : f.defaulted "noCreate" Datum.flag? false = some p.noCreate :=
    defaulted_flag_eq (hget _)
  have hupdate : f.defaulted "noUpdate" Datum.flag? false = some p.noUpdate :=
    defaulted_flag_eq (hget _)
  have hdelete : f.defaulted "noDelete" Datum.flag? false = some p.noDelete :=
    defaulted_flag_eq (hget _)
  have hfields : f.defaulted "excludeFields" (Datum.list? Datum.text?) [] = some p.excludeFields :=
    defaulted_texts_eq (hget _)
  rw [toJson_eq_ofParts, ofDatum?]
  exact read_next hf <| read_next hcreate <| read_next hupdate <| read_next hdelete <|
    read_next hfields rfl

/-- A policy that is always there. -/
private lemma defaulted_policy_eq {f : Datum.Fields} {key : String} {p q : Policy}
    (hget : f.get? key = (some p.toJson).map .ofJson) :
    f.defaulted key Policy.ofDatum? q = some p := by
  refine defaulted_eq hget nofun fun w h => ?_
  cases h
  exact p.ofDatum?_toJson

/-- The fields of the specification of a group. -/
private def GroupSpec.writtenParts (s : GroupSpec) : List (String × Option Json) :=
  [("platformRef", s.platformRef.map .str), ("name", some (.str s.name)),
    ("description", some (.str s.description)), ("activate", some (.bool s.activate)),
    ("policy", some s.policy.toJson)]

private lemma GroupSpec.toJson_eq_ofParts (s : GroupSpec) :
    s.toJson = .ofParts s.writtenParts := rfl

/-- **Specifications of groups.** What is read is what was written. -/
theorem GroupSpec.ofDatum?_toJson (s : GroupSpec) : ofDatum? (.ofJson s.toJson) = some s := by
  obtain ⟨f, hf, hget⟩ := exists_ofParts fieldNames s.writtenParts (by simp [writtenParts])
  have hplatform : f.optional "platformRef" Datum.text? = some s.platformRef :=
    optional_text_eq (hget _)
  have hname : f.defaulted "name" Datum.text? "" = some s.name :=
    defaulted_text_eq_of_some (hget _)
  have hdescription : f.defaulted "description" Datum.text? "" = some s.description :=
    defaulted_text_eq_of_some (hget _)
  have hactivate : f.defaulted "activate" Datum.flag? false = some s.activate :=
    defaulted_flag_eq (hget _)
  have hpolicy : f.defaulted "policy" Policy.ofDatum? .permissive = some s.policy :=
    defaulted_policy_eq (hget _)
  rw [toJson_eq_ofParts, ofDatum?]
  exact read_next hf <| read_next hplatform <| read_next hname <| read_next hdescription <|
    read_next hactivate <| read_next hpolicy rfl

/-- The fields of the specification of a service. -/
private def ServiceSpec.writtenParts (s : ServiceSpec) : List (String × Option Json) :=
  let text (key t : String) := (key, if t.isEmpty then none else some (Json.str t))
  let texts (key : String) (ts : List String) :=
    (key, if ts.isEmpty then none else some (Json.texts ts))
  [("platformRef", s.platformRef.map .str), ("host", some (.str s.host)),
    ("name", some (.str s.name)), text "template" s.template,
    text "checkCommand" s.checkCommand, texts "arguments" s.arguments, texts "groups" s.groups,
    texts "categories" s.categories, ("normalCheckInterval", s.normalInterval.map .str),
    ("retryCheckInterval", s.retryInterval.map .str),
    ("maxCheckAttempts", s.maxAttempts.map .str),
    ("activeCheckEnabled", s.activeChecks.map .bool),
    ("passiveCheckEnabled", s.passiveChecks.map .bool), ("activate", some (.bool s.activate)),
    ("macros", if s.macros.isEmpty then none else some (.textMap s.macros)),
    ("policy", some s.policy.toJson)]

private lemma ServiceSpec.toJson_eq_ofParts (s : ServiceSpec) :
    s.toJson = .ofParts s.writtenParts := by
  simp only [toJson, Json.textEntry_eq, Json.textsEntry_eq, Json.ite_entry_eq, Json.ofParts,
    writtenParts, List.flatMap_cons, List.flatMap_nil, List.append_assoc]
  rfl

/-- **Specifications of services.** What is read is what was written, if its macros are in order. -/
theorem ServiceSpec.ofDatum?_toJson {s : ServiceSpec} (hm : s.macros.Increasing) :
    ofDatum? (.ofJson s.toJson) = some s := by
  obtain ⟨f, hf, hget⟩ := exists_ofParts fieldNames s.writtenParts (by simp [writtenParts])
  have hplatform : f.optional "platformRef" Datum.text? = some s.platformRef :=
    optional_text_eq (hget _)
  have hhost : f.defaulted "host" Datum.text? "" = some s.host :=
    defaulted_text_eq_of_some (hget _)
  have hname : f.defaulted "name" Datum.text? "" = some s.name :=
    defaulted_text_eq_of_some (hget _)
  have htemplate : f.defaulted "template" Datum.text? "" = some s.template :=
    defaulted_text_eq (hget _)
  have hcommand : f.defaulted "checkCommand" Datum.text? "" = some s.checkCommand :=
    defaulted_text_eq (hget _)
  have harguments : f.defaulted "arguments" (Datum.list? Datum.text?) [] = some s.arguments :=
    defaulted_texts_eq (hget _)
  have hgroups : f.defaulted "groups" (Datum.list? Datum.text?) [] = some s.groups :=
    defaulted_texts_eq (hget _)
  have hcategories : f.defaulted "categories" (Datum.list? Datum.text?) [] = some s.categories :=
    defaulted_texts_eq (hget _)
  have hnormal : f.optional "normalCheckInterval" Datum.text? = some s.normalInterval :=
    optional_text_eq (hget _)
  have hretry : f.optional "retryCheckInterval" Datum.text? = some s.retryInterval :=
    optional_text_eq (hget _)
  have hattempts : f.optional "maxCheckAttempts" Datum.text? = some s.maxAttempts :=
    optional_text_eq (hget _)
  have hactive : f.optional "activeCheckEnabled" Datum.flag? = some s.activeChecks :=
    optional_flag_eq (hget _)
  have hpassive : f.optional "passiveCheckEnabled" Datum.flag? = some s.passiveChecks :=
    optional_flag_eq (hget _)
  have hactivate : f.defaulted "activate" Datum.flag? false = some s.activate :=
    defaulted_flag_eq (hget _)
  have hmacros : f.defaulted "macros" (Datum.map? Datum.text?) .empty = some s.macros :=
    defaulted_textMap_eq hm (hget _)
  have hpolicy : f.defaulted "policy" Policy.ofDatum? .permissive = some s.policy :=
    defaulted_policy_eq (hget _)
  rw [toJson_eq_ofParts, ofDatum?]
  exact read_next hf <| read_next hplatform <| read_next hhost <| read_next hname <|
    read_next htemplate <| read_next hcommand <| read_next harguments <| read_next hgroups <|
    read_next hcategories <| read_next hnormal <| read_next hretry <| read_next hattempts <|
    read_next hactive <| read_next hpassive <| read_next hactivate <| read_next hmacros <|
    read_next hpolicy rfl

end MonitorSync
