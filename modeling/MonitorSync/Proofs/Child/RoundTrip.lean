import MonitorSync.Operator.Kind
import MonitorSync.Proofs.Kube.Shape
import MonitorSync.Proofs.Template.Validity
set_option autoImplicit false

/-!
# The trip of a specification through a child

A template that fixes the kind of its children puts a specification into each of them. The child is
applied, and some time later there is a pass over it, which reads it again. What the pass reads is
the specification that the template gave.

## Main definitions

* `ChildKind.frame?` — what is read of a full child beside its specification.
* `ChildKind.pass`, `ChildKind.toRemote` — the pass over a child, and what the platform should hold.
* `ClusterObject.ofSpec` — a child that has nothing but a specification.

## Main results

* `ChildKind.resource?_eq` — a full child is read with the specification that stands in it.
* `find?_answer_apply` — a server keeps what it creates.
* `ChildKind.exists_resource?_created` — a child can be read as soon as a server has created it.
* `Template.exists_of_render_typed` — all that is in a child of a fixed kind.
* `Template.spec_read_back` — what a pass reads is the specification that the template gave.
-/

namespace MonitorSync

variable {Client : Type}

/-! ## Reading full children -/

namespace Datum.Fields

variable {α : Type} {f : Fields} {key : String} {v : Option Json}

/-- A field that must be there. -/
lemma required_eq (read : Datum → Option α) (hget : f.get? key = v.map .ofJson) :
    f.required key read = v.bind fun w => read (.ofJson w) := by
  rw [required, hget]
  cases v <;> rfl

/-- A field of an object that may be absent. -/
lemma nullable_eq (read : Datum → Option α) (hobject : f.positional = false)
    (hget : f.get? key = v.map .ofJson) :
    f.nullable key read = v.elim (some none) fun w => optional? read (.ofJson w) := by
  rw [nullable, hobject, Bool.false_and, if_neg Bool.false_ne_true, optional, defaulted, hget]
  cases v <;> rfl

end Datum.Fields

namespace ChildKind

/-- The kind under which there are passes over children of a kind. -/
def watched : ChildKind → WatchedKind
  | service => .service
  | group => .group

/-- The pass over a full child of a kind. -/
def pass (x : OperatorContext Client) :
    (k : ChildKind) → Resource k.Spec k.Status → Operator Client Action
  | service => MonitoredService.pass x
  | group => MonitoredGroup.pass x

/-- What a platform may hold for a child of a kind. -/
def Remote : ChildKind → Type
  | service => RemoteService
  | group => RemoteGroup

/-- What the platform should hold for a specification of a kind. -/
def toRemote : (k : ChildKind) → k.Spec → k.Remote
  | service => ServiceSpec.toRemote
  | group => GroupSpec.toRemote

/-- What is read of a full child beside its specification: its metadata, and its status if there is
one. -/
def frame? (k : ChildKind) (v : Json) : Option (Metadata × Option k.Status) := do
  let metadata ← (v.get? "metadata").bind fun m => Metadata.ofDatum? (.ofJson m)
  let status ← (v.get? "status").elim (some none) fun s =>
    Datum.optional? k.statusOfDatum? (.ofJson s)
  return (metadata, status)

variable {k : ChildKind} {v w : Json} {s : k.Spec}

/-- A pass over an object is one over the full child that the object is read as. -/
lemma pass?_watched (x : OperatorContext Client) (v : Json) :
    k.watched.pass? x v = (k.resource? (.ofJson v)).map (k.pass x) := by
  cases k <;> rfl

/-- **Reading a full child.** A full child is read with the specification that stands in it, if the
rest can be read. -/
theorem resource?_eq (hv : v.Ordered) (hspec : v.get? "spec" = some w)
    (hread : k.specOfDatum? (.ofJson w) = some s) :
    k.resource? (.ofJson v) = (k.frame? v).map fun f => ⟨f.1, s, f.2⟩ := by
  obtain ⟨m, rfl, hm⟩ := hv
  obtain ⟨f, hf, hobject, hget⟩ := Datum.Fields.exists_ofMap ["metadata", "spec", "status"] hm
  have hmetadata := Datum.Fields.required_eq Metadata.ofDatum? (hget "metadata")
  have hthere : f.required "spec" k.specOfDatum? = some s := by
    rw [Datum.Fields.required_eq _ (hget "spec")]
    exact Option.bind_eq_some_iff.2 ⟨w, hspec, hread⟩
  have hstatus := Datum.Fields.nullable_eq k.statusOfDatum? hobject (hget "status")
  have hfields : k.resource? (.ofJson (.ofMap m)) =
      (f.required "metadata" Metadata.ofDatum?).bind fun metadata =>
        (f.required "spec" k.specOfDatum?).bind fun s =>
          (f.nullable "status" k.statusOfDatum?).bind fun status => some ⟨metadata, s, status⟩ := by
    rw [resource?, Resource.ofDatum?, hf]
    rfl
  have hframe : k.frame? (.ofMap m) = (f.required "metadata" Metadata.ofDatum?).bind fun metadata =>
      (f.nullable "status" k.statusOfDatum?).bind fun status => some (metadata, status) := by
    rw [frame?, hmetadata, hstatus]
    rfl
  rw [hfields, hframe, hthere]
  cases f.required "metadata" Metadata.ofDatum? with
  | none => rfl
  | some metadata =>
    cases f.nullable "status" k.statusOfDatum? with
    | none => rfl
    | some status => rfl

end ChildKind

/-! ## Children as they are created -/

open InMemoryCluster

section Created

variable {kind ns name key : String} {o v : Json} {c : InMemoryCluster} {k : ChildKind}
  {m : Metadata} {s : k.Spec}

/-- The fields of an object beside its metadata stay when a server creates it. -/
lemma get?_created_of_ne (h : "metadata" ≠ key) :
    (created kind ns name o).get? key = o.get? key := by
  rw [created, get?_setMetadata_of_ne h, get?_setMetadata_of_ne h]

/-- A server keeps an object in order when it creates it. -/
lemma ordered_created (h : o.Ordered) : (created kind ns name o).Ordered := by
  have hset {key : String} {o v : Json} (h : o.Ordered) : (setMetadata o key v).Ordered := h.set
  exact hset (hset h)

/-- **Creating.** A server that has no object of a name keeps what is applied under that name, with
what it adds at the creation. -/
theorem find?_answer_apply {t : ObjectType} {manager : String} {force : Bool}
    (hnone : c.find? t.kind ns name = none) (ho : o.KeysInOrder)
    (ha : address o = (some t.kind, ns, name)) :
    ((answer (.apply t ns name manager force o) c).2).find? t.kind ns name =
      some (created t.kind ns name o) := by
  have hmerge : (Json.obj []).merge o = o :=
    ho.merge_of_no_fields (.obj List.Pairwise.nil (List.forall_mem_nil _)) fun _ => rfl
  have happlied : c.applied t.kind ns name o = created t.kind ns name o := by
    rw [applied, hnone]
    exact congrArg (created t.kind ns name) hmerge
  have haddress : address (created t.kind ns name o) = (some t.kind, ns, name) := by
    rw [created, address_setMetadata (by decide) (by decide),
      address_setMetadata (by decide) (by decide), ha]
  change (c.put t.kind ns name (c.applied t.kind ns name o)).find? t.kind ns name = _
  rw [happlied, put, hnone, if_neg (by simp), find?, List.find?_append]
  rw [find?] at hnone
  rw [hnone, Option.none_or]
  exact List.find?_cons_of_pos ((isObject_iff _).2 haddress)

/-- The metadata of an object that a server has created. -/
lemma get?_metadata_created (hv : o.get? "metadata" = some v) (hordered : v.Ordered) :
    (created kind ns name o).get? "metadata" =
      some ((v.set "uid" (.str ("uid-" ++ kind ++ "-" ++ ns ++ "-" ++ name))).set "resourceVersion"
        (.str "1")) :=
  get?_metadata_setMetadata (get?_metadata_setMetadata hv hordered) hordered.set

/-- What stands around the specification of a child that was created can be read, if its metadata
was asked for and it came without a status. -/
lemma ChildKind.frame?_created (hasked : m.Asked) (hm : o.get? "metadata" = some m.toJson)
    (hstatus : o.get? "status" = none) :
    ∃ metadata, k.frame? (created kind ns name o) = some (metadata, none) := by
  have hordered : m.toJson.Ordered := Json.ordered_ofEntries
  have hfields (uid version : String) : Shape.FieldsFit Metadata.shape.fields
      ((m.toJson.set "uid" (.str uid)).set "resourceVersion" (.str version)) :=
    Metadata.fieldsFit_set_text (Metadata.fieldsFit_set_text hasked.fieldsFit_toJson rfl) rfl
  obtain ⟨metadata, hread⟩ := Metadata.exists_of_fieldsFit hordered.set.set (hfields _ _)
  refine ⟨metadata, ?_⟩
  rw [frame?, get?_metadata_created hm hordered, get?_created_of_ne (by decide), hstatus,
    Option.bind_some, hread]
  rfl

/-- **A child that was created.** It is read with the specification that it came with, if its
metadata was asked for and it came without a status. -/
theorem ChildKind.exists_resource?_created (ho : o.Ordered) (hs : k.InOrder s)
    (hspec : o.get? "spec" = some (k.specToJson s)) (hasked : m.Asked)
    (hm : o.get? "metadata" = some m.toJson) (hstatus : o.get? "status" = none) :
    ∃ metadata, k.resource? (.ofJson (created kind ns name o)) = some ⟨metadata, s, none⟩ := by
  obtain ⟨metadata, hframe⟩ :
      ∃ metadata, k.frame? (created kind ns name o) = some (metadata, none) :=
    frame?_created hasked hm hstatus
  have hthere : (created kind ns name o).get? "spec" = some (k.specToJson s) :=
    (get?_created_of_ne (by decide)).trans hspec
  refine ⟨metadata, ?_⟩
  rw [resource?_eq (ordered_created ho) hthere (specOfDatum?_specToJson hs), hframe]
  rfl

end Created

/-! ## Children of a fixed kind -/

/-- A child that has nothing but a specification. -/
def ClusterObject.ofSpec (t : ObjectType) (m : Metadata) (spec : Json) : ClusterObject where
  types := some t
  metadata := m
  content := .ofList [("spec", spec)]

section Typed

variable {k : ChildKind} {m : Metadata} {s : k.Spec} {ns name : String} {c : InMemoryCluster}

/-- Metadata that is asked for has its keys in order once it was written. -/
lemma Metadata.Asked.keysInOrder_toJson (h : m.Asked)
    (hlabels : ∀ labels ∈ m.labels, labels.Increasing)
    (hannotations : ∀ annotations ∈ m.annotations, annotations.Increasing) :
    m.toJson.KeysInOrder := by
  rw [h.toJson_eq]
  refine Json.keysInOrder_ofEntries ?_
  simp only [List.forall_mem_append, Json.forall_mem_entry?]
  refine ⟨⟨⟨⟨⟨⟨⟨⟨?_, ?_⟩, ?_⟩, ?_⟩, ?_⟩, ?_⟩, ?_⟩, ?_⟩, ?_⟩
  · exact fun name _ => .leaf rfl
  · exact fun name _ => .leaf rfl
  · exact fun ns _ => .leaf rfl
  · exact fun uid _ => .leaf rfl
  · exact fun labels h => Json.keysInOrder_textMap (hlabels labels h)
  · exact fun annotations h => Json.keysInOrder_textMap (hannotations annotations h)
  · exact fun finalizers _ => .leaf rfl
  · exact fun owners _ => .leaf rfl
  · exact fun version _ => .leaf rfl

/-- The fields of a child that has nothing but a specification. -/
lemma ClusterObject.get?_ofSpec {t : ObjectType} {spec : Json} {key : String} :
    (ofSpec t m spec).toJson.get? key = KeyMap.lookup key [("apiVersion", .str t.apiVersion),
      ("kind", .str t.kind), ("metadata", m.toJson), ("spec", spec)] := by
  change (Json.ofEntries [("apiVersion", .str t.apiVersion), ("kind", .str t.kind),
    ("metadata", m.toJson), ("spec", spec)]).get? key = _
  rw [Json.get?_ofEntries, KeyMap.lookup_reverse (by simp)]

/-- A child that has nothing but a specification is written under its address. -/
lemma ClusterObject.isChild_ofSpec {spec : Json} (hns : m.ns = some ns)
    (hname : m.name = some name) :
    IsChild k ns name (ofSpec k.type m spec).toJson := by
  obtain ⟨n, hn, hinc⟩ : m.toJson.Ordered := Json.ordered_ofEntries
  obtain ⟨hgetName, hgetNs, -⟩ := m.get?_toJson
  refine ⟨?_, get?_ofSpec, n, hn ▸ get?_ofSpec, hinc, ?_, ?_⟩
  · cases k <;> exact get?_ofSpec
  · rw [← hgetName name hname, hn]
    rfl
  · rw [← hgetNs ns hns, hn]
    rfl

/-- A child that has nothing but a specification has its keys in order once it was written. -/
lemma ClusterObject.keysInOrder_ofSpec {t : ObjectType} {spec : Json}
    (hmetadata : m.toJson.KeysInOrder) (hspec : spec.KeysInOrder) :
    (ofSpec t m spec).toJson.KeysInOrder := by
  have hentries : ∀ e ∈ [("apiVersion", Json.str t.apiVersion), ("kind", .str t.kind),
      ("metadata", m.toJson), ("spec", spec)], e.2.KeysInOrder := by
    simp [hmetadata, hspec]
  exact Json.keysInOrder_ofEntries hentries

/-- **Applying a child of a fixed kind.** A server that has no child of its name keeps it so that it
is read with its specification and without a status. -/
theorem ChildKind.exists_of_answer_apply {manager : String} {force : Bool} (hasked : m.Asked)
    (hlabels : ∀ labels ∈ m.labels, labels.Increasing)
    (hannotations : ∀ annotations ∈ m.annotations, annotations.Increasing)
    (hns : m.ns = some ns) (hname : m.name = some name) (hs : k.InOrder s)
    (hnone : c.find? k.type.kind ns name = none) :
    ∃ v metadata, ((answer (.apply k.type ns name manager force
        (ClusterObject.ofSpec k.type m (k.specToJson s)).toJson) c).2).find? k.type.kind ns name =
          some v ∧
      k.resource? (.ofJson v) = some ⟨metadata, s, none⟩ := by
  have hchild : IsChild k ns name (ClusterObject.ofSpec k.type m (k.specToJson s)).toJson :=
    ClusterObject.isChild_ofSpec hns hname
  have hkeys : (ClusterObject.ofSpec k.type m (k.specToJson s)).toJson.KeysInOrder :=
    ClusterObject.keysInOrder_ofSpec (hasked.keysInOrder_toJson hlabels hannotations)
      (keysInOrder_specToJson hs)
  obtain ⟨metadata, hread⟩ := exists_resource?_created Json.ordered_ofEntries hs
    ClusterObject.get?_ofSpec hasked ClusterObject.get?_ofSpec ClusterObject.get?_ofSpec
  exact ⟨_, metadata, find?_answer_apply hnone hkeys hchild.address_eq, hread⟩

end Typed

/-! ## The trip -/

namespace Template

variable {tools : Mustache.Tools} {t : Template} {source : Placeholders} {k : ChildKind}
  {o : ClusterObject}

/-- **Children of a fixed kind.** Such a child has a name, a namespace and the specification that
the body gives, which can be used. -/
theorem exists_of_render_typed (hk : t.childKind = .ok (some k))
    (h : t.render tools source = .ok o) :
    ∃ s ns name, (t.body? tools source).bind k.specOfDatum? = some s ∧ k.isValid s = true ∧
      o = .ofSpec k.type { name := some name, ns := some ns } (k.specToJson s) := by
  obtain ⟨text, htext, h⟩ := exists_of_bind_ok h
  obtain ⟨kind, hkind, h⟩ := exists_of_bind_ok h
  rw [hk] at hkind
  cases hkind
  obtain ⟨spec, hspec, h⟩ := exists_of_bind_ok h
  obtain ⟨name, -, h⟩ := exists_of_bind_ok h
  obtain ⟨s, hs, hvalid, rfl⟩ := ChildKind.readSpec_eq_ok_iff.1 hspec
  cases h
  refine ⟨s, _, name, ?_, hvalid, rfl⟩
  rw [body?, htext]
  exact hs

/-- **Specifications come back.** A specification in its written form is read as it was exactly if
its map is in order, as those that are read are. So take a child of a kind that its template fixes.
It has the specification that the body gives, which can be used. An object in which that stands is
read with it, if the rest of the object can be read, and the platform should hold the same for both.
The rest can be read where the child was created for a source, and the pass over it is then for that
specification. -/
theorem spec_read_back :
    (∀ (k : ChildKind) (s : k.Spec),
      k.specOfDatum? (.ofJson (k.specToJson s)) = some s ↔ k.InOrder s) ∧
    ∀ {tools : Mustache.Tools} {t : Template} {source : Placeholders} {k : ChildKind}
        {o : ClusterObject},
      t.childKind = .ok (some k) → t.render tools source = .ok o →
      ∃ s, (t.body? tools source).bind k.specOfDatum? = some s ∧ k.isValid s = true ∧
        o.spec = k.specToJson s ∧
        (k.specOfDatum? (.ofJson o.spec)).map k.toRemote = some (k.toRemote s) ∧
        (∀ v : Json, v.Ordered → v.get? "spec" = some o.spec →
          k.resource? (.ofJson v) = (k.frame? v).map fun f => ⟨f.1, s, f.2⟩) ∧
        ∀ (domain : Domain) (r : Reference) (owner : Option OwnerReference) (c : InMemoryCluster),
          let child := stamp domain source r o
          let key := child.childKey
          c.find? key.kind key.ns key.name = none →
          ∃ v metadata, ((answer (.apply k.type key.ns key.name operatorName true
              (child.toApply owner).toJson) c).2).find? key.kind key.ns key.name = some v ∧
            k.resource? (.ofJson v) = some ⟨metadata, s, none⟩ ∧
            ∀ x : OperatorContext Client,
              k.watched.pass? x v = some (k.pass x ⟨metadata, s, none⟩) := by
  refine ⟨fun k s => ⟨ChildKind.inOrder_of_specOfDatum?, ChildKind.specOfDatum?_specToJson⟩, ?_⟩
  intro tools t source k o hk h
  obtain ⟨s, ns, name, hs, hvalid, rfl⟩ := exists_of_render_typed hk h
  obtain ⟨d, -, hread⟩ := Option.bind_eq_some_iff.1 hs
  have horder : k.InOrder s := ChildKind.inOrder_of_specOfDatum? hread
  have hback : k.specOfDatum? (.ofJson (k.specToJson s)) = some s :=
    ChildKind.specOfDatum?_specToJson horder
  refine ⟨s, hs, hvalid, rfl, congrArg (Option.map k.toRemote) hback,
    fun v hv hspec => ChildKind.resource?_eq hv hspec hback, ?_⟩
  intro domain r owner c child key hnone
  have hlabels : ∀ labels ∈ (child.toApply owner).metadata.labels, labels.Increasing := by
    rintro labels ⟨⟩
    exact KeyMap.pairwise_insertEntry (KeyMap.pairwise_insertEntry
      (KeyMap.increasing_extendList List.Pairwise.nil))
  have hannotations : ∀ annotations ∈ (child.toApply owner).metadata.annotations,
      annotations.Increasing := by
    rintro annotations ⟨⟩
  obtain ⟨v, metadata, hfound, hresource⟩ :=
    ChildKind.exists_of_answer_apply (m := (child.toApply owner).metadata) (s := s)
      ⟨rfl, rfl, rfl, rfl⟩ hlabels hannotations rfl rfl horder hnone
  refine ⟨v, metadata, hfound, hresource, fun x => ?_⟩
  rw [ChildKind.pass?_watched, hresource]
  rfl

/-- The specification of a service that is in a list, has a macro and is never removed. -/
private def keptService : ServiceSpec where
  host := "h"
  name := "n"
  template := "t"
  groups := ["web"]
  macros := .ofList [("WARN", "80")]
  policy := { Policy.permissive with noDelete := true }

/-- The child has the specification that the body gives. By itself that is no service yet, but it is
the specification of the service that an empty server has once the child was applied. -/
theorem spec_read_back_kept :
    let t := ofBody (some "CentreonService") ("host: h\nname: n\ntemplate: t\ngroups: [web]\n" ++
      "macros:\n  WARN: \"80\"\npolicy:\n  noDelete: true")
    t.childKind = .ok (some .service) ∧ ∃ o, t.render {} {} = .ok o ∧ o.spec = keptService.toJson ∧
      MonitoredService.ofDatum? (.ofJson (.ofEntries [("spec", o.spec)])) = none ∧
      let child := stamp .default {} ⟨"prod", "check"⟩ o
      let key := child.childKey
      ∃ v metadata, ((answer (.apply MonitoredService.type key.ns key.name operatorName true
          (child.toApply none).toJson) ⟨[]⟩).2).find? key.kind key.ns key.name = some v ∧
        MonitoredService.ofDatum? (.ofJson v) = some ⟨metadata, keptService, none⟩ := by
  intro t
  have hspec : (t.body? {} {}).bind ServiceSpec.ofDatum? = some keptService := by decide +kernel
  have hkind : t.childKind = .ok (some .service) := rfl
  have hrendered : (t.render {} {}).toOption.isSome = true := by decide +kernel
  refine ⟨hkind, ?_⟩
  cases hrender : t.render {} {} with
  | error e =>
    rw [hrender] at hrendered
    cases hrendered
  | ok o =>
    obtain ⟨s, hs, -, hwritten, -, halone, happlied⟩ :=
      (@spec_read_back Unit).2 hkind hrender
    obtain rfl : s = keptService := Option.some.inj (hs.symm.trans hspec)
    obtain ⟨v, metadata, hfound, hresource, -⟩ := happlied .default ⟨"prod", "check"⟩ none ⟨[]⟩ rfl
    refine ⟨o, rfl, hwritten, ?_, v, metadata, hfound, hresource⟩
    exact halone _ Json.ordered_ofEntries rfl

end Template

end MonitorSync
