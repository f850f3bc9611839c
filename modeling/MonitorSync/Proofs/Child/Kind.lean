import MonitorSync.Proofs.Child.Reading
import MonitorSync.Proofs.Child.Specification
import MonitorSync.Template.Render
set_option autoImplicit false

/-!
# Children by kind

Services and groups have specifications of their own. What holds of both is stated here for a kind.

## Main definitions

* `ChildKind.Spec` — the specifications of a kind.
* `ChildKind.specOfDatum?`, `ChildKind.specToJson` — reading a specification, and the written form.
* `ChildKind.isValid`, `ChildKind.InOrder` — whether a specification can be used, and whether its
  map is in order.
* `ChildKind.resource?` — reading a full child.

## Main results

* `ServiceSpec.validationError?_eq_none_iff` — the two ways of telling whether a specification can
  be used agree.
* `ChildKind.specOfDatum?_specToJson` — specifications are read as they were written.
* `ChildKind.readSpec_eq_ok_iff`, `ChildKind.readObject_eq_ok_iff` — which texts are accepted as
  specifications, and which as full children.
-/

namespace MonitorSync

/-- A specification can be used exactly if there is no reason why it cannot. -/
theorem ServiceSpec.validationError?_eq_none_iff {s : ServiceSpec} :
    s.validationError? = none ↔ s.isValid = true := by
  simp only [validationError?, isValid]
  cases s.host.isEmpty <;> cases s.name.isEmpty <;> cases s.checkCommand.isEmpty <;>
    cases s.template.isEmpty <;> simp

namespace ChildKind

/-! ## Specifications -/

/-- The specifications of a kind. -/
def Spec : ChildKind → Type
  | service => ServiceSpec
  | group => GroupSpec

/-- Reads a specification of a kind. -/
def specOfDatum? : (k : ChildKind) → Datum → Option k.Spec
  | service => ServiceSpec.ofDatum?
  | group => GroupSpec.ofDatum?

/-- Whether a specification of a kind can be used. -/
def isValid : (k : ChildKind) → k.Spec → Bool
  | service => ServiceSpec.isValid
  | group => GroupSpec.isValid

/-- The written form of a specification of a kind. -/
def specToJson : (k : ChildKind) → k.Spec → Json
  | service => ServiceSpec.toJson
  | group => GroupSpec.toJson

/-- The map in a specification of a kind, if it has one, is in order. -/
def InOrder : (k : ChildKind) → k.Spec → Prop
  | service => fun s : ServiceSpec => s.macros.Increasing
  | group => fun _ => True

variable {k : ChildKind} {template text : String} {d : Datum} {s : k.Spec}

/-- What is read is in order. -/
lemma inOrder_of_specOfDatum? (h : k.specOfDatum? d = some s) : k.InOrder s := by
  cases k with
  | service => exact ServiceSpec.increasing_macros_of_ofDatum? h
  | group => trivial

/-- What is written is read as it was, as long as it is in order. -/
lemma specOfDatum?_specToJson (hs : k.InOrder s) :
    k.specOfDatum? (.ofJson (k.specToJson s)) = some s := by
  cases k with
  | service => exact ServiceSpec.ofDatum?_toJson hs
  | group => exact GroupSpec.ofDatum?_toJson s

/-- What is written has its keys in order, as long as the map in it is. -/
lemma keysInOrder_specToJson (hs : k.InOrder s) : (k.specToJson s).KeysInOrder := by
  cases k with
  | service => exact ServiceSpec.keysInOrder_toJson hs
  | group => exact GroupSpec.keysInOrder_toJson s

/-- **Specifications by themselves.** A text is accepted as a specification exactly if it is read as
one that can be used. The written form of that is what is accepted. -/
theorem readSpec_eq_ok_iff {v : Json} : k.readSpec template text = .ok v ↔
    ∃ s, (Yaml.read? text).bind k.specOfDatum? = some s ∧ k.isValid s = true ∧
      v = k.specToJson s := by
  cases k with
  | service =>
    change _ ↔ ∃ s : ServiceSpec, (Yaml.read? text).bind ServiceSpec.ofDatum? = some s ∧
      s.isValid = true ∧ v = s.toJson
    simp only [readSpec, ← ServiceSpec.validationError?_eq_none_iff]
    cases (Yaml.read? text).bind ServiceSpec.ofDatum? with
    | none => simp
    | some s => cases hvalid : s.validationError? <;> simp [hvalid, @eq_comm _ v]
  | group =>
    change _ ↔ ∃ s : GroupSpec, (Yaml.read? text).bind GroupSpec.ofDatum? = some s ∧
      s.isValid = true ∧ v = s.toJson
    simp only [readSpec, GroupSpec.isValid, Option.isNone_iff_eq_none]
    cases (Yaml.read? text).bind GroupSpec.ofDatum? with
    | none => simp
    | some s => cases hvalid : s.validationError? <;> simp [hvalid, @eq_comm _ v]

/-! ## Full children -/

/-- The statuses of a kind. -/
def Status : ChildKind → Type
  | service => ServiceStatus
  | group => GroupStatus

/-- Reads a status of a kind. -/
def statusOfDatum? : (k : ChildKind) → Datum → Option k.Status
  | service => ServiceStatus.ofDatum?
  | group => GroupStatus.ofDatum?

/-- The written form of a status of a kind. -/
def statusToJson : (k : ChildKind) → k.Status → Json
  | service => ServiceStatus.toJson
  | group => GroupStatus.toJson

/-- Reads a full child of a kind. -/
def resource? (k : ChildKind) (d : Datum) : Option (Resource k.Spec k.Status) :=
  Resource.ofDatum? k.specOfDatum? k.statusOfDatum? d

/-- The specification of a full child is in order. -/
lemma inOrder_of_resource? {r : Resource k.Spec k.Status} (h : k.resource? d = some r) :
    k.InOrder r.spec := by
  obtain ⟨f, -, h⟩ := Option.bind_eq_some_iff.1 h
  obtain ⟨metadata, -, h⟩ := Option.bind_eq_some_iff.1 h
  obtain ⟨spec, hspec, h⟩ := Option.bind_eq_some_iff.1 h
  obtain ⟨status, -, h⟩ := Option.bind_eq_some_iff.1 h
  cases h
  obtain ⟨d', -, hspec⟩ := Option.bind_eq_some_iff.1 hspec
  exact inOrder_of_specOfDatum? hspec

/-- **Full children.** A text is accepted as a full child exactly if it is read as one whose written
form is that of an object. -/
theorem readObject_eq_ok_iff {o : ClusterObject} : k.readObject template text = .ok o ↔
    ∃ d r, Yaml.read? text = some d ∧ k.resource? d = some r ∧
      ClusterObject.ofJson? (r.toJson k.specToJson k.statusToJson k.type) = some o := by
  have hwritten : k.writtenObject? text = ((Yaml.read? text).bind k.resource?).map fun r =>
      r.toJson k.specToJson k.statusToJson k.type := by
    cases k <;> rfl
  rw [readObject, hwritten]
  cases hread : Yaml.read? text with
  | none => simp
  | some d =>
    cases hresource : k.resource? d with
    | none => simp [hresource]
    | some r =>
      cases hobject : ClusterObject.ofJson? (r.toJson k.specToJson k.statusToJson k.type) with
      | none => simp [hresource, hobject]
      | some o' => simp [hresource, hobject]

end ChildKind

end MonitorSync
