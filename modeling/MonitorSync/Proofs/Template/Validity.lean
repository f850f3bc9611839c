import MonitorSync.Proofs.Child.Rendered
set_option autoImplicit false

/-!
# Specifications that templates produce

A child whose kind is fixed by its template has a specification that can be used. A full child has
the one that the body gives it, whether that can be used or not.

## Main definitions

* `ChildKind.specOfObject?` — reading a specification as a part of a full child.
* `Template.body?` — what the body of a template gives for a source.

## Main results

* `Template.valid_iff_of_render` — when the specification of a child can be used.
-/

namespace MonitorSync

/-! ## Full children -/

namespace ChildKind

/-- Reads the specification of a full child of a kind. -/
def specOfObject? : (k : ChildKind) → Datum → Option k.Spec
  | service => fun d => (MonitoredService.ofDatum? d).map Resource.spec
  | group => fun d => (MonitoredGroup.ofDatum? d).map Resource.spec

variable {k : ChildKind} {template text : String}

/-- The specification of a full child is a part of it. -/
lemma specOfObject?_eq (k : ChildKind) (d : Datum) :
    k.specOfObject? d = (k.resource? d).map Resource.spec := by
  cases k <;> rfl

/-- A full child has the specification that its text gives it. -/
lemma exists_of_readObject {o : ClusterObject} (h : k.readObject template text = .ok o) :
    ∃ d s, Yaml.read? text = some d ∧ k.specOfObject? d = some s ∧ o.types = some k.type ∧
      k.specOfDatum? (.ofJson o.spec) = some s := by
  obtain ⟨d, r, hd, hr, ho⟩ := readObject_eq_ok_iff.1 h
  obtain ⟨htypes, -, hspec⟩ := ClusterObject.parts_of_toJson ho
  refine ⟨d, r.spec, hd, ?_, htypes, ?_⟩
  · rw [specOfObject?_eq, hr]
    rfl
  · rw [hspec]
    exact specOfDatum?_specToJson (inOrder_of_resource? hr)

end ChildKind

/-! ## Rendering -/

namespace Template

/-- What the body of a template gives for a source. -/
def body? (tools : Mustache.Tools) (t : Template) (source : Placeholders) : Option Datum :=
  let p := source.forTemplate t.reference.ns t.reference.name
  (t.renderPart tools p.toJson t.spec.body).toOption.bind Yaml.read?

variable {tools : Mustache.Tools} {t : Template} {source p : Placeholders} {text : String}
  {o : ClusterObject}

/-- A child of a fixed kind has a specification that can be used. -/
private lemma exists_of_typedChild {k : ChildKind} (h : t.typedChild tools k p text = .ok o) :
    o.types = some k.type ∧ ∃ s, k.specOfDatum? (.ofJson o.spec) = some s ∧ k.isValid s = true := by
  obtain ⟨spec, hspec, h⟩ := exists_of_bind_ok h
  obtain ⟨name, -, h⟩ := exists_of_bind_ok h
  cases h
  obtain ⟨s, hs, hvalid, rfl⟩ := ChildKind.readSpec_eq_ok_iff.1 hspec
  obtain ⟨d, -, hs⟩ := Option.bind_eq_some_iff.1 hs
  have hread := ChildKind.specOfDatum?_specToJson (ChildKind.inOrder_of_specOfDatum? hs)
  exact ⟨rfl, s, hread, hvalid⟩

/-- A child that says its kind has the specification that it says. -/
private lemma exists_of_fullChild (h : t.fullChild text = .ok o) :
    ∃ k d s, Yaml.read? text = some d ∧ ChildKind.specOfObject? k d = some s ∧
      o.types = some k.type ∧ k.specOfDatum? (.ofJson o.spec) = some s := by
  rw [fullChild] at h
  split at h
  · obtain ⟨v, -, h⟩ := exists_of_bind_ok h
    dsimp only at h
    split at h
    · exact ⟨_, ChildKind.exists_of_readObject h⟩
    · cases h
  · cases h

/-- **Validity.** What a template produces has a specification of its kind. That can be used if the
template fixes the kind, and otherwise exactly if the one that the body gives can be used: nothing
is refused then. -/
theorem valid_iff_of_render (h : t.render tools source = .ok o) :
    ∃ (k : ChildKind) (s : k.Spec), o.types = some k.type ∧
      k.specOfDatum? (.ofJson o.spec) = some s ∧
      (k.isValid s = true ↔ t.childKind = .ok (some k) ∨
        t.childKind = .ok none ∧
          ((t.body? tools source).bind k.specOfObject?).any k.isValid = true) := by
  obtain ⟨text, htext, h⟩ := exists_of_bind_ok h
  obtain ⟨kind, hkind, h⟩ := exists_of_bind_ok h
  rcases kind with _ | k
  · obtain ⟨k, d, s, hd, hs, htypes, hspec⟩ := exists_of_fullChild h
    have hbody : (t.body? tools source).bind k.specOfObject? = some s := by
      rw [body?, htext]
      change (Yaml.read? text).bind k.specOfObject? = some s
      rw [hd]
      exact hs
    refine ⟨k, s, htypes, hspec, ?_⟩
    rw [hkind, hbody]
    simp
  · obtain ⟨htypes, s, hspec, hvalid⟩ := exists_of_typedChild h
    exact ⟨k, s, htypes, hspec, fun _ => .inl hkind, fun _ => hvalid⟩

/-- A template with the given kind and body. -/
def ofBody (kind : Option String) (body : String) : Template :=
  ⟨{ name := some "check", ns := some "prod" }, { kind := kind, body := body }⟩

/-- What a template produces for a source without any data: the type of the child, and whether its
specification is one of a service that can be used. -/
def renderedService? (t : Template) : Option (Option ObjectType × Option Bool) :=
  (t.render {} {}).toOption.map fun o =>
    (o.types, (ServiceSpec.ofDatum? (.ofJson o.spec)).map ServiceSpec.isValid)

/-- A template of services whose specification can be used. -/
theorem valid_iff_of_render_fixed :
    let t := ofBody (some "CentreonService") "host: h\nname: n\ntemplate: t"
    t.renderedService? = some (some MonitoredService.type, some true) ∧
      ∃ o, t.render {} {} = .ok o ∧ ∃ (k : ChildKind) (s : k.Spec), o.types = some k.type ∧
        k.specOfDatum? (.ofJson o.spec) = some s ∧
        (k.isValid s = true ↔ t.childKind = .ok (some k) ∨
          t.childKind = .ok none ∧
            ((t.body? {} {}).bind k.specOfObject?).any k.isValid = true) := by
  intro t
  have hservice : t.renderedService? = some (some MonitoredService.type, some true) := by
    decide +kernel
  refine ⟨hservice, ?_⟩
  cases hrender : t.render {} {} with
  | error e =>
    rw [renderedService?, hrender] at hservice
    cases hservice
  | ok o => exact ⟨o, rfl, valid_iff_of_render hrender⟩

/-- A full child is produced with a specification that names no host. -/
theorem renders_unusable_service :
    (ofBody none ("apiVersion: monitor.k8s.webcenter.fr/v1\nkind: CentreonService\n" ++
      "metadata:\n  name: web\nspec:\n  name: n\n  template: t")).renderedService? =
      some (some MonitoredService.type, some false) := by
  decide +kernel

end Template

end MonitorSync
