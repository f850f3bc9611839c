import MonitorSync.Operator.Source
import MonitorSync.Proofs.Effect.Agreement
set_option autoImplicit false

/-!
# Which sources a template concerns

When a template changes, there is a pass over every source that refers to it. For any other source
the template makes no difference: the search for its children never asks for it.

## Main definitions

* `AgreeBut` — two stores answer alike, but for one template.

## Main results

* `references_of_mem_sourcesUsing` — a source that refers to a template lists it in its annotation.
* `within_resolveChildren` — the search for the children of a source asks for no template that the
  source does not refer to.
* `template_concerns_users_only` — a template makes no difference for a source that does not refer
  to it.
-/

namespace MonitorSync

variable {σ τ : Type} {domain : Domain} {sources : List SourceObject} {o : SourceObject}
  {t : Reference}

/-- Two stores answer alike whatever they are asked for, but for the template of one reference. -/
def AgreeBut (t : Reference) (agree : σ → τ → Prop) (answer : (c : StoreCall) → σ → c.Answer × σ)
    (answer' : (c : StoreCall) → τ → c.Answer × τ) : Prop :=
  Program.Alike (· ≠ .getTemplate t.ns t.name) agree answer answer'

/-! ## References of a source -/

lemma mem_sourcesUsing_iff : o ∈ sourcesUsing domain sources t ↔
    o ∈ sources ∧ ∃ references, templateReferences domain o.placeholders.annotations
      o.placeholders.ns = .ok references ∧ t ∈ references := by
  rw [sourcesUsing, List.mem_filter, SourceObject.references?]
  refine and_congr_right fun _ => ?_
  change ((templateReferences domain o.placeholders.annotations o.placeholders.ns).toOption.elim
    false (·.contains t)) = true ↔ _
  rcases templateReferences domain o.placeholders.annotations o.placeholders.ns with e | references
  · simp [Except.toOption]
  · simp [Except.toOption]

/-- **Sources that refer to a template.** The annotation of such a source is a list of references
that names the template, where a reference without a namespace means the namespace of the source. -/
theorem references_of_mem_sourcesUsing (h : o ∈ sourcesUsing domain sources t) :
    ∃ text references,
      (o.metadata.annotations.getD .empty).get? domain.templatesAnnotation = some text ∧
      readReferences? text = some references ∧
      ∃ r ∈ references, t = ⟨if r.ns = "" then o.metadata.nsOrEmpty else r.ns, r.name⟩ := by
  obtain ⟨-, found, hfound, ht⟩ := mem_sourcesUsing_iff.1 h
  rw [templateReferences] at hfound
  split at hfound
  · cases hfound
    cases ht
  · next text htext =>
    split at hfound
    · cases hfound
      cases ht
    · split at hfound
      · next references hreferences =>
        cases hfound
        obtain ⟨r, hr, rfl⟩ := List.mem_map.1 ht
        refine ⟨text, references, htext, hreferences, r, hr, ?_⟩
        rw [Reference.within]
        simp only [String.isEmpty_iff]
        split <;> rfl
      · cases hfound

/-! ## The search for children -/

section Search

variable {tools : Mustache.Tools} {source : Placeholders} {allowed : StoreCall → Prop} {α : Type}

/-- Work on a store that makes only allowed calls, whatever they are answered. -/
private abbrev Asks (allowed : StoreCall → Prop) (work : StoreWork α) : Prop :=
  Program.WorkWithin allowed (fun _ _ => True) (fun _ => True) work

private lemma asks_call {c : StoreCall} (h : allowed c) : Asks allowed (StoreWork.call c) :=
  Program.Within.mono (Program.Within.call h) fun _ _ _ _ => trivial

private lemma asks_ofResult (result : Except Failure α) :
    Program.WorkWithin allowed (fun _ _ => True) (fun a => result = .ok a)
      (ExceptT.mk (pure result) : StoreWork α) :=
  fun _ h => h

/-- The search for the child of a template asks for that template only. -/
private lemma asks_resolveReference {r : Reference} (hr : allowed (.getTemplate r.ns r.name))
    (hchild : ∀ k ns name, allowed (.getChild k ns name)) :
    Asks allowed (resolveReference tools domain source r) := by
  rw [resolveReference]
  refine (asks_call hr).bind fun template _ => ?_
  rcases template with _ | template
  · exact .pure trivial
  · refine (asks_ofResult (template.render tools source)).bind fun rendered _ => ?_
    dsimp only
    split
    · exact .pure trivial
    · exact (asks_call (hchild _ _ _)).bind fun present _ => .pure trivial

/-- **The search for children** asks for no template that the source does not refer to. -/
theorem within_resolveChildren
    (ht : ∀ references, templateReferences domain source.annotations source.ns = .ok references →
      t ∉ references) :
    Asks (· ≠ .getTemplate t.ns t.name) (resolveChildren tools domain source) := by
  rw [resolveChildren]
  refine (asks_ofResult _).bind fun references hreferences => ?_
  have hother : ∀ r ∈ references, StoreCall.getTemplate r.ns r.name ≠ .getTemplate t.ns t.name := by
    intro r hr heq
    obtain ⟨hns, hname⟩ := StoreCall.getTemplate.inj heq
    have hrt : r = t := by
      cases r
      cases t
      cases hns
      cases hname
      rfl
    exact ht references hreferences (hrt ▸ hr)
  have hchild : ∀ k ns name, StoreCall.getChild k ns name ≠ .getTemplate t.ns t.name :=
    fun _ _ _ => nofun
  have hlist : ∀ k ∈ ChildKind.all, Asks (· ≠ .getTemplate t.ns t.name)
      (StoreWork.call (.listChildren k (childSelector domain source))) :=
    fun _ _ => asks_call nofun
  refine (Program.WorkWithin.mapM fun r hr =>
    asks_resolveReference (hother r hr) hchild).bind fun found _ => ?_
  refine (Program.WorkWithin.mapM hlist).bind fun listed _ => ?_
  exact .pure trivial

end Search

/-- **Changes of templates.** Take any sources and a template. For a source that does not refer to
the template, the search for its children gives the same on any two stores that agree but for the
template: the same children, or the same failure. Every source that does refer to it lists it in its
annotation, where a reference without a namespace means the namespace of the source.

**Proof sketch.** Both the search and the choice of sources read the references in one way. If they
cannot be read, the search ends before it asks for anything; otherwise it asks for the templates of
the references, which the template is not one of. -/
theorem template_concerns_users_only (tools : Mustache.Tools) (domain : Domain)
    (sources : List SourceObject) (template : Template) :
    (∀ o ∈ sources, o ∉ sourcesUsing domain sources template.reference →
      ∀ {σ τ : Type} (agree : σ → τ → Prop) (answer : (c : StoreCall) → σ → c.Answer × σ)
        (answer' : (c : StoreCall) → τ → c.Answer × τ),
        AgreeBut template.reference agree answer answer' → ∀ s u, agree s u →
          (Program.exec answer (resolveChildren tools domain o.placeholders) s).1 =
            (Program.exec answer' (resolveChildren tools domain o.placeholders) u).1) ∧
      ∀ o ∈ sourcesUsing domain sources template.reference, ∃ text references,
        (o.metadata.annotations.getD .empty).get? domain.templatesAnnotation = some text ∧
        readReferences? text = some references ∧
        ∃ r ∈ references, template.reference =
          ⟨if r.ns = "" then o.metadata.nsOrEmpty else r.ns, r.name⟩ := by
  refine ⟨fun o ho hnot σ τ agree answer answer' halike s u hs => ?_,
    fun o ho => references_of_mem_sourcesUsing ho⟩
  have hunlisted : ∀ references, templateReferences domain o.placeholders.annotations
      o.placeholders.ns = .ok references → template.reference ∉ references :=
    fun references hreferences ht =>
      hnot (mem_sourcesUsing_iff.2 ⟨ho, references, hreferences, ht⟩)
  exact (Program.Within.run_eq_of_alike halike (within_resolveChildren hunlisted) hs).1

/-! ### An edit of a template -/

/-- A store agrees with itself after an edit of a template, but for that template. -/
lemma agreeBut_putTemplate (store : InMemoryStore) (template : Template) :
    AgreeBut template.reference (fun _ _ => True) (fun c (u : Unit) => (store.answer c, u))
      (fun c (u : Unit) => ((store.putTemplate template).answer c, u)) := by
  intro c _ _ hc _
  refine ⟨?_, trivial⟩
  cases c with
  | getTemplate ns name =>
    have hne : template.reference ≠ ⟨ns, name⟩ := fun heq => hc (by rw [heq])
    have hothers : (store.templates.filter fun u => u.reference ≠ template.reference).find?
        (fun u => u.reference = ⟨ns, name⟩) =
          store.templates.find? fun u => u.reference = ⟨ns, name⟩ := by
      rw [List.find?_filter]
      congr 1
      funext u
      by_cases hu : u.reference = ⟨ns, name⟩ <;> simp [hu, hne.symm]
    simp only [InMemoryStore.answer, InMemoryStore.putTemplate, List.find?_append, hothers]
    simp [hne]
  | getChild k ns name => rfl
  | listChildren k selector => rfl

/-- An ingress whose annotation is the given text. -/
def SourceObject.listing (name text : String) : SourceObject where
  kind := .ingress
  metadata :=
    { name := some name, ns := some "prod"
      annotations := some (.ofList [(Domain.default.templatesAnnotation, text)]) }
  content := .null

/-- Of two ingresses, the one that lists a template is concerned by an edit of it; the other one
finds the same children before and after it. -/
theorem template_concerns_users_only_edit :
    let ping : Template := ⟨{ name := some "ping", ns := some "prod" }, { body := "host: h" }⟩
    let web := SourceObject.listing "web" "[\x7b\"name\":\"ping\"\x7d]"
    let shop := SourceObject.listing "shop" "[\x7b\"name\":\"http\"\x7d]"
    web ∈ sourcesUsing .default [web, shop] ping.reference ∧
      ∀ store : InMemoryStore,
        (Program.exec (fun c (u : Unit) => (store.answer c, u))
            (resolveChildren {} .default shop.placeholders) ()).1 =
          (Program.exec (fun c (u : Unit) => ((store.putTemplate ping).answer c, u))
            (resolveChildren {} .default shop.placeholders) ()).1 := by
  intro ping web shop
  have hweb : templateReferences .default web.placeholders.annotations web.placeholders.ns =
      .ok [ping.reference] := by decide +kernel
  have hshop : templateReferences .default shop.placeholders.annotations shop.placeholders.ns =
      .ok [⟨"prod", "http"⟩] := by decide +kernel
  refine ⟨mem_sourcesUsing_iff.2 ⟨by simp, _, hweb, by simp⟩, fun store => ?_⟩
  have hnot : shop ∉ sourcesUsing .default [web, shop] ping.reference := by
    intro hmem
    obtain ⟨-, references, hreferences, ht⟩ := mem_sourcesUsing_iff.1 hmem
    rw [hshop] at hreferences
    cases hreferences
    exact absurd ht (by decide)
  exact (template_concerns_users_only {} .default [web, shop] ping).1 shop (by simp) hnot _ _ _
    (agreeBut_putTemplate store ping) () () trivial

end MonitorSync
