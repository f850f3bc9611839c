import MonitorSync.Proofs.Template.Validity
set_option autoImplicit false

/-!
# Templates that cannot be read

A body that is not of the template language is refused for good when the template is validated. When
it is rendered nevertheless, the failure counts as one that may pass.

## Main definitions

* `Template.readBody?` — the body of a template, brought to double braces and read.

## Main results

* `Template.rendered_of_fatal` — a rendering that fails for good has rendered the body.
* `Template.retried_of_unreadable_body` — what comes of a body that cannot be read.
-/

namespace MonitorSync

namespace Template

/-- The body of a template, brought to double braces and read. -/
def readBody? (t : Template) : Option Mustache.Template :=
  Mustache.Template.read? (t.normalized t.spec.body)

/-- The data that a template is rendered with for a source. -/
def data (t : Template) (source : Placeholders) : Json :=
  (source.forTemplate t.reference.ns t.reference.name).toJson

variable {tools : Mustache.Tools} {t : Template} {source : Placeholders} {e : Failure} {v : Json}
  {text : String}

/-- A failure to render a text of the template counts as one that may pass. -/
lemma isRetryable_of_renderPart (h : t.renderPart tools v text = .error e) :
    e.isRetryable = true := by
  rw [renderPart] at h
  split at h
  · cases h
  · cases h
    rfl

/-- **Failures for good.** A rendering that fails for good has read and rendered the body. -/
theorem rendered_of_fatal (h : t.render tools source = .error e) (hfatal : e.isRetryable = false) :
    ∃ text, t.renderPart tools (t.data source) t.spec.body = .ok text := by
  cases hbody : t.renderPart tools (t.data source) t.spec.body with
  | ok text => exact ⟨text, rfl⟩
  | error e' =>
    have hrender : t.render tools source = .error e' := by
      change (t.renderPart tools (t.data source) t.spec.body >>= _) = _
      rw [hbody]
      rfl
    rw [hrender] at h
    cases h
    rw [isRetryable_of_renderPart hbody] at hfatal
    cases hfatal

/-- A body that can be rendered can be read. -/
lemma readBody?_ne_none_of_renderPart (h : t.renderPart tools v t.spec.body = .ok text) :
    t.readBody? ≠ none := by
  intro hread
  rw [readBody?] at hread
  rw [renderPart, Mustache.renderText, hread] at h
  cases h

/-- A body that cannot be read is refused. -/
lemma validate_of_unreadable_body (h : t.readBody? = none) :
    ∃ reason, t.validate = .error (.invalidTemplate reason) := by
  obtain ⟨reason, hcheck⟩ :
      ∃ reason, t.checkText "template" t.spec.body = .error (.invalidTemplate reason) := by
    rw [readBody?] at h
    rw [checkText, h]
    exact ⟨_, rfl⟩
  rw [validate, hcheck]
  cases t.spec.delimiters with
  | none => exact ⟨reason, rfl⟩
  | some d =>
    dsimp only
    split
    · exact ⟨_, rfl⟩
    · exact ⟨reason, rfl⟩

/-- **Bodies that cannot be read.** The template is refused for good when it is validated, but
whatever it is rendered for, the failure counts as one that may pass. -/
theorem retried_of_unreadable_body (h : t.readBody? = none) :
    (∃ reason, t.validate = .error (.invalidTemplate reason)) ∧
      ∀ tools source, ∃ e, t.render tools source = .error e ∧ e.isRetryable = true := by
  refine ⟨validate_of_unreadable_body h, fun tools source => ?_⟩
  cases hrender : t.render tools source with
  | error e =>
    refine ⟨e, rfl, ?_⟩
    by_contra hfatal
    obtain ⟨text, htext⟩ := rendered_of_fatal hrender (Bool.eq_false_of_not_eq_true hfatal)
    exact readBody?_ne_none_of_renderPart htext h
  | ok o =>
    obtain ⟨text, htext, -⟩ := exists_of_bind_ok hrender
    exact absurd h (readBody?_ne_none_of_renderPart htext)

/-- A template of services with a block that is never closed. -/
theorem retried_of_unreadable_body_unclosed :
    let t := ofBody (some "CentreonService") "\x7b\x7b#if name\x7d\x7dhost: h"
    t.readBody? = none ∧ (∃ reason, t.validate = .error (.invalidTemplate reason)) ∧
      ∀ tools source, ∃ e, t.render tools source = .error e ∧ e.isRetryable = true := by
  intro t
  have hread : (t.readBody?).isNone = true := by decide +kernel
  have hread : t.readBody? = none := Option.isNone_iff_eq_none.1 hread
  exact ⟨hread, retried_of_unreadable_body hread⟩

/-- What is refused for good before it is used is tried again once it is used. -/
theorem unclosed_block_is_retried :
    let t := ofBody none "\x7b\x7b#if name\x7d\x7dkind: CentreonService"
    (match t.validate with | .ok _ => none | .error e => some e.isRetryable) = some false ∧
      (match t.render {} {} with | .ok _ => none | .error e => some e.isRetryable) = some true := by
  decide +kernel

end Template

end MonitorSync
