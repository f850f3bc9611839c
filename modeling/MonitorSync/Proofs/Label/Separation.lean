import MonitorSync.Proofs.Label.Values
set_option autoImplicit false

/-!
# Which references share a label

The children of a source are found by the label of its reference, so references that share a label
share their children. As far as digests tell texts apart, references share a label exactly where
their dotted forms are the same text. No namespace has a dot in it, so that leaves one case: a name
outside of any namespace may itself read like a namespace, a dot and a name.

## Main definitions

* `Reference.DigestApart` — the digests of two references do not collide.
* `Reference.EndsLike` — a label without a digest happens to end like one with the digest of another
  reference.
* `Reference.ReadsLike` — a name outside of any namespace reads like another reference.

## Main results

* `Reference.dotted_eq_iff` — which references have the same dotted form.
* `Reference.label_eq_iff_dotted_eq` — references share a label where they share their dotted form.
* `Reference.label_eq_iff` — which references share a label.
* `Reference.label_shared` — two references that do.
-/

namespace MonitorSync

namespace Reference

variable {r r' : Reference}

/-! ## Dotted references -/

/-- A name outside of any namespace reads like a reference: it is the namespace of that, a dot, and
its name. -/
def ReadsLike (r r' : Reference) : Prop :=
  r.ns = "" ∧ r'.ns ≠ "" ∧ r.name = r'.ns ++ "." ++ r'.name

/-- What stands in front of the first dot is read off a text, and so is what stands after it. -/
private lemma append_dot_inj {ns ns' name name' : String} (hns : '.' ∉ ns.toList)
    (hns' : '.' ∉ ns'.toList) :
    ns ++ "." ++ name = ns' ++ "." ++ name' ↔ ns = ns' ∧ name = name' := by
  refine ⟨fun h => ?_, by rintro ⟨rfl, rfl⟩; rfl⟩
  have hread : ∀ (front rest : List Char), '.' ∉ front →
      (front ++ '.' :: rest).takeWhile (· ≠ '.') = front := by
    intro front rest hfront
    have hkept : ∀ c ∈ front, decide (c ≠ '.') = true := by
      intro c hc
      exact decide_eq_true fun hdot => hfront (hdot ▸ hc)
    rw [List.takeWhile_append_of_pos hkept]
    simp
  have hlist : ns.toList ++ '.' :: name.toList = ns'.toList ++ '.' :: name'.toList := by
    have htext := congrArg String.toList h
    simpa using htext
  have hfront : ns.toList = ns'.toList := by
    rw [← hread ns.toList name.toList hns, hlist, hread _ _ hns']
  have hrest : name.toList = name'.toList := by
    rw [hfront] at hlist
    exact (List.cons.inj (List.append_cancel_left hlist)).2
  exact ⟨String.toList_inj.1 hfront, String.toList_inj.1 hrest⟩

lemma dotted_of_ns_eq (h : r.ns = "") : r.dotted = r.name := by
  simp [dotted, h]

lemma dotted_of_ns_ne (h : r.ns ≠ "") : r.dotted = r.ns ++ "." ++ r.name := by
  simp [dotted, h]

/-- **Dotted references.** Where no namespace has a dot in it, references have the same dotted form
only if they are the same, or one is outside of any namespace and reads like the other. -/
theorem dotted_eq_iff (hns : '.' ∉ r.ns.toList) (hns' : '.' ∉ r'.ns.toList) :
    r.dotted = r'.dotted ↔ r = r' ∨ r.ReadsLike r' ∨ r'.ReadsLike r := by
  have hext : r = r' ↔ r.ns = r'.ns ∧ r.name = r'.name := by
    cases r
    cases r'
    simp
  by_cases hempty : r.ns = "" <;> by_cases hempty' : r'.ns = ""
  · rw [dotted_of_ns_eq hempty, dotted_of_ns_eq hempty', hext]
    simp [ReadsLike, hempty, hempty']
  · rw [dotted_of_ns_eq hempty, dotted_of_ns_ne hempty', hext]
    simp [ReadsLike, hempty, hempty', Ne.symm hempty']
  · rw [dotted_of_ns_ne hempty, dotted_of_ns_eq hempty', hext]
    simp [ReadsLike, hempty, hempty', eq_comm]
  · rw [dotted_of_ns_ne hempty, dotted_of_ns_ne hempty', append_dot_inj hns hns', hext]
    simp [ReadsLike, hempty, hempty']

/-! ## Labels -/

/-- The digests of two references do not collide: they start alike only if they are of the same
text. -/
def DigestApart (r r' : Reference) : Prop := r.shortDigest = r'.shortDigest → r.dotted = r'.dotted

/-- A dotted reference that is its own label happens to end like the label of another reference,
which has the digest of that at its end. -/
def EndsLike (r r' : Reference) : Prop :=
  LabelValue r.dotted ∧ ¬ LabelValue r'.dotted ∧ r'.shortDigest <:+ r.dotted.toList

/-- A label with a digest is not a dotted reference that ends otherwise. -/
private lemma endsLike_of_label_eq (hplain : LabelValue r.dotted) (hdigest : ¬ LabelValue r'.dotted)
    (h : r.label = r'.label) : r.EndsLike r' := by
  have hlabel : r'.labelStart ++ r'.shortDigest = r.dotted.toList := by
    rw [← toList_label_of_not hdigest, ← h, label_of_labelValue hplain]
  exact ⟨hplain, hdigest, r'.labelStart, hlabel⟩

/-- **Labels and dotted references.** References share a label exactly where they share their dotted
form, as far as digests tell.

**Proof sketch.** A label that is a dotted reference shows it. Labels with a digest end with twelve
digits of it each, so they are equal only where these are. A label of one form is not one of the
other form unless it ends like it. -/
theorem label_eq_iff_dotted_eq (hapart : r.DigestApart r') (hends : ¬ r.EndsLike r')
    (hends' : ¬ r'.EndsLike r) : r.label = r'.label ↔ r.dotted = r'.dotted := by
  constructor
  · intro h
    by_cases hplain : LabelValue r.dotted <;> by_cases hplain' : LabelValue r'.dotted
    · rwa [label_of_labelValue hplain, label_of_labelValue hplain'] at h
    · exact absurd (endsLike_of_label_eq hplain hplain' h) hends
    · exact absurd (endsLike_of_label_eq hplain' hplain h.symm) hends'
    · have hlists : r.labelStart ++ r.shortDigest = r'.labelStart ++ r'.shortDigest := by
        rw [← toList_label_of_not hplain, h, toList_label_of_not hplain']
      have hlength : r.shortDigest.length = r'.shortDigest.length := by
        rw [length_shortDigest, length_shortDigest]
      exact hapart (List.append_inj' hlists hlength).2
  · intro h
    simp only [label, h]

/-- **Shared labels.** Take references whose namespaces are empty or have no dot in them. As far as
digests tell, they share a label exactly if they are the same, or if one is outside of any namespace
and its name reads like the other. -/
theorem label_eq_iff (hns : '.' ∉ r.ns.toList) (hns' : '.' ∉ r'.ns.toList)
    (hapart : r.DigestApart r') (hends : ¬ r.EndsLike r') (hends' : ¬ r'.EndsLike r) :
    r.label = r'.label ↔ r = r' ∨ r.ReadsLike r' ∨ r'.ReadsLike r := by
  rw [label_eq_iff_dotted_eq hapart hends hends', dotted_eq_iff hns hns']

/-- A long reference, of which a label shows no more than the start. -/
private def gateway (suffix : String) : Reference :=
  ⟨"ecommerce-production", "storefront-public-api-gateway-ingress-" ++ suffix⟩

/-- Long references that differ in their last characters only have different labels. -/
theorem label_eq_iff_gateways :
    let r := gateway "canary"
    let r' := gateway "stable"
    '.' ∉ r.ns.toList ∧ '.' ∉ r'.ns.toList ∧ r.DigestApart r' ∧ ¬ r.EndsLike r' ∧ ¬ r'.EndsLike r ∧
      r.labelStart = r'.labelStart ∧ r.label ≠ r'.label := by
  intro r r'
  have hapart : r.DigestApart r' := fun h => absurd h (by decide +kernel)
  have hlong : ¬ LabelValue r.dotted := fun h => absurd h.size (by decide +kernel)
  have hlong' : ¬ LabelValue r'.dotted := fun h => absurd h.size (by decide +kernel)
  have hends : ¬ r.EndsLike r' := fun h => hlong h.1
  have hends' : ¬ r'.EndsLike r := fun h => hlong' h.1
  have hdiff : r.label ≠ r'.label := by
    intro h
    rcases (label_eq_iff (by decide) (by decide) hapart hends hends').1 h with h | h | h
    · exact absurd h (by decide)
    · exact absurd h.1 (by decide)
    · exact absurd h.1 (by decide)
  exact ⟨by decide, by decide, hapart, hends, hends', by decide +kernel, hdiff⟩

/-- A name outside of any namespace that reads like a reference shares its label, and no digest is
in it. -/
theorem label_shared :
    let r : Reference := ⟨"", "prod.web"⟩
    let r' : Reference := ⟨"prod", "web"⟩
    r ≠ r' ∧ '.' ∉ r.ns.toList ∧ '.' ∉ r'.ns.toList ∧ r.DigestApart r' ∧ ¬ r.EndsLike r' ∧
      ¬ r'.EndsLike r ∧ r.label = "prod.web" ∧ r'.label = "prod.web" := by
  intro r r'
  have hsame : r.dotted = r'.dotted := by decide
  have hends : ¬ r.EndsLike r' := fun h => h.2.1 (hsame ▸ h.1)
  have hends' : ¬ r'.EndsLike r := fun h => h.2.1 (hsame ▸ h.1)
  exact ⟨by decide, by decide, by decide, fun _ => hsame, hends, hends', by decide +kernel,
    by decide +kernel⟩

end Reference

end MonitorSync
