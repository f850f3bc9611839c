import Mathlib.Data.List.DropRight
import Mathlib.Data.String.Basic
import MonitorSync.Label
set_option autoImplicit false

/-!
# Labels are label values

A label value is a short text of ASCII letters, digits and three marks that starts and ends with a
letter or digit. Whatever the namespace and name of a reference are, its label is one, and where the
dotted reference is one already, the label is just that.

## Main definitions

* `IsHexDigit` — the lower-case hexadecimal digits.
* `LabelValue` — the texts that a label may have as its value.
* `Reference.labelStart`, `Reference.shortDigest` — what the label of a reference that is no label
  value itself is made of.

## Main results

* `length_sha256Text`, `isHexDigit_of_mem_sha256Text` — a digest is sixty-four hexadecimal digits.
* `labelValue_iff` — the check that decides on the form of a label.
* `Reference.label_of_labelValue`, `Reference.toList_label_of_not` — the two forms of a label.
* `Reference.labelValue_label` — every label is a label value.
-/

namespace MonitorSync

/-! ## Digests -/

/-- A lower-case hexadecimal digit. -/
def IsHexDigit (c : Char) : Prop := c.isDigit ∨ 'a' ≤ c ∧ c ≤ 'f'

instance (c : Char) : Decidable (IsHexDigit c) := inferInstanceAs (Decidable (_ ∨ _))

/-- The bounds of letters and digits. -/
lemma isAlphanum_iff {c : Char} : c.isAlphanum ↔
    'A' ≤ c ∧ c ≤ 'Z' ∨ 'a' ≤ c ∧ c ≤ 'z' ∨ '0' ≤ c ∧ c ≤ '9' := by
  change (decide ('A' ≤ c ∧ c ≤ 'Z') || (decide ('a' ≤ c) && decide (c ≤ 'z')) ||
    (decide ('0' ≤ c) && decide (c ≤ '9'))) = true ↔ _
  simp only [Bool.or_eq_true, Bool.and_eq_true, decide_eq_true_eq, or_assoc]

lemma IsHexDigit.isAlphanum {c : Char} (h : IsHexDigit c) : c.isAlphanum := by
  rcases h with hdigit | ⟨ha, hf⟩
  · exact Bool.or_eq_true_iff.2 (.inr hdigit)
  · have hz : c ≤ 'z' := le_trans hf (by decide)
    exact isAlphanum_iff.2 (.inr (.inl ⟨ha, hz⟩))

namespace Sha256

lemma isHexDigit_hexDigit (w : UInt32) : IsHexDigit (hexDigit w) := by
  have hall : ∀ n < 16,
      IsHexDigit (if n < 10 then Char.ofNat (48 + n) else Char.ofNat (87 + n)) := by
    decide
  exact hall (w.toNat % 16) (Nat.mod_lt _ (by decide))

lemma isHexDigit_of_mem_wordDigits {w : UInt32} {c : Char} (h : c ∈ wordDigits w) :
    IsHexDigit c := by
  simp only [wordDigits, List.mem_cons, List.not_mem_nil, or_false] at h
  rcases h with rfl | rfl | rfl | rfl | rfl | rfl | rfl | rfl <;> exact isHexDigit_hexDigit _

end Sha256

/-- A digest has sixty-four digits. -/
lemma length_sha256Text (s : String) : (sha256Text s).toList.length = 64 := by
  simp [sha256Text, Sha256.State.hexDigits, Sha256.wordDigits]

/-- The digits of a digest are hexadecimal ones. -/
lemma isHexDigit_of_mem_sha256Text {s : String} {c : Char} (h : c ∈ (sha256Text s).toList) :
    IsHexDigit c := by
  simp only [sha256Text, String.toList_ofList, Sha256.State.hexDigits, List.mem_append] at h
  rcases h with ((((((h | h) | h) | h) | h) | h) | h) | h <;>
    exact Sha256.isHexDigit_of_mem_wordDigits h

/-! ## Label values -/

/-- A text that a label may have as its value. -/
structure LabelValue (s : String) : Prop where
  nonempty : s ≠ ""
  size : s.utf8ByteSize ≤ 63
  chars : ∀ c ∈ s.toList, c.isAlphanum ∨ c = '-' ∨ c = '_' ∨ c = '.'
  first : ∀ c, s.toList.head? = some c → c.isAlphanum
  last : ∀ c, s.toList.getLast? = some c → c.isAlphanum

lemma isLabelChar_iff {c : Char} :
    isLabelChar c ↔ c.isAlphanum ∨ c = '-' ∨ c = '_' ∨ c = '.' := by
  simp [isLabelChar, or_assoc]

private lemma elim_false_iff {α : Type} {p : α → Bool} {o : Option α} :
    o.elim false p = true ↔ ∃ a, o = some a ∧ p a = true := by
  rcases o with _ | a <;> simp

/-- **The check.** A text passes it exactly if it is a label value. -/
theorem labelValue_iff {s : String} :
    LabelValue s ↔ (s.utf8ByteSize ≤ maxLabelLength && isLabelValue s.toList) = true := by
  simp only [isLabelValue, Bool.and_eq_true, decide_eq_true_eq, List.all_eq_true,
    isLabelChar_iff, elim_false_iff, isLabelEdge]
  constructor
  · intro h
    have hne : s.toList ≠ [] := by simpa using h.nonempty
    have hfirst : s.toList.head? = some (s.toList.head hne) := List.head?_eq_some_head hne
    have hlast : s.toList.getLast? = some (s.toList.getLast hne) :=
    List.getLast?_eq_some_getLast hne
    exact ⟨h.size, ⟨h.chars, _, hfirst, h.first _ hfirst⟩, _, hlast, h.last _ hlast⟩
  · rintro ⟨hsize, ⟨hchars, a, ha, hfirst⟩, b, hb, hlast⟩
    refine ⟨?_, hsize, hchars, fun c hc => ?_, fun c hc => ?_⟩
    · rintro rfl
      simp at ha
    · rw [ha] at hc
      cases hc
      exact hfirst
    · rw [hb] at hc
      cases hc
      exact hlast

/-- Characters of label values take a byte each. -/
lemma utf8Size_of_isLabelChar {c : Char} (h : isLabelChar c) : c.utf8Size = 1 := by
  rw [Char.utf8Size_eq_one_iff]
  rcases isLabelChar_iff.1 h with halnum | rfl | rfl | rfl
  · have hbounds := isAlphanum_iff.1 halnum
    simp only [Char.le_def] at hbounds
    grind
  all_goals decide

lemma utf8ByteSize_ofList {cs : List Char} (h : ∀ c ∈ cs, isLabelChar c) :
    (String.ofList cs).utf8ByteSize = cs.length := by
  rw [String.utf8ByteSize_ofList]
  induction cs with
  | nil => rfl
  | cons c cs ih =>
    rw [List.forall_mem_cons] at h
    rw [String.utf8Len_cons, ih h.2, utf8Size_of_isLabelChar h.1, List.length_cons]

/-! ## Trimmed texts -/

lemma isInfix_trimWhile (p : Char → Bool) (cs : List Char) : trimWhile p cs <:+: cs :=
  (List.rdropWhile_prefix p _).isInfix.trans (List.dropWhile_suffix p).isInfix

/-- What is left after both ends were trimmed starts with a character that stays. -/
lemma not_of_head?_trimWhile {p : Char → Bool} {cs : List Char} {c : Char}
    (h : (trimWhile p cs).head? = some c) : p c = false := by
  have hprefix : trimWhile p cs <+: cs.dropWhile p := List.rdropWhile_prefix p _
  obtain ⟨dropped, hdropped⟩ := hprefix
  have hhead : (cs.dropWhile p).head? = some c := by
    rw [← hdropped, List.head?_append, h]
    rfl
  have hnot := List.head?_dropWhile_not p cs
  rwa [hhead] at hnot

namespace Reference

variable {r : Reference} {cs : List Char} {c : Char}

/-! ## The two parts of a label -/

lemma isLabelChar_of_mem_readablePart (h : c ∈ readablePart cs) : isLabelChar c := by
  have hmem : c ∈ cs.filter isLabelChar := List.mem_of_mem_take ((isInfix_trimWhile _ _).subset h)
  exact (List.mem_filter.1 hmem).2

lemma length_readablePart_le : (readablePart cs).length ≤ 50 := by
  have htrim : (readablePart cs).length ≤ ((cs.filter isLabelChar).take 50).length :=
    (isInfix_trimWhile _ _).length_le
  have htake : ((cs.filter isLabelChar).take 50).length ≤ 50 := List.length_take_le _ _
  omega

lemma isAlphanum_of_head?_readablePart (h : (readablePart cs).head? = some c) : c.isAlphanum := by
  simpa [isLabelEdge] using not_of_head?_trimWhile h

/-- What stands in front of the digest in the label of a reference that is no label value itself:
its readable part and a dash, or nothing. -/
def labelStart (r : Reference) : List Char :=
  if readablePart r.dotted.toList = [] then [] else readablePart r.dotted.toList ++ ['-']

/-- The start of the digest of a reference. -/
def shortDigest (r : Reference) : List Char := (sha256Text r.dotted).toList.take labelDigestLength

lemma isLabelChar_of_mem_labelStart (h : c ∈ r.labelStart) : isLabelChar c := by
  unfold labelStart at h
  split at h
  · cases h
  · rcases List.mem_append.1 h with hreadable | hdash
    · exact isLabelChar_of_mem_readablePart hreadable
    · obtain rfl : c = '-' := by simpa using hdash
      decide

lemma length_labelStart_le : r.labelStart.length ≤ 51 := by
  have hreadable : (readablePart r.dotted.toList).length ≤ 50 := length_readablePart_le
  unfold labelStart
  split
  · simp
  · simp
    omega

lemma isAlphanum_of_head?_labelStart (h : r.labelStart.head? = some c) : c.isAlphanum := by
  unfold labelStart at h
  split at h
  · cases h
  · next hne =>
    rw [List.head?_append_of_ne_nil _ hne] at h
    exact isAlphanum_of_head?_readablePart h

lemma length_shortDigest : r.shortDigest.length = 12 := by
  simp [shortDigest, labelDigestLength, length_sha256Text]

lemma isAlphanum_of_mem_shortDigest (h : c ∈ r.shortDigest) : c.isAlphanum :=
  (isHexDigit_of_mem_sha256Text (List.mem_of_mem_take h)).isAlphanum

/-! ## Labels -/

/-- A dotted reference that is a label value is its own label. -/
lemma label_of_labelValue (h : LabelValue r.dotted) : r.label = r.dotted := by
  rw [label, if_pos (labelValue_iff.1 h)]

/-- The label of any other reference ends with the start of its digest. -/
lemma toList_label_of_not (h : ¬ LabelValue r.dotted) :
    r.label.toList = r.labelStart ++ r.shortDigest := by
  rw [labelValue_iff] at h
  rw [label, if_neg h, labelStart]
  by_cases hempty : readablePart r.dotted.toList = [] <;> simp [hempty, shortDigest]

/-- A readable part in front of a digest makes up a label value. -/
private lemma labelValue_of_not (h : ¬ LabelValue r.dotted) : LabelValue r.label := by
  have hlabel : r.label.toList = r.labelStart ++ r.shortDigest := toList_label_of_not h
  have hstart : r.labelStart.length ≤ 51 := length_labelStart_le
  have hdigest : r.shortDigest.length = 12 := length_shortDigest
  have hne : r.shortDigest ≠ [] := List.ne_nil_of_length_eq_add_one hdigest
  have hchars : ∀ c ∈ r.label.toList, isLabelChar c := by
    intro c hc
    rw [hlabel, List.mem_append] at hc
    rcases hc with hc | hc
    · exact isLabelChar_of_mem_labelStart hc
    · simp [isLabelChar, isAlphanum_of_mem_shortDigest hc]
  have hlength : r.label.toList.length ≤ 63 := by
    rw [hlabel, List.length_append]
    omega
  refine ⟨?_, ?_, fun c hc => isLabelChar_iff.1 (hchars c hc), fun c hc => ?_, fun c hc => ?_⟩
  · intro hempty
    rw [hempty] at hlabel
    exact hne (List.append_eq_nil_iff.1 hlabel.symm).2
  · have hbytes := utf8ByteSize_ofList hchars
    rw [String.ofList_toList] at hbytes
    omega
  · rw [hlabel, List.head?_append] at hc
    rcases hhead : r.labelStart.head? with _ | first
    · rw [hhead, Option.none_or] at hc
      exact isAlphanum_of_mem_shortDigest (List.mem_of_mem_head? hc)
    · rw [hhead, Option.some_or] at hc
      cases hc
      exact isAlphanum_of_head?_labelStart hhead
  · rw [hlabel, List.getLast?_append_of_ne_nil _ hne] at hc
    exact isAlphanum_of_mem_shortDigest (List.mem_of_getLast? hc)

/-- **Labels are label values.** Whatever the namespace and name of a reference are, its label is a
label value; and it is the dotted reference exactly where that is one.

**Proof sketch.** A readable part has label characters only, fifty at most, and starts with a letter
or digit; with the dash and twelve hexadecimal digits after it, it comes to sixty-three bytes at
most and ends with a digit or letter. Where nothing readable is left, the digits stand alone. -/
theorem labelValue_label (r : Reference) :
    LabelValue r.label ∧ (r.label = r.dotted ↔ LabelValue r.dotted) := by
  by_cases h : LabelValue r.dotted
  · have hlabel : r.label = r.dotted := label_of_labelValue h
    exact ⟨hlabel ▸ h, fun _ => h, fun _ => hlabel⟩
  · have hlabel : LabelValue r.label := labelValue_of_not h
    refine ⟨hlabel, fun heq => ?_, fun hv => absurd hv h⟩
    rwa [heq] at hlabel

end Reference

end MonitorSync
