import MonitorSync.Mustache.Delimiters
import MonitorSync.Mustache.Render
import MonitorSync.Proofs.Text.Replace
set_option autoImplicit false

/-!
# Texts with tags between delimiters of their own

A body that has delimiters of its own is brought to double braces by three replacements, one after
the other. If its delimiters occur nowhere but around its tags, these do what is meant, each on its
own: the double braces of the literals get a backslash, and every delimiter becomes its braces.

## Main definitions

* `ValueTag`, `TaggedText` — a tag that prints a value, and literals with such tags between them.
* `TaggedText.written` — a text with its tags between delimiters.
* `TaggedText.OnlyTags` — the delimiters occur nowhere but around the tags.
* `TaggedText.escaped` — a text with the double braces of its literals escaped.

## Main results

* `TaggedText.normalize_written` — what is made of a text before it is read.
-/

namespace MonitorSync

namespace Mustache

variable {p u v w cs : List Char} {c : Char}

/-! ## Characters that delimiters may have -/

/-- A character that is neither a brace nor a backslash. -/
def isFree (c : Char) : Bool := c ≠ '\x7b' && c ≠ '\x7d' && c ≠ '\\'

/-- The characters in front of the first brace or backslash. -/
def freeRun (cs : List Char) : List Char := cs.takeWhile isFree

/-- Whether a text of free characters stands in front depends on what is in front of the first brace
or backslash only. -/
lemma isPrefix_iff_freeRun (hp : ∀ c ∈ p, isFree c = true) : p <+: cs ↔ p <+: freeRun cs := by
  constructor
  · rintro ⟨rest, rfl⟩
    rw [freeRun, List.takeWhile_append_of_pos hp]
    exact List.prefix_append _ _
  · exact fun h => h.trans (List.takeWhile_prefix _)

/-- What follows the same characters. -/
lemma freeRun_cons_mono (h : freeRun u <+: freeRun v) : freeRun (c :: u) <+: freeRun (c :: v) := by
  rw [freeRun, freeRun, List.takeWhile_cons, List.takeWhile_cons]
  split
  · exact List.cons_prefix_cons.2 ⟨rfl, h⟩
  · exact List.nil_prefix

lemma freeRun_append_mono (h : freeRun v <+: freeRun w) :
    freeRun (u ++ v) <+: freeRun (u ++ w) := by
  induction u with
  | nil => exact h
  | cons c u ih => exact freeRun_cons_mono ih

/-- A pattern of free characters that does not begin in a stretch does not begin there either if
fewer free characters follow. -/
lemma notIn_mono (hp : ∀ c ∈ p, isFree c = true) (h : NotIn p u w)
    (hrun : freeRun v <+: freeRun w) : NotIn p u v := by
  induction u with
  | nil => trivial
  | cons c u ih =>
    refine ⟨fun hprefix => h.1 ?_, ih h.2⟩
    rw [isPrefix_iff_freeRun hp] at hprefix ⊢
    exact hprefix.trans (freeRun_cons_mono (freeRun_append_mono hrun))

/-- A pattern of free characters does not begin with another one. -/
lemma not_isPrefix_of_not_isFree (hp : p ≠ []) (hfree : ∀ c ∈ p, isFree c = true)
    (hc : isFree c = false) : ¬p <+: c :: cs := by
  intro hprefix
  obtain ⟨c', p, rfl⟩ := List.exists_cons_of_ne_nil hp
  obtain ⟨rfl, -⟩ := List.cons_prefix_cons.1 hprefix
  rw [hfree c' List.mem_cons_self] at hc
  cases hc

/-- The braces in front of a tag. -/
abbrev opening : List Char := ['\x7b', '\x7b']

/-- The braces behind a tag. -/
abbrev closing : List Char := ['\x7d', '\x7d']

lemma notIn_opening (hp : p ≠ []) (hfree : ∀ c ∈ p, isFree c = true) : NotIn p opening v :=
  ⟨not_isPrefix_of_not_isFree hp hfree rfl, not_isPrefix_of_not_isFree hp hfree rfl, trivial⟩

/-! ## Escaping double braces -/

/-- A text with a backslash in front of its double braces. -/
def escape : List Char → List Char
  | '\x7b' :: '\x7b' :: rest => '\\' :: '\x7b' :: '\x7b' :: escape rest
  | c :: rest => c :: escape rest
  | [] => []

/-- Escaping is a replacement of double braces. -/
lemma replaced_opening : replaced opening ('\\' :: opening) cs = escape cs := by
  fun_induction escape cs with
  | case1 rest ih =>
    have hreplaced : replaced opening ('\\' :: opening) (opening ++ rest) = _ :=
      replaced_pattern (List.cons_ne_nil _ _)
    rwa [ih] at hreplaced
  | case2 c rest hnot ih =>
    rw [replaced_cons, ih]
    rintro ⟨rest', hrest⟩
    cases hrest
    exact hnot rest' rfl rfl
  | case3 => exact replaced_nil

/-- Two parts of a text are escaped on their own if the second does not go on with the braces of the
first. -/
lemma escape_append (hv : v.head? ≠ some '\x7b') : escape (u ++ v) = escape u ++ escape v := by
  fun_induction escape u with
  | case1 rest ih => simp [escape, ih]
  | case2 c rest hnot ih =>
    rw [List.cons_append, List.cons_append, escape, ih]
    intro rest' hc hrest
    cases rest with
    | nil => simp_all
    | cons c' rest =>
      cases hrest
      exact hnot rest hc rfl
  | case3 => rfl

/-- Characters other than braces are not escaped. -/
lemma escape_append_of_free (hu : ∀ c ∈ u, isFree c = true) : escape (u ++ v) = u ++ escape v := by
  induction u with
  | nil => rfl
  | cons c u ih =>
    obtain ⟨hc, hu⟩ := List.forall_mem_cons.1 hu
    rw [List.cons_append, escape, ih hu]
    · rfl
    · rintro rest rfl
      cases hc

lemma freeRun_escape_mono (h : freeRun v <+: freeRun w) :
    freeRun (escape u ++ v) <+: freeRun (u ++ w) := by
  fun_induction escape u with
  | case1 rest ih => exact List.nil_prefix
  | case2 c rest hnot ih => exact freeRun_cons_mono ih
  | case3 => exact h

/-- Escaping makes no new occurrence of a pattern of free characters. -/
lemma notIn_escape (hp : ∀ c ∈ p, isFree c = true) (h : NotIn p u w)
    (hrun : freeRun v <+: freeRun w) : NotIn p (escape u) v := by
  fun_induction escape u with
  | case1 rest ih =>
    have hp' : p ≠ [] := by
      rintro rfl
      exact h.1 List.nil_prefix
    exact ⟨not_isPrefix_of_not_isFree hp' hp rfl, not_isPrefix_of_not_isFree hp' hp rfl,
      not_isPrefix_of_not_isFree hp' hp rfl, ih h.2.2⟩
  | case2 c rest hnot ih =>
    refine ⟨fun hprefix => h.1 ?_, ih h.2⟩
    rw [isPrefix_iff_freeRun hp] at hprefix ⊢
    exact hprefix.trans (freeRun_cons_mono (freeRun_escape_mono hrun))
  | case3 => trivial

/-! ## Tags and the literals between them -/

/-- A name that is only looked up: it is neither a word of the language nor the name of a helper. -/
def isPlainName (name : String) : Bool :=
  !name.isEmpty && name.toList.all isNameChar && name ≠ "this" &&
    !"else".toList.isPrefixOf name.toList && (valueHelper? name).isNone && !isDirective name

/-- A tag that prints the value of a name, with blanks around the name. -/
structure ValueTag where
  before : List Char
  name : String
  after : List Char
  isGap_before : ∀ c ∈ before, isGap c = true
  isPlainName_name : isPlainName name = true
  isGap_after : ∀ c ∈ after, isGap c = true

/-- What stands between the delimiters of a tag. -/
def ValueTag.inner (t : ValueTag) : List Char := t.before ++ (t.name.toList ++ t.after)

/-- Literals with tags between them. -/
inductive TaggedText where
  | last (literal : List Char)
  | tagged (literal : List Char) (tag : ValueTag) (rest : TaggedText)

namespace TaggedText

/-- The tags of a text. -/
def tags : TaggedText → List ValueTag
  | last _ => []
  | tagged _ tag rest => tag :: rest.tags

/-- The characters of a text, its tags between `left` and `right`. -/
def chars (left right : List Char) : TaggedText → List Char
  | last literal => literal
  | tagged literal tag rest =>
    literal ++ (left ++ (tag.inner ++ (right ++ rest.chars left right)))

/-- A text with the double braces of its literals escaped. -/
def escaped : TaggedText → TaggedText
  | last literal => last (escape literal)
  | tagged literal tag rest => tagged (escape literal) tag rest.escaped

/-- A text with its tags between delimiters. -/
def written (d : Delimiters) (t : TaggedText) : String :=
  String.ofList (t.chars d.left.toList d.right.toList)

/-- The delimiters occur in a text nowhere but around its tags. -/
def OnlyTags (d : Delimiters) (t : TaggedText) : Prop :=
  ∀ p ∈ [d.left, d.right], occurrences p.toList (t.written d).toList =
    (t.tags.flatMap fun _ => [d.left, d.right]).count p

instance (d : Delimiters) (t : TaggedText) : Decidable (t.OnlyTags d) :=
  inferInstanceAs (Decidable (∀ p ∈ [d.left, d.right], _))

end TaggedText

/-- Delimiters that are not empty, and have neither braces nor backslashes in them. -/
structure Delimiters.Free (d : Delimiters) : Prop where
  left_ne_nil : d.left.toList ≠ []
  right_ne_nil : d.right.toList ≠ []
  isFree_left : ∀ c ∈ d.left.toList, isFree c = true
  isFree_right : ∀ c ∈ d.right.toList, isFree c = true

/-- A plain name has characters, none of them other than those of names, and is no word that means
something else. -/
lemma isPlainName_iff {name : String} : isPlainName name = true ↔
    name ≠ "" ∧ (∀ c ∈ name.toList, isNameChar c = true) ∧ name ≠ "this" ∧
      ¬"else".toList <+: name.toList ∧ valueHelper? name = none ∧ isDirective name = false := by
  simp [isPlainName, and_assoc, ← List.isPrefixOf_iff_prefix]

lemma isFree_of_isNameChar (h : isNameChar c = true) : isFree c = true := by
  rw [isFree]
  by_contra hnot
  have hc : c = '\x7b' ∨ c = '\x7d' ∨ c = '\\' := by
    simp only [Bool.and_eq_true, decide_eq_true_eq] at hnot
    tauto
  rcases hc with rfl | rfl | rfl <;> revert h <;> decide

lemma eq_of_isGap (h : isGap c = true) : c = ' ' ∨ c = '\t' ∨ c = '\n' ∨ c = '\r' := by
  simpa [isGap, or_assoc] using h

lemma isFree_of_isGap (h : isGap c = true) : isFree c = true := by
  rcases eq_of_isGap h with rfl | rfl | rfl | rfl <;> decide

namespace ValueTag

variable (t : ValueTag)

lemma isNameChar_name : ∀ c ∈ t.name.toList, isNameChar c = true :=
  (isPlainName_iff.1 t.isPlainName_name).2.1

lemma isFree_inner : ∀ c ∈ t.inner, isFree c = true := by
  intro c hc
  rcases List.mem_append.1 hc with hc | hc
  · exact isFree_of_isGap (t.isGap_before c hc)
  rcases List.mem_append.1 hc with hc | hc
  · exact isFree_of_isNameChar (t.isNameChar_name c hc)
  · exact isFree_of_isGap (t.isGap_after c hc)

end ValueTag

namespace TaggedText

variable {l r q q' : List Char} {d : Delimiters} {t : TaggedText}

/-! ## The three replacements -/

/-- Escaping the double braces of a text escapes those of its literals. -/
lemma escape_chars (hl : l ≠ []) (hlfree : ∀ c ∈ l, isFree c = true)
    (hrfree : ∀ c ∈ r, isFree c = true) : escape (t.chars l r) = t.escaped.chars l r := by
  induction t with
  | last literal => rfl
  | tagged literal tag rest ih =>
    have hhead : (l ++ (tag.inner ++ (r ++ rest.chars l r))).head? ≠ some '\x7b' := by
      obtain ⟨c, l, rfl⟩ := List.exists_cons_of_ne_nil hl
      rw [List.cons_append, List.head?_cons]
      rintro ⟨rfl⟩
      cases hlfree '\x7b' List.mem_cons_self
    rw [chars, escape_append hhead, escape_append_of_free hlfree,
      escape_append_of_free tag.isFree_inner, escape_append_of_free hrfree, ih]
    rfl

/-- Text goes on with no more free characters behind `q` than behind `l`. -/
def Shorter (q l : List Char) : Prop :=
  ∀ v w, freeRun v <+: freeRun w → freeRun (q ++ v) <+: freeRun (l ++ w)

lemma Shorter.refl : Shorter l l := fun _ _ => freeRun_append_mono

lemma shorter_opening : Shorter opening l := fun _ _ _ => List.nil_prefix

/-- Escapes and braces leave no more free characters at the beginning of a text. -/
lemma freeRun_escaped (hq : Shorter q l) (hq' : Shorter q' r) :
    freeRun (t.escaped.chars q q') <+: freeRun (t.chars l r) := by
  induction t with
  | last literal =>
    have hmono := freeRun_escape_mono (u := literal) (List.prefix_refl (freeRun []))
    rw [List.append_nil, List.append_nil] at hmono
    exact hmono
  | tagged literal tag rest ih =>
    exact freeRun_escape_mono (hq _ _ (freeRun_append_mono (hq' _ _ ih)))

lemma tags_le_occurrences_left (hl : l ≠ []) : t.tags.length ≤ occurrences l (t.chars l r) := by
  induction t with
  | last literal => exact Nat.zero_le _
  | tagged literal tag rest ih =>
    have hlt := lt_occurrences_of_pattern (u := literal) (v := tag.inner ++ r) hl ih
    rwa [List.append_assoc] at hlt

/-- Where the left delimiter occurs only in front of tags, replacing it changes nothing else. -/
lemma replaced_left (hl : l ≠ []) (hlfree : ∀ c ∈ l, isFree c = true)
    (h : occurrences l (t.chars l r) ≤ t.tags.length) :
    replaced l q (t.escaped.chars l r) = t.escaped.chars q r := by
  induction t with
  | last literal =>
    have hnot : NotIn l literal [] := notIn_of_occurrences_eq_zero (Nat.le_zero.1 h)
    exact replaced_eq_self (notIn_escape hlfree hnot (List.prefix_refl _))
  | tagged literal tag rest ih =>
    have hrun : freeRun (rest.escaped.chars l r) <+: freeRun (rest.chars l r) :=
      freeRun_escaped .refl .refl
    rw [chars, ← List.append_assoc tag.inner] at h
    obtain ⟨hliteral, hinner, hrest⟩ :=
      notIn_of_occurrences_pattern hl (tags_le_occurrences_left hl) h
    have hliteral' := notIn_escape hlfree hliteral
      (freeRun_append_mono (freeRun_append_mono (u := tag.inner ++ r) hrun))
    have hinner' := notIn_mono hlfree hinner hrun
    rw [escaped, chars, ← List.append_assoc tag.inner, replaced_append hliteral',
      replaced_pattern hl, replaced_append hinner', ih hrest, List.append_assoc]
    rfl

lemma tags_le_occurrences_right (hr : r ≠ []) : t.tags.length ≤ occurrences r (t.chars l r) := by
  induction t with
  | last literal => exact Nat.zero_le _
  | tagged literal tag rest ih =>
    have hlt := lt_occurrences_of_pattern (u := literal ++ (l ++ tag.inner)) (v := []) hr ih
    rw [List.append_assoc, List.append_assoc] at hlt
    exact hlt

/-- Where the right delimiter occurs only behind tags, replacing it changes nothing else, also when
the left one has become braces. -/
lemma replaced_right (hr : r ≠ []) (hrfree : ∀ c ∈ r, isFree c = true)
    (h : occurrences r (t.chars l r) ≤ t.tags.length) :
    replaced r q (t.escaped.chars opening r) = t.escaped.chars opening q := by
  induction t with
  | last literal =>
    have hnot : NotIn r literal [] := notIn_of_occurrences_eq_zero (Nat.le_zero.1 h)
    exact replaced_eq_self (notIn_escape hrfree hnot (List.prefix_refl _))
  | tagged literal tag rest ih =>
    have hrun : freeRun (rest.escaped.chars opening r) <+: freeRun (rest.chars l r) :=
      freeRun_escaped shorter_opening .refl
    have hpattern : occurrences r ((literal ++ (l ++ tag.inner)) ++ (r ++ ([] ++ rest.chars l r))) ≤
        rest.tags.length + 1 := by
      rw [List.append_assoc, List.append_assoc]
      exact h
    obtain ⟨hfront, -, hrest⟩ :=
      notIn_of_occurrences_pattern hr (tags_le_occurrences_right hr) hpattern
    rw [notIn_append_iff, notIn_append_iff] at hfront
    obtain ⟨hliteral, -, hinner⟩ := hfront
    have hliteral' := notIn_escape hrfree hliteral
      (v := opening ++ (tag.inner ++ (r ++ rest.escaped.chars opening r))) List.nil_prefix
    have hinner' := notIn_mono hrfree hinner (freeRun_append_mono (u := r) hrun)
    rw [escaped, chars, replaced_append hliteral', replaced_append (notIn_opening hr hrfree),
      replaced_append hinner', replaced_pattern hr, ih hrest]
    rfl

/-- Two equal delimiters occur twice for each tag. -/
lemma tags_le_occurrences_both (hl : l ≠ []) :
    2 * t.tags.length ≤ occurrences l (t.chars l l) := by
  induction t with
  | last literal => exact Nat.zero_le _
  | tagged literal tag rest ih =>
    have hlt := lt_occurrences_of_pattern (u := []) (v := []) hl ih
    exact lt_occurrences_of_pattern (u := literal) (v := tag.inner) hl hlt

/-- Two equal delimiters become the same braces. -/
lemma replaced_both (hl : l ≠ []) (hlfree : ∀ c ∈ l, isFree c = true)
    (h : occurrences l (t.chars l l) ≤ 2 * t.tags.length) :
    replaced l opening (t.escaped.chars l l) = t.escaped.chars opening opening ∧
      NotIn l (t.escaped.chars opening opening) [] := by
  induction t with
  | last literal =>
    have hnot : NotIn l literal [] := notIn_of_occurrences_eq_zero (Nat.le_zero.1 h)
    have hnot' := notIn_escape hlfree hnot (List.prefix_refl _)
    exact ⟨replaced_eq_self hnot', hnot'⟩
  | tagged literal tag rest ih =>
    have hrun : freeRun (rest.escaped.chars l l) <+: freeRun (rest.chars l l) :=
      freeRun_escaped .refl .refl
    have hmore : 2 * rest.tags.length + 1 ≤ occurrences l ([] ++ (l ++ ([] ++ rest.chars l l))) :=
      lt_occurrences_of_pattern hl (tags_le_occurrences_both hl)
    obtain ⟨hliteral, hinner, hend⟩ :=
      notIn_of_occurrences_pattern (u := literal) (v := tag.inner) hl hmore h
    obtain ⟨-, -, hrest⟩ := notIn_of_occurrences_pattern hl (tags_le_occurrences_both hl) hend
    obtain ⟨hreplaced, hnot⟩ := ih hrest
    have hliteral' := notIn_escape (v := l ++ (tag.inner ++ (l ++ rest.escaped.chars l l))) hlfree
      hliteral (freeRun_append_mono (freeRun_append_mono (freeRun_append_mono hrun)))
    have hinner' := notIn_mono (v := l ++ rest.escaped.chars l l) hlfree hinner
      (freeRun_append_mono hrun)
    refine ⟨?_, ?_⟩
    · rw [escaped, chars, replaced_append hliteral', replaced_pattern hl, replaced_append hinner',
        replaced_pattern hl, hreplaced]
      rfl
    · rw [escaped, chars, notIn_append_iff, notIn_append_iff, notIn_append_iff, notIn_append_iff]
      exact ⟨notIn_escape hlfree hliteral List.nil_prefix, notIn_opening hl hlfree,
        notIn_mono hlfree hinner List.nil_prefix, notIn_opening hl hlfree, hnot⟩

/-- The three replacements, character by character. -/
lemma normalize_ofList (hd : d.Free) : normalize d (String.ofList cs) =
    String.ofList (replaced d.right.toList closing
      (replaced d.left.toList opening (escape cs))) := by
  have hleft : d.left ≠ "" := by simpa using hd.left_ne_nil
  have hright : d.right ≠ "" := by simpa using hd.right_ne_nil
  have hbraces : d ≠ .braces := by
    rintro rfl
    cases hd.isFree_left '\x7b' (by decide)
  rw [normalize, if_neg (by simp [hleft, hright, hbraces])]
  have hescape : replaceAll Delimiters.braces.left ("\\" ++ Delimiters.braces.left)
      (String.ofList cs) = String.ofList (escape cs) := by
    rw [replaceAll_ofList (by decide), ← replaced_opening]
    rfl
  simp only [hescape, replaceAll_ofList hd.left_ne_nil, replaceAll_ofList hd.right_ne_nil]
  rfl

/-- What closes a tag after the replacements. Equal delimiters cannot be told apart, so both open
one. -/
def bracesAfter (d : Delimiters) : List Char := if d.left = d.right then opening else closing

/-- **Normalisation.** Where delimiters occur only around tags, each becomes its braces, and the
double braces of the literals get a backslash: nothing else of the text changes. -/
theorem normalize_written (hd : d.Free) (h : t.OnlyTags d) :
    normalize d (t.written d) = String.ofList (t.escaped.chars opening (bracesAfter d)) := by
  have hoccurs : ∀ p ∈ [d.left, d.right],
      occurrences p.toList (t.chars d.left.toList d.right.toList) =
        t.tags.length * [d.left, d.right].count p := by
    intro p hp
    have hcount := h p hp
    rw [List.count_flatMap, written, String.toList_ofList] at hcount
    simpa [Function.comp_def] using hcount
  have hl := hoccurs d.left (by simp)
  have hr := hoccurs d.right (by simp)
  rw [written, normalize_ofList hd, escape_chars hd.left_ne_nil hd.isFree_left hd.isFree_right]
  by_cases heq : d.left = d.right
  · rw [← heq] at hl ⊢
    have htwice : [d.left, d.left].count d.left = 2 := by simp
    rw [htwice, Nat.mul_comm] at hl
    obtain ⟨hreplaced, hnot⟩ := replaced_both hd.left_ne_nil hd.isFree_left hl.le
    rw [hreplaced, replaced_eq_self hnot, bracesAfter, if_pos heq]
  · have honce : [d.left, d.right].count d.left = 1 := by simp [Ne.symm heq]
    have honce' : [d.left, d.right].count d.right = 1 := by simp [heq]
    rw [honce, Nat.mul_one] at hl
    rw [honce', Nat.mul_one] at hr
    rw [replaced_left hd.left_ne_nil hd.isFree_left hl.le,
      replaced_right hd.right_ne_nil hd.isFree_right hr.le, bracesAfter, if_neg heq]

end TaggedText

end Mustache

end MonitorSync
