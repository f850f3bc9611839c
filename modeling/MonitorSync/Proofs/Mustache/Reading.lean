import MonitorSync.Proofs.Mustache.Literals
import Mathlib.Data.List.DropRight
set_option autoImplicit false

/-!
# Reading literals and tags

A tag that prints a value is read from its parts: its name ends where blanks and braces follow, is
read as a path of one item, and is neither a block, nor a helper, nor a word of the language. A text
is read as its literals and tags exactly if its literals are spared and the braces of its tags can
be told apart.

## Main definitions

* `EndsCall` — a list of arguments ends in front of this text.
* `ValueTag.path` — where a tag looks up its name.
* `TaggedText.pieces` — the literals and tags of a text, as they are read.
* `TaggedText.LiteralsSpared`, `TaggedText.IsSpared` — a text of which nothing is lost.

## Main results

* `readTag?_closing`, `readTag?_opening` — a tag is read if its braces are closed, and not if
  another one opens.
* `TaggedText.scan?_normalize_iff` — a text is read as its literals and tags exactly if it is
  spared.
-/

namespace MonitorSync

namespace Mustache

open Piece hiding tag text

variable {c : Char} {u v cs rest : List Char} {n : Nat}

/-! ## What ends a name -/

/-- A list of arguments ends here: behind blanks stand the braces that close the tag, or those of
another one. -/
def EndsCall (cs : List Char) : Prop :=
  ∃ rest, skipGaps cs = closing ++ rest ∨ skipGaps cs = opening ++ rest

lemma skipGaps_append (hu : ∀ c ∈ u, isGap c = true) : skipGaps (u ++ v) = skipGaps v :=
  List.dropWhile_append_of_pos hu

lemma skipGaps_cons (hc : isGap c = false) : skipGaps (c :: v) = c :: v := by
  rw [skipGaps, List.dropWhile_cons_of_neg (by simp [hc])]

/-- Behind blanks, a call ends with a brace. -/
lemma EndsCall.exists_brace (h : EndsCall cs) :
    ∃ c rest, skipGaps cs = c :: rest ∧ (c = '\x7b' ∨ c = '\x7d') := by
  obtain ⟨rest, h | h⟩ := h
  · exact ⟨_, _, h, .inr rfl⟩
  · exact ⟨_, _, h, .inl rfl⟩

lemma readName?_of_endsCall (h : EndsCall cs) : readName? cs = none := by
  obtain ⟨c, rest, hskip, rfl | rfl⟩ := h.exists_brace <;> rw [readName?, hskip] <;> rfl

lemma readPath?_of_endsCall (h : EndsCall cs) : readPath? (skipGaps cs) = none := by
  obtain ⟨c, rest, hskip, rfl | rfl⟩ := h.exists_brace <;> rw [hskip] <;> rfl

lemma expect?_paren_of_endsCall (h : EndsCall cs) : expect? "(" cs = none := by
  obtain ⟨c, rest, hskip, rfl | rfl⟩ := h.exists_brace <;> rw [expect?, hskip] <;> rfl

lemma startsWithKeyword_of_endsCall (h : EndsCall cs) :
    startsWithKeyword (skipGaps cs) = false := by
  obtain ⟨c, rest, hskip, rfl | rfl⟩ := h.exists_brace <;> rw [hskip] <;> rfl

lemma readLiteral?_of_endsCall (h : EndsCall cs) : readLiteral? (skipGaps cs) = none := by
  obtain ⟨rest, hskip | hskip⟩ := h <;> rw [hskip] <;> rfl

lemma readNested?_of_endsCall (h : EndsCall cs) : readNested? n cs = none := by
  cases n with
  | zero => rw [readNested?]
  | succ n =>
    rw [readNested?, expect?_paren_of_endsCall h]
    rfl

lemma skipGaps_skipGaps : skipGaps (skipGaps cs) = skipGaps cs := List.dropWhile_idempotent _ _

lemma EndsCall.skipGaps (h : EndsCall cs) : EndsCall (skipGaps cs) := by
  rwa [EndsCall, skipGaps_skipGaps]

lemma readArg?_of_endsCall (h : EndsCall cs) : readArg? n cs = none := by
  cases n with
  | zero => rw [readArg?]
  | succ n =>
    rw [readArg?]
    simp [startsWithKeyword_of_endsCall h, readLiteral?_of_endsCall h, readPath?_of_endsCall h,
      readNested?_of_endsCall h.skipGaps]

lemma readArgs_of_endsCall (h : EndsCall cs) : readArgs n cs = ([], [], cs) := by
  cases n with
  | zero => rw [readArgs]
  | succ n =>
    rw [readArgs]
    simp [readName?_of_endsCall h, readArg?_of_endsCall h]

/-- A call ends with a blank or a brace. -/
lemma EndsCall.exists_head (h : EndsCall cs) :
    ∃ c rest, cs = c :: rest ∧ isNameChar c = false ∧ isPathDot c = false := by
  obtain ⟨c, rest, hskip, hbrace⟩ := h.exists_brace
  cases cs with
  | nil => cases hskip
  | cons c' cs =>
    refine ⟨c', cs, rfl, ?_⟩
    by_cases hgap : isGap c' = true
    · rcases eq_of_isGap hgap with rfl | rfl | rfl | rfl <;> decide
    · rw [skipGaps_cons (by simpa using hgap)] at hskip
      cases hskip
      rcases hbrace with rfl | rfl <;> decide

/-! ## Names -/

section Name

variable (t : ValueTag) {w : List Char}

lemma ValueTag.exists_name : ∃ c cs, t.name.toList = c :: cs ∧ isNameChar c = true := by
  obtain ⟨hname, -⟩ := isPlainName_iff.1 t.isPlainName_name
  cases hchars : t.name.toList with
  | nil => exact absurd (String.toList_eq_nil_iff.1 hchars) hname
  | cons c cs =>
    exact ⟨c, cs, rfl, t.isNameChar_name c (hchars ▸ List.mem_cons_self)⟩

/-- The name stands in front of what is left without blanks. -/
lemma skipGaps_name : skipGaps (t.before ++ (t.name.toList ++ w)) = t.name.toList ++ w := by
  obtain ⟨c, cs, hname, hc⟩ := t.exists_name
  rw [skipGaps_append t.isGap_before, hname, List.cons_append, skipGaps_cons]
  by_contra hgap
  rcases eq_of_isGap (by simpa using hgap) with rfl | rfl | rfl | rfl <;> cases hc

lemma takeWhile_name (hw : EndsCall w) :
    (t.name.toList ++ w).takeWhile isNameChar = t.name.toList := by
  obtain ⟨c, rest, rfl, hc, -⟩ := hw.exists_head
  rw [List.takeWhile_append_of_pos t.isNameChar_name, List.takeWhile_cons_of_neg (by simp [hc]),
    List.append_nil]

lemma dropWhile_name (hw : EndsCall w) : (t.name.toList ++ w).dropWhile isNameChar = w := by
  obtain ⟨c, rest, rfl, hc, -⟩ := hw.exists_head
  rw [List.dropWhile_append_of_pos t.isNameChar_name, List.dropWhile_cons_of_neg (by simp [hc])]

lemma readName?_name (hw : EndsCall w) :
    readName? (t.before ++ (t.name.toList ++ w)) = some (t.name, w) := by
  obtain ⟨c, cs, hname, -⟩ := t.exists_name
  simp only [readName?, skipGaps_name, takeWhile_name t hw, dropWhile_name t hw]
  rw [if_neg (by simp [hname]), String.ofList_toList]

/-- A word that does not start a name does not stand in front of it. -/
lemma strip?_name {word : List Char} (hw : EndsCall w) (hword : ¬word <+: t.name.toList)
    (hchars : ∀ c ∈ word, isNameChar c = true) : strip? word (t.name.toList ++ w) = none := by
  rw [strip?, if_neg]
  rw [List.isPrefixOf_iff_prefix]
  intro hprefix
  obtain ⟨y, rfl⟩ : t.name.toList <+: word :=
    (List.prefix_or_prefix_of_prefix hprefix (List.prefix_append _ _)).resolve_left hword
  obtain ⟨c, rest, rfl, hc, -⟩ := hw.exists_head
  cases y with
  | nil => exact hword (by simp)
  | cons c' y =>
    rw [List.prefix_append_right_inj] at hprefix
    obtain ⟨rfl, -⟩ := List.cons_prefix_cons.1 hprefix
    rw [hchars c' (by simp)] at hc
    cases hc

/-- A character that is in no name does not stand in front of one. -/
lemma strip?_cons_name {c : Char} {word : List Char} (hc : isNameChar c = false) :
    strip? (c :: word) (t.name.toList ++ w) = none := by
  obtain ⟨c', cs, hname, hc'⟩ := t.exists_name
  rw [strip?, if_neg]
  rw [List.isPrefixOf_iff_prefix, hname, List.cons_append]
  intro hprefix
  obtain ⟨rfl, -⟩ := List.cons_prefix_cons.1 hprefix
  rw [hc'] at hc
  cases hc

/-- What separates the items of a path is in no name. -/
lemma isNameChar_of_isPathDot {c : Char} (h : isPathDot c = true) : isNameChar c = false := by
  have hc : c = '.' ∨ c = '/' := by simpa [isPathDot] using h
  rcases hc with rfl | rfl <;> decide

/-- A name is no step of a path that goes on. -/
lemma stripStep?_name {word : String} (hw : EndsCall w)
    (hchars : ∀ c ∈ word.toList, isNameChar c = true) :
    stripStep? word (t.name.toList ++ w) = none := by
  have hdot : ∀ c rest, strip? word.toList (t.name.toList ++ w) = some (c :: rest) →
      isPathDot c = false := by
    intro c rest hstrip
    by_contra hc
    rw [Bool.not_eq_false] at hc
    rw [strip?] at hstrip
    split at hstrip
    · next hprefix =>
      obtain ⟨y, hy⟩ := List.isPrefixOf_iff_prefix.1 hprefix
      rw [← hy, List.drop_left, Option.some.injEq] at hstrip
      subst hstrip
      have hleft := takeWhile_name t hw
      have hright := dropWhile_name t hw
      rw [← hy] at hleft hright
      rw [List.dropWhile_append_of_pos hchars, List.dropWhile_cons_of_neg
        (by simp [isNameChar_of_isPathDot hc])] at hright
      obtain ⟨c', rest', rfl, -, hc'⟩ := hw.exists_head
      cases hright
      rw [hc] at hc'
      cases hc'
    · cases hstrip
  rw [stripStep?]
  cases hstrip : strip? word.toList (t.name.toList ++ w) with
  | none => rfl
  | some rest =>
    cases rest with
    | nil => rfl
    | cons c rest => simp [hdot c rest hstrip]

/-- Where a tag looks up its name. -/
def ValueTag.path : Path := ⟨t.name, .current, 0, [t.name]⟩

lemma readPathItem?_name (hw : EndsCall w) :
    readPathItem? (t.name.toList ++ w) = some (t.name, w) := by
  obtain ⟨c, cs, hname, hc⟩ := t.exists_name
  have hbracket : c ≠ '[' := by
    rintro rfl
    cases hc
  rw [readPathItem?]
  · simp only [takeWhile_name t hw, dropWhile_name t hw]
    rw [if_neg (by simp [hname]), String.ofList_toList]
  · rw [hname]
    rintro rest hrest
    cases hrest
    exact hbracket rfl

lemma readPathRest_of_endsCall (hw : EndsCall w) : readPathRest n w = ([], w) := by
  obtain ⟨c, rest, rfl, -, hc⟩ := hw.exists_head
  cases n with
  | zero => rfl
  | succ n => simp [readPathRest, hc]

/-- A character that is in no name is not in front of one. -/
lemma name_ne_cons {c : Char} (hc : isNameChar c = false) (rest : List Char) :
    t.name.toList ++ w ≠ c :: rest := by
  obtain ⟨c', cs, hname, hc'⟩ := t.exists_name
  rw [hname]
  intro heq
  cases heq
  rw [hc'] at hc
  cases hc

/-- A name is read as a path of one item. -/
lemma readPath?_name (hw : EndsCall w) :
    readPath? (t.before ++ (t.name.toList ++ w)) = some (t.path, w) := by
  have hthis : stripStep? "this" (t.name.toList ++ w) = none :=
    stripStep?_name t hw (List.all_eq_true.1 (by decide))
  have hdot : strip? ['.', '/'] (t.name.toList ++ w) = none := strip?_cons_name t (by decide)
  have hroot : stripStep? "@root" (t.name.toList ++ w) = none := by
    have hstrip : strip? "@root".toList (t.name.toList ++ w) = none :=
      strip?_cons_name t (by decide)
    rw [stripStep?, hstrip]
    rfl
  have hloop : ∀ r, t.name.toList ++ w = '@' :: r → False := name_ne_cons t (by decide)
  have hups : readUps (t.name.toList ++ w) = (0, t.name.toList ++ w) := by
    rw [readUps]
    exact fun c rest => name_ne_cons t (by decide) _
  obtain ⟨-, -, hname, -⟩ := isPlainName_iff.1 t.isPlainName_name
  rw [readPath?]
  simp only [skipGaps_name, hthis, hdot, Option.orElse_none, Option.getD_none, hroot]
  simp [hups, readPathItem?_name t hw, readPathRest_of_endsCall hw, hname, ValueTag.path]

/-- **Names.** What a tag prints is the value of its name. -/
lemma readCall?_name (hw : EndsCall w) :
    readCall? (t.before ++ (t.name.toList ++ w)) = some (.path t.path, w) := by
  have hparen : expect? "(" (t.before ++ (t.name.toList ++ w)) = none := by
    rw [expect?, skipGaps_name]
    exact strip?_cons_name t (by decide)
  have hnested : ∀ n, readNested? n (t.before ++ (t.name.toList ++ w)) = none := by
    intro n
    cases n with
    | zero => rw [readNested?]
    | succ n =>
      rw [readNested?, hparen]
      rfl
  rw [readCall?]
  simp [readName?_name t hw, readArgs_of_endsCall hw, hnested, readPath?_name t hw]

end Name

/-! ## Tags -/

section Tag

variable (t : ValueTag)

lemma endsCall_closing : EndsCall (t.after ++ (closing ++ rest)) :=
  ⟨rest, .inl (by rw [skipGaps_append t.isGap_after]; rfl)⟩

lemma endsCall_opening : EndsCall (t.after ++ (opening ++ rest)) :=
  ⟨rest, .inr (by rw [skipGaps_append t.isGap_after]; rfl)⟩

/-- What a tag begins with, behind its braces: a blank, or its name. -/
lemma inner_ne_cons {c : Char} {w : List Char} (hgap : isGap c = false)
    (hname : isNameChar c = false) (rest : List Char) : t.inner ++ w ≠ c :: rest := by
  rw [ValueTag.inner, List.append_assoc, List.append_assoc]
  cases hbefore : t.before with
  | nil => exact name_ne_cons t hname rest
  | cons c' before =>
    intro heq
    cases heq
    rw [t.isGap_before c (hbefore ▸ List.mem_cons_self)] at hgap
    cases hgap

/-- What is left of a tag without blanks in front. -/
lemma skipGaps_inner {w : List Char} :
    skipGaps (t.inner ++ w) = t.name.toList ++ (t.after ++ w) := by
  rw [ValueTag.inner, List.append_assoc, List.append_assoc, skipGaps_name]

/-- What is in no name is not read in front of a tag. -/
lemma expect?_inner {c : Char} {word : List Char} {w : List Char} (hc : isNameChar c = false) :
    expect? (String.ofList (c :: word)) (t.inner ++ w) = none := by
  rw [expect?, skipGaps_inner, String.toList_ofList]
  exact strip?_cons_name t hc

/-- The content of a tag is a value, if its end is read. -/
lemma content?_inner {w : List Char} (hw : EndsCall (t.after ++ w)) :
    content? false (t.inner ++ w) =
      (readEnd? "\x7d\x7d" (t.after ++ w)).map fun r =>
        ⟨.value (.path t.path), false, r.1, r.2⟩ := by
  have helse : expect? "else" (t.inner ++ w) = none := by
    obtain ⟨-, -, -, hword, -⟩ := isPlainName_iff.1 t.isPlainName_name
    rw [expect?, skipGaps_inner]
    exact strip?_name t hw hword (List.all_eq_true.1 (by decide))
  have hinverse : expect? "^" (t.inner ++ w) = none := expect?_inner t (by decide)
  have hcall : readCall? (t.name.toList ++ (t.after ++ w)) = some (.path t.path, t.after ++ w) :=
    readCall?_name { t with before := [], isGap_before := nofun } hw
  have hbody : body? false readCall? .value (t.name.toList ++ (t.after ++ w)) =
      (readEnd? "\x7d\x7d" (t.after ++ w)).map fun r =>
        ⟨.value (.path t.path), false, r.1, r.2⟩ := by
    simp only [body?, hcall, Option.bind_eq_bind, Option.bind_some]
    cases readEnd? "\x7d\x7d" (t.after ++ w) <;> rfl
  -- the marks of the other tags are in no name
  have hnot : ∀ c : Char, isNameChar c = false → ∀ rest,
      t.name.toList ++ (t.after ++ w) = c :: rest → False := fun c hc => name_ne_cons t hc
  have hblock := hnot '#' rfl
  have hclose := hnot '/' rfl
  have hinclude := hnot '>' rfl
  have hdefinition := hnot '*' rfl
  have hplain := hnot '&' rfl
  have hbraced := hnot '\x7b' rfl
  rw [content?]
  simp only [helse, hinverse, skipGaps_inner, Option.orElse_none, Option.bind_none]
  simp [hbody]

/-- A tag is read as a value, if its end is read. -/
lemma readTag?_inner {w : List Char} (hw : EndsCall (t.after ++ w)) :
    readTag? (opening ++ (t.inner ++ w)) =
      (readEnd? "\x7d\x7d" (t.after ++ w)).map fun r =>
        ⟨.value (.path t.path), false, r.1, r.2⟩ := by
  have hcomment : ∀ rest, t.inner ++ w = '!' :: rest → False :=
    inner_ne_cons t (by decide) (by decide)
  have hmark : readTrim (t.inner ++ w) = (false, t.inner ++ w) := by
    have htilde : expect? "~" (t.inner ++ w) = none := expect?_inner t (by decide)
    rw [readTrim, htilde]
  have hstrip : strip? ['\x7b', '\x7b'] (opening ++ (t.inner ++ w)) = some (t.inner ++ w) := by
    simp [strip?]
  rw [readTag?, hstrip]
  simp [hmark, content?_inner t hw]

/-- Blanks in front of the end of a tag are skipped. -/
lemma readEnd?_after {close : String} {w : List Char} :
    readEnd? close (t.after ++ w) = readEnd? close w := by
  have hexpect : ∀ word, expect? word (t.after ++ w) = expect? word w := by
    intro word
    rw [expect?, expect?, skipGaps_append t.isGap_after]
  rw [readEnd?, readEnd?, readTrim, readTrim, hexpect]
  cases expect? "~" w with
  | none => simp [hexpect]
  | some rest => rfl

/-- **Tags.** A tag between double braces prints the value of its name. -/
theorem readTag?_closing : readTag? (opening ++ (t.inner ++ (closing ++ rest))) =
    some ⟨.value (.path t.path), false, false, rest⟩ := by
  rw [readTag?_inner t (endsCall_closing t), readEnd?_after]
  rfl

/-- A tag in front of which another one opens cannot be read. -/
theorem readTag?_opening : readTag? (opening ++ (t.inner ++ (opening ++ rest))) = none := by
  rw [readTag?_inner t (endsCall_opening t), readEnd?_after]
  rfl

end Tag

/-! ## Texts -/

section Scan

variable {d : Delimiters} {isFirst : Bool} {literal : List Char} {w : List Char}

/-- The stretch of text of a literal. -/
def literalPieces (literal : List Char) : List Piece :=
  if literal.isEmpty then [] else [.text literal]

namespace TaggedText

/-- The pieces of a text: its literals, and its tags as they stand in the text that is read. -/
def piecesFrom : Bool → TaggedText → List Piece
  | _, last literal => literalPieces literal
  | isFirst, tagged literal tag rest =>
    literalPieces literal ++ place isFirst literal.reverse
        ⟨.value (.path tag.path), false, false, rest.escaped.chars opening closing⟩ ::
      rest.piecesFrom false

/-- The pieces of a text. -/
def pieces (t : TaggedText) : List Piece := t.piecesFrom true

/-- Every literal of a text is spared. -/
def LiteralsSpared : TaggedText → Prop
  | last literal => Spared false literal
  | tagged literal _ rest => Spared true literal ∧ rest.LiteralsSpared

instance decidableLiteralsSpared : (t : TaggedText) → Decidable t.LiteralsSpared
  | last literal => inferInstanceAs (Decidable (Spared false literal))
  | tagged literal _ rest =>
    have := decidableLiteralsSpared rest
    inferInstanceAs (Decidable (Spared true literal ∧ rest.LiteralsSpared))

end TaggedText

/-- Pieces that do not begin with text. -/
def BeginsWithTag (pieces : List Piece) : Prop :=
  pieces = [] ∨ ∃ tag rest, pieces = .tag tag :: rest

/-- Pieces begin with one literal only. -/
lemma eq_of_literalPieces_append {ps qs : List Piece} (hps : BeginsWithTag ps)
    (hqs : BeginsWithTag qs) (h : literalPieces u ++ ps = literalPieces v ++ qs) : u = v := by
  rcases hps with rfl | ⟨p, ps, rfl⟩ <;> rcases hqs with rfl | ⟨q, qs, rfl⟩ <;> cases u <;>
    cases v <;> simp_all [literalPieces]

lemma literalPieces_reverse :
    (if u.isEmpty then [] else [Piece.text u.reverse]) = literalPieces u.reverse := by
  cases u <;> simp [literalPieces]

/-- The pieces of a text begin with what is taken in front of the first tag. -/
lemma scanFrom?_begins {ps : List Piece} (h : scanFrom? n isFirst cs = some ps) :
    ∃ rest, BeginsWithTag rest ∧ ps = literalPieces (takeText false 0 [] cs).1.reverse ++ rest := by
  cases n with
  | zero => cases h
  | succ n =>
    rw [scanFrom?] at h
    simp only [literalPieces_reverse] at h
    split at h
    · exact ⟨[], .inl rfl, by simpa using h.symm⟩
    split at h
    · simp only [Option.bind_eq_bind, Option.bind_eq_some_iff] at h
      obtain ⟨opened, -, closed, -, others, -, hps⟩ := h
      obtain rfl := Option.some.inj hps
      exact ⟨_, .inr ⟨_, _, rfl⟩, List.append_assoc _ _ _⟩
    · simp only [Option.bind_eq_bind, Option.bind_eq_some_iff] at h
      obtain ⟨read, -, others, -, hps⟩ := h
      obtain rfl := Option.some.inj hps
      exact ⟨_, .inr ⟨_, _, rfl⟩, rfl⟩

lemma follows_tag (t : ValueTag) : Follows true (opening ++ (t.inner ++ w)) := by
  refine .tag fun ⟨rest, hrest⟩ => ?_
  exact inner_ne_cons t (by decide) (by decide) rest hrest.symm

/-- A literal that is not spared is not among the pieces. -/
lemma spared_of_scanFrom?_eq {tagNext : Bool} {rest : List Piece} (hv : Follows tagNext v)
    (hrest : BeginsWithTag rest)
    (h : scanFrom? n isFirst (escape literal ++ v) = some (literalPieces literal ++ rest)) :
    Spared tagNext literal := by
  obtain ⟨others, hothers, hps⟩ := scanFrom?_begins h
  have htaken := eq_of_literalPieces_append hrest hothers hps
  exact spared_of_takeText hv (List.reverse_eq_iff.1 htaken.symm)

/-- A spared literal and the tag behind it are pieces. -/
lemma scanFrom?_tag (t : ValueTag) (hspared : Spared true literal) :
    scanFrom? (n + 1) isFirst (escape literal ++ (opening ++ (t.inner ++ w))) =
      (readTag? (opening ++ (t.inner ++ w))).bind fun r =>
        (scanFrom? n false r.rest).map fun others =>
          literalPieces literal ++ place isFirst literal.reverse r :: others := by
  have htaken := takeText_of_spared (follows_tag (w := w) t) hspared
  have hempty : (opening ++ (t.inner ++ w)).isEmpty = false := rfl
  have hfour : ['\x7b', '\x7b', '\x7b', '\x7b'].isPrefixOf (opening ++ (t.inner ++ w)) = false := by
    rw [← Bool.not_eq_true, List.isPrefixOf_iff_prefix]
    intro hprefix
    have hopening : opening <+: t.inner ++ w := (List.prefix_append_right_inj opening).1 hprefix
    obtain ⟨rest, hrest⟩ := hopening
    exact inner_ne_cons t (by decide) (by decide) _ hrest.symm
  rw [scanFrom?]
  simp only [htaken, literalPieces_reverse, hempty, hfour, Bool.false_eq_true, if_false]
  rw [List.reverse_reverse]
  cases readTag? (opening ++ (t.inner ++ w)) with
  | none => rfl
  | some r =>
    rw [Option.bind_some, Option.bind_eq_bind, Option.bind_some]
    cases scanFrom? n false r.rest <;> rfl

/-- A spared literal that nothing follows is the only piece. -/
lemma scanFrom?_last (hspared : Spared false literal) :
    scanFrom? (n + 1) isFirst (escape literal) = some (literalPieces literal) := by
  have htaken := takeText_of_spared .nothing hspared
  rw [List.append_nil] at htaken
  rw [scanFrom?]
  simp only [htaken, literalPieces_reverse]
  rw [List.reverse_reverse]
  rfl

namespace TaggedText

variable {t : TaggedText}

/-- A text in double braces is read as its literals and tags exactly if its literals are spared.

**Proof sketch.** Induction on the text. The pieces begin with what is taken in front of the first
tag, which is the literal only if that is spared; the tag itself is read whatever follows it. -/
theorem scanFrom?_closing_iff (hn : (t.escaped.chars opening closing).length < n) :
    scanFrom? n isFirst (t.escaped.chars opening closing) = some (t.piecesFrom isFirst) ↔
      t.LiteralsSpared := by
  induction t generalizing n isFirst with
  | last literal =>
    obtain ⟨n, rfl⟩ : ∃ m, n = m + 1 := ⟨n - 1, by omega⟩
    constructor
    · intro h
      rw [← List.append_nil (chars _ _ _), ← List.append_nil (piecesFrom _ _)] at h
      exact spared_of_scanFrom?_eq .nothing (.inl rfl) h
    · exact fun hspared => scanFrom?_last hspared
  | tagged literal tag rest ih =>
    obtain ⟨n, rfl⟩ : ∃ m, n = m + 1 := ⟨n - 1, by omega⟩
    rw [escaped, chars] at hn ⊢
    have hrest : (rest.escaped.chars opening closing).length < n := by
      simp only [List.length_append, List.length_cons] at hn
      omega
    have hiff : scanFrom? n false (rest.escaped.chars opening closing) =
        some (rest.piecesFrom false) ↔ rest.LiteralsSpared := ih hrest
    by_cases hspared : Spared true literal
    · rw [scanFrom?_tag tag hspared, readTag?_closing, Option.bind_some, LiteralsSpared,
        and_iff_right hspared, ← hiff]
      simp [piecesFrom]
    · exact iff_of_false
        (fun h => hspared (spared_of_scanFrom?_eq (follows_tag tag) (.inr ⟨_, _, rfl⟩) h))
        (fun h => hspared h.1)

/-- A text in which the braces that open a tag also close it is not read as what it is. -/
theorem scanFrom?_opening_ne (h : t.tags ≠ []) :
    scanFrom? n isFirst (t.escaped.chars opening opening) ≠ some (t.piecesFrom isFirst) := by
  cases t with
  | last literal => exact absurd rfl h
  | tagged literal tag rest =>
    intro heq
    rw [escaped, chars] at heq
    have hspared : Spared true literal :=
      spared_of_scanFrom?_eq (follows_tag tag) (.inr ⟨_, _, rfl⟩) heq
    cases n with
    | zero => cases heq
    | succ n =>
      rw [scanFrom?_tag tag hspared, readTag?_opening] at heq
      cases heq

/-- A text may have delimiters of its own: its literals are spared, and its delimiters differ if it
has a tag. -/
def IsSpared (d : Delimiters) (t : TaggedText) : Prop :=
  t.LiteralsSpared ∧ (t.tags.isEmpty = false → d.left ≠ d.right)

instance (d : Delimiters) (t : TaggedText) : Decidable (t.IsSpared d) :=
  inferInstanceAs (Decidable (_ ∧ _))

/-- **Reading.** A text whose delimiters occur only around its tags is read as its literals and tags
exactly if it is spared. -/
theorem scan?_normalize_iff (hd : d.Free) (h : t.OnlyTags d) :
    Piece.scan? (normalize d (t.written d)) = some t.pieces ↔ t.IsSpared d := by
  rw [normalize_written hd h, Piece.scan?, String.toList_ofList, IsSpared, pieces, bracesAfter]
  split
  · next heq =>
    cases t with
    | last literal =>
      have htags : (last literal).tags.isEmpty = false → d.left ≠ d.right := by
        intro hfalse
        cases hfalse
      rw [and_iff_left htags]
      exact scanFrom?_closing_iff (t := last literal) (Nat.lt_succ_self _)
    | tagged literal tag rest =>
      exact iff_of_false (scanFrom?_opening_ne (List.cons_ne_nil _ _))
        fun hspared => hspared.2 rfl heq
  · next hne =>
    rw [and_iff_left fun _ => hne]
    exact scanFrom?_closing_iff (Nat.lt_succ_self _)

end TaggedText

end Scan

end Mustache

end MonitorSync
