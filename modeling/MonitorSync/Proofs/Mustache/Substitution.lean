import MonitorSync.Proofs.Mustache.Reading
set_option autoImplicit false

/-!
# What is printed for literals and tags

A text that is read as its literals and tags prints its literals, and for every tag the value of its
name. So a body with delimiters of its own is rendered as it is meant exactly where its literals are
spared.

## Main definitions

* `TaggedText.filled` — a text with values in place of its tags.

## Main results

* `TaggedText.render_normalize` — what is printed for a text with delimiters of its own.
-/

namespace MonitorSync

namespace Mustache

variable {tools : Tools} {d : Delimiters} {t : TaggedText} {isFirst : Bool} {data : Json}
  {value : String → String}

namespace TaggedText

/-- The elements of a literal. -/
def literalElements (literal : List Char) : List Element :=
  if literal.isEmpty then [] else [.text (String.ofList literal)]

/-- The elements of a text. -/
def elements : TaggedText → List Element
  | last literal => literalElements literal
  | tagged literal tag rest => literalElements literal ++ .value (.path tag.path) :: rest.elements

/-- A text with values in place of its tags. -/
def filled (value : String → String) : TaggedText → String
  | last literal => String.ofList literal
  | tagged literal tag rest => String.ofList literal ++ value tag.name ++ rest.filled value

/-! ## Elements -/

/-- No blank is removed around literals and values. -/
lemma foldl_layOutPiece (done : List Piece) :
    (t.piecesFrom isFirst).foldl layOutPiece (done, {}) =
      ((t.piecesFrom isFirst).reverse ++ done, {}) := by
  have hliteral : ∀ (literal : List Char) (done : List Piece),
      (literalPieces literal).foldl layOutPiece (done, {}) =
        ((literalPieces literal).reverse ++ done, {}) := by
    intro literal done
    cases literal with
    | nil => rfl
    | cons c cs => simp [literalPieces, layOutPiece, Spacing.adjust]
  induction t generalizing isFirst done with
  | last literal => exact hliteral literal done
  | tagged literal tag rest ih =>
    have htag : ∀ r done, layOutPiece (done, {}) (Piece.place isFirst literal.reverse
        ⟨.value (.path tag.path), false, false, r⟩) =
          (Piece.place isFirst literal.reverse ⟨.value (.path tag.path), false, false, r⟩ :: done,
            {}) := by
      intro r done
      simp [layOutPiece, Piece.place, Tag.dropsIndent, Tag.settlesTrim, Tag.takesLine]
    rw [piecesFrom, List.foldl_append, hliteral, List.foldl_cons, htag, ih]
    simp

lemma layOut_pieces : layOut t.pieces = t.pieces := by
  rw [layOut, pieces, foldl_layOutPiece]
  simp

/-- The pieces make up the elements. -/
lemma foldlM_add? (current : List Element) :
    (t.piecesFrom isFirst).foldlM Assembly.add? ⟨current, []⟩ =
      some ⟨t.elements.reverse ++ current, []⟩ := by
  have hliteral : ∀ (literal : List Char) (current : List Element),
      (literalPieces literal).foldlM Assembly.add? ⟨current, []⟩ =
        some ⟨(literalElements literal).reverse ++ current, []⟩ := by
    intro literal current
    cases literal with
    | nil => rfl
    | cons c cs => rfl
  induction t generalizing isFirst current with
  | last literal => exact hliteral literal current
  | tagged literal tag rest ih =>
    rw [piecesFrom, List.foldlM_append, hliteral]
    have htag : ∀ r current, Assembly.add? ⟨current, []⟩ (Piece.place isFirst literal.reverse
        ⟨.value (.path tag.path), false, false, r⟩) =
          some ⟨.value (.path tag.path) :: current, []⟩ := fun _ _ => rfl
    simp [htag, ih, elements]

/-- A text that is read as its pieces is a template of its elements. -/
lemma read?_of_scan? {text : String} (h : Piece.scan? text = some t.pieces) :
    Template.read? text = some ⟨t.elements⟩ := by
  have hassemble : assemble? t.pieces = some t.elements := by
    rw [assemble?, pieces, foldlM_add?]
    simp
  simp [Template.read?, h, layOut_pieces, hassemble]

end TaggedText

/-! ## Printing -/

/-- The text of a page so far. -/
def Page.text (p : Page) : String := String.join p.chunks.reverse

/-- A page has this data and no indent. -/
structure Page.IsPlain (p : Page) (data : Json) : Prop where
  data : p.data = data
  indent : p.indent = ""

/-- A step of rendering adds this text to a page with this data, and leaves its data and indent. -/
def Prints (data : Json) (work : Rendering Unit) (s : String) : Prop :=
  ∀ p : Page, p.IsPlain data →
    ∃ p', work.run p = .ok ((), p') ∧ p'.text = p.text ++ s ∧ p'.IsPlain data

variable {x y : Rendering Unit} {s s' : String} {n : Nat}

lemma prints_pure : Prints data (pure ()) "" :=
  fun p hp => ⟨p, rfl, String.append_empty.symm, hp⟩

lemma Prints.bind (hx : Prints data x s) (hy : Prints data y s') :
    Prints data (x >>= fun _ => y) (s ++ s') := by
  intro p hp
  obtain ⟨p₁, hrun, htext, hplain⟩ := hx p hp
  obtain ⟨p₂, hrun', htext', hplain'⟩ := hy p₁ hplain
  refine ⟨p₂, ?_, by rw [htext', htext, String.append_assoc], hplain'⟩
  rw [StateT.run_bind, hrun]
  exact hrun'

/-- Text is written as it is. -/
lemma prints_write : Prints data (write s) s := by
  intro p hp
  refine ⟨p.write s, rfl, ?_⟩
  rw [Page.write]
  split
  · next hempty =>
    rw [String.isEmpty_iff.1 hempty, String.append_empty]
    exact ⟨rfl, hp⟩
  · exact ⟨by simp [Page.text, hp.indent], hp.data, hp.indent⟩

lemma prints_text : Prints data (renderElement (n + 1) tools [{}] (.text s)) s := by
  rw [renderElement]
  exact prints_write

/-- The value of a plain name is looked up in the data. -/
lemma lookupPath_path {tag : ValueTag} {v : Json} (h : data.get? tag.name = some v) :
    lookupPath data [{}] tag.path = .ok v := by
  cases data with
  | obj entries =>
    have hlookup : KeyMap.lookup tag.name entries = some v := h
    simp [lookupPath, ValueTag.path, param?, KeyMap.lookup, walk, step, hlookup]
  | _ => cases h

/-- The path of a tag has the value of its name. -/
lemma run_evaluate_path {tag : ValueTag} {v : Json} {p : Page} (hp : p.IsPlain data)
    (h : data.get? tag.name = some v) :
    (evaluate tools [{}] (.path tag.path)).run p = .ok (v, p) := by
  rw [← hp.data] at h
  rw [evaluate, StateT.run_bind, StateT.run_get, pure_bind, lookupPath_path h]
  rfl

/-- A tag prints the value of its name. -/
lemma prints_value {tag : ValueTag} (h : data.get? tag.name = some (.str s)) :
    Prints data (renderElement (n + 1) tools [{}] (.value (.path tag.path))) s := by
  have hhelper : ((valueHelper? tag.path.raw).isSome || isDirective tag.path.raw) = false := by
    obtain ⟨-, -, -, -, hvalue, hblock⟩ := isPlainName_iff.1 tag.isPlainName_name
    rw [ValueTag.path, hvalue, hblock]
    rfl
  intro p hp
  obtain ⟨p', hwrite, hprinted⟩ := prints_write (s := s) p hp
  refine ⟨p', ?_, hprinted⟩
  rw [renderElement, hhelper, if_neg Bool.false_ne_true, StateT.run_bind, run_evaluate_path hp h]
  exact hwrite

namespace TaggedText

lemma prints_elements (h : ∀ tag ∈ t.tags, data.get? tag.name = some (.str (value tag.name))) :
    Prints data (forM t.elements (renderElement (n + 1) tools [{}])) (t.filled value) := by
  have hliteral : ∀ literal : List Char, Prints data
      (forM (literalElements literal) (renderElement (n + 1) tools [{}]))
      (String.ofList literal) := by
    intro literal
    cases literal with
    | nil => exact prints_pure
    | cons c cs =>
      have htext : Prints data
          (renderElement (n + 1) tools [{}] (.text (String.ofList (c :: cs))))
          (String.ofList (c :: cs)) := prints_text
      have hprints := htext.bind prints_pure
      rwa [String.append_empty] at hprints
  induction t with
  | last literal => exact hliteral literal
  | tagged literal tag rest ih =>
    obtain ⟨htag, hrest⟩ := List.forall_mem_cons.1 h
    rw [elements, filled, List.forM_append, List.forM_cons, String.append_assoc]
    exact (hliteral literal).bind ((prints_value htag).bind (ih hrest))

/-- **Substitution.** A text that is read as its pieces prints its literals, and for each tag the
value of its name. -/
theorem renderText_of_scan? {text : String} (hscan : Piece.scan? text = some t.pieces)
    (h : ∀ tag ∈ t.tags, data.get? tag.name = some (.str (value tag.name))) :
    renderText tools text data = .ok (t.filled value) := by
  obtain ⟨n, hfuel⟩ : ∃ n, (text.length + 4) * partialDepth = n + 1 + 1 :=
    ⟨(text.length + 4) * partialDepth - 2, by simp only [partialDepth]; omega⟩
  have hprints : Prints data (forM t.elements (renderElement (n + 1) tools [{}]))
      (t.filled value) := prints_elements h
  obtain ⟨p, hrun, htext, -⟩ := hprints { data := data } ⟨rfl, rfl⟩
  have hempty : Page.text { data := data } = "" := rfl
  rw [hempty, String.empty_append] at htext
  rw [renderText, read?_of_scan? hscan]
  simp only [Template.render, hfuel, renderAll, List.forM_eq_forM, hrun]
  exact congrArg Except.ok htext

/-- **Delimiters.** A text whose delimiters occur only around its tags is read as its literals and
tags exactly if it is spared: no backslash of a literal stands in front of double braces, no literal
in front of a tag ends with a backslash or a brace, and the delimiters differ. Then it prints its
literals, every character of them, and for each tag the value of its name. -/
theorem render_normalize (hd : d.Free) (h : t.OnlyTags d) :
    (Piece.scan? (normalize d (t.written d)) = some t.pieces ↔ t.IsSpared d) ∧
      (t.IsSpared d → ∀ (tools : Tools) (data : Json) (value : String → String),
        (∀ tag ∈ t.tags, data.get? tag.name = some (.str (value tag.name))) →
          renderText tools (normalize d (t.written d)) data = .ok (t.filled value)) := by
  have hscan := scan?_normalize_iff hd h
  exact ⟨hscan, fun hspared tools data value hvalues =>
    renderText_of_scan? (hscan.2 hspared) hvalues⟩

end TaggedText

/-- The tag of a name, with a blank on either side. -/
def ValueTag.spaced (name : String) (h : isPlainName name = true) : ValueTag :=
  ⟨[' '], name, [' '], List.all_eq_true.1 rfl, h, List.all_eq_true.1 rfl⟩

/-- A text with a tag and double braces between blanks. -/
def keptBraces : TaggedText :=
  .tagged "name: ".toList (.spaced "name" (by decide))
    (.last "\nraw: \x7b\x7b kept \x7d\x7d".toList)

/-- Double braces between blanks are printed, and the tag prints its value. -/
theorem render_normalize_kept_braces :
    let d : Delimiters := ⟨"<%", "%>"⟩
    d.Free ∧ keptBraces.OnlyTags d ∧ keptBraces.IsSpared d ∧
      renderText {} (normalize d "name: <% name %>\nraw: \x7b\x7b kept \x7d\x7d")
        (.ofEntries [("name", .str "ping")]) = .ok "name: ping\nraw: \x7b\x7b kept \x7d\x7d" := by
  intro d
  have hfree : d.Free :=
    ⟨by decide, by decide, List.all_eq_true.1 (by decide), List.all_eq_true.1 (by decide)⟩
  have htags : keptBraces.OnlyTags d := by decide
  have hspared : keptBraces.IsSpared d := by decide
  have hvalues : ∀ tag ∈ keptBraces.tags,
      (Json.ofEntries [("name", .str "ping")]).get? tag.name = some (.str "ping") := by
    intro tag htag
    obtain rfl := List.mem_singleton.1 htag
    rfl
  have hwritten :
      keptBraces.written d = "name: <% name %>\nraw: \x7b\x7b kept \x7d\x7d" := by decide
  have hfilled :
      keptBraces.filled (fun _ => "ping") = "name: ping\nraw: \x7b\x7b kept \x7d\x7d" := by decide
  have hrender :=
    (TaggedText.render_normalize hfree htags).2 hspared {} _ (fun _ => "ping") hvalues
  rw [hwritten, hfilled] at hrender
  exact ⟨hfree, htags, hspared, hrender⟩

/-- A brace or a backslash in front of a tag is lost, and so is a backslash in front of double
braces, which then are a tag of their own. -/
theorem braces_and_backslashes_are_lost :
    let d : Delimiters := ⟨"<%", "%>"⟩
    let tag := ValueTag.spaced "name" (by decide)
    d.Free ∧ ∀ t ∈ [TaggedText.tagged "\x7b".toList tag (.last "\x7d".toList),
        .tagged "\\".toList tag (.last []), .last "\\\x7b\x7b name \x7d\x7d".toList],
      t.OnlyTags d ∧
        renderText {} (normalize d (t.written d)) (.ofEntries [("name", .str "ping")]) ≠
          .ok (t.filled fun _ => "ping") := by
  intro d tag
  have hfree : d.Free :=
    ⟨by decide, by decide, List.all_eq_true.1 (by decide), List.all_eq_true.1 (by decide)⟩
  refine ⟨hfree, fun t ht => ?_⟩
  simp only [List.mem_cons, List.not_mem_nil, or_false] at ht
  rcases ht with rfl | rfl | rfl <;> exact ⟨by decide, by decide +kernel⟩

end Mustache

end MonitorSync
