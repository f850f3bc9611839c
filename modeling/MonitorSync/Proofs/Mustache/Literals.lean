import MonitorSync.Proofs.Mustache.TaggedText
set_option autoImplicit false

/-!
# Literals that are read as they were written

A literal whose double braces are escaped is read back as itself, unless a backslash of its own gets
in the way: two backslashes in front of braces leave a backslash and open a tag, and a backslash or
a brace at its end joins the braces of the tag behind it.

## Main definitions

* `Spared` — no backslash or brace of a literal is taken for one of a tag.

## Main results

* `takeText_escape` — a literal is taken as it was written exactly if it is spared.
-/

namespace MonitorSync

namespace Mustache

open Piece

variable {raw : Bool} {s : Nat} {c : Char} {u v seen rest : List Char}

/-! ## Taking text -/

lemma takeText_nil : takeText raw s seen [] = (pushSlashes s seen, []) := by
  cases raw <;> rw [takeText]

lemma takeText_slash : takeText raw s seen ('\\' :: rest) = takeText raw (s + 1) seen rest := by
  rw [takeText]
  · simp
  all_goals simp

/-- A character other than a backslash is taken where no tag is opened. -/
lemma takeText_cons (hc : c ≠ '\\') (h : ¬opening <+: c :: rest) :
    takeText raw s seen (c :: rest) = takeText raw 0 (c :: pushSlashes s seen) rest := by
  have hnot : ∀ rest', c = '\x7b' → rest = '\x7b' :: rest' → False := by
    rintro rest' rfl rfl
    exact h ⟨rest', rfl⟩
  rw [takeText]
  · rw [if_neg hc]
  all_goals
    intros
    exact hnot _ ‹_› ‹_›

/-- Behind a single backslash, four braces are text. -/
lemma takeText_escaped_four : takeText raw 1 seen (opening ++ (opening ++ rest)) =
    takeText raw 0 (opening ++ (opening ++ seen)) rest := by
  rfl

/-- Behind a single backslash, two braces are text. -/
lemma takeText_escaped_two (h : ¬opening <+: rest) :
    takeText raw 1 seen (opening ++ rest) = takeText raw 0 (opening ++ seen) rest := by
  change takeText raw 1 seen ('\x7b' :: '\x7b' :: rest) = _
  rw [takeText]
  · rfl
  · rintro rest' rfl
    exact h (by simp)

/-- Two braces open a tag unless a single backslash is in front, and one backslash of several is
dropped. -/
lemma takeText_opening (hs : s ≠ 1) : takeText false s seen (opening ++ rest) =
    (pushSlashes (s - 1) seen, opening ++ rest) := by
  change takeText false s seen ('\x7b' :: '\x7b' :: rest) = _
  rw [takeText]
  · simp
  · exact fun rest' h _ => hs h
  · exact hs

/-- What was taken stays at the end. -/
lemma suffix_takeText (raw : Bool) (s : Nat) (seen rest : List Char) :
    seen <:+ (takeText raw s seen rest).1 := by
  fun_induction takeText raw s seen rest
  case case1 => exact List.suffix_append _ _
  case case2 ih => exact (List.suffix_append [_, _, _, _] _).trans ih
  case case3 ih => exact (List.suffix_append [_, _] _).trans ih
  case case4 => exact List.suffix_append _ _
  case case5 ih => exact (List.suffix_append _ _).trans ((List.suffix_cons _ _).trans ih)
  case case6 ih => exact ih
  case case7 ih => exact (List.suffix_append _ _).trans ((List.suffix_cons _ _).trans ih)

/-! ## Spared literals -/

/-- No backslash of a literal stands in front of double braces, and where a tag follows, the literal
ends neither with a backslash nor with a brace. -/
def Spared (tagNext : Bool) (u : List Char) : Prop :=
  ¬ '\\' :: opening <:+: u ∧
    (tagNext = true → u.getLast? ≠ some '\\' ∧ u.getLast? ≠ some '\x7b')

instance (tagNext : Bool) (u : List Char) : Decidable (Spared tagNext u) :=
  inferInstanceAs (Decidable (_ ∧ _))

variable {tagNext : Bool}

lemma not_infix_replicate : ¬ '\\' :: opening <:+: List.replicate s '\\' := by
  intro h
  have hmem : '\x7b' ∈ List.replicate s '\\' := h.subset (by simp)
  cases List.eq_of_mem_replicate hmem

/-- Where a character other than a backslash opens no double braces, none have a backslash in front
but those behind it. -/
lemma infix_slashes_cons_iff (hc : c ≠ '\\') (h : ¬opening <+: c :: rest) :
    '\\' :: opening <:+: List.replicate s '\\' ++ c :: rest ↔ '\\' :: opening <:+: rest := by
  induction s with
  | zero =>
    rw [List.replicate_zero, List.nil_append, List.infix_cons_iff, or_iff_right]
    intro hprefix
    exact hc (List.cons_prefix_cons.1 hprefix).1.symm
  | succ s ih =>
    rw [List.replicate_succ, List.cons_append, List.infix_cons_iff, ih, or_iff_right]
    intro hprefix
    have hopening := (List.cons_prefix_cons.1 hprefix).2
    cases s with
    | zero => exact h hopening
    | succ s => cases (List.cons_prefix_cons.1 hopening).1

/-- Double braces spare what is behind them. -/
lemma spared_opening (h : rest = [] → tagNext = false) :
    Spared tagNext (opening ++ rest) ↔ Spared tagNext rest := by
  have hinfix : '\\' :: opening <:+: opening ++ rest ↔ '\\' :: opening <:+: rest := by
    simp [List.infix_cons_iff]
  rw [Spared, Spared, hinfix]
  cases rest with
  | nil => simp [h rfl]
  | cons c rest => simp

/-- A character other than a backslash, where no double braces begin, spares what is behind it. -/
lemma spared_slashes_cons (hc : c ≠ '\\') (hopening : ¬opening <+: c :: rest)
    (hlast : rest = [] → tagNext = true → c ≠ '\x7b') :
    Spared tagNext (List.replicate s '\\' ++ c :: rest) ↔ Spared tagNext rest := by
  rw [Spared, Spared, infix_slashes_cons_iff hc hopening]
  cases rest with
  | nil => simpa using fun htag => ⟨hc, hlast rfl htag⟩
  | cons c' rest => simp

/-- A backslash in front of double braces spares nothing. -/
lemma not_spared_slash_opening :
    ¬Spared tagNext (List.replicate (s + 1) '\\' ++ (opening ++ rest)) := by
  intro h
  refine h.1 ⟨List.replicate s '\\', rest, ?_⟩
  rw [List.replicate_succ']
  simp

/-! ## Reading literals back -/

/-- What follows a literal: nothing, or a tag whose braces are no more than two. -/
inductive Follows : Bool → List Char → Prop
  | nothing : Follows false []
  | tag {rest : List Char} (h : ¬['\x7b'] <+: rest) : Follows true (opening ++ rest)

/-- Escaping puts only backslashes in front. -/
lemma head?_escape_cons :
    (escape (c :: u)).head? = some '\\' ∨ (escape (c :: u)).head? = some c := by
  rw [escape.eq_def]
  split
  · exact .inl rfl
  · next hcons =>
    cases hcons
    exact .inr rfl
  · next hnil => cases hnil

/-- An escaped literal begins with a brace only by its own, or by those of a tag that follows. -/
lemma brace_isPrefix_escape (hv : Follows tagNext v) (h : ['\x7b'] <+: escape u ++ v) :
    ['\x7b'] <+: u ∨ u = [] ∧ tagNext = true := by
  cases u with
  | nil =>
    cases hv with
    | nothing => cases h.length_le
    | tag _ => exact .inr ⟨rfl, rfl⟩
  | cons c u =>
    obtain ⟨c', rest, hescape⟩ : ∃ c' rest, escape (c :: u) = c' :: rest := by
      cases hescape : escape (c :: u) with
      | nil => rcases head?_escape_cons (c := c) (u := u) with h | h <;> simp [hescape] at h
      | cons c' rest => exact ⟨c', rest, rfl⟩
    rw [hescape] at h
    obtain rfl : '\x7b' = c' := (List.cons_prefix_cons.1 h).1
    rcases head?_escape_cons (c := c) (u := u) with hhead | hhead
    · simp [hescape] at hhead
    · obtain rfl : '\x7b' = c := by simpa [hescape] using hhead
      exact .inl (List.prefix_append _ _)

/-- An escaped literal begins with double braces only by those of a tag that follows. -/
lemma opening_isPrefix_escape (hv : Follows tagNext v) (h : opening <+: escape u ++ v) :
    tagNext = true ∧ (u = [] ∨ u = ['\x7b']) := by
  fun_cases escape u with
  | case1 rest => cases (List.cons_prefix_cons.1 h).1
  | case2 c rest hnot =>
    rw [escape, List.cons_append] at h
    obtain ⟨rfl, hbrace⟩ := List.cons_prefix_cons.1 h
    · rcases brace_isPrefix_escape hv hbrace with ⟨rest', rfl⟩ | ⟨rfl, htag⟩
      · cases hnot rest' rfl rfl
      · exact ⟨htag, .inr rfl⟩
    · exact hnot
  | case3 =>
    rcases brace_isPrefix_escape (u := []) hv ((List.prefix_append ['\x7b'] ['\x7b']).trans h) with
      hnil | ⟨-, htag⟩
    · cases hnil.length_le
    · exact ⟨htag, .inl rfl⟩

/-- What is taken in front of double braces: a backslash less, or after a single one the braces. -/
lemma takeText_opening_cases (s : Nat) (seen : List Char) (h : ¬opening <+: rest) :
    s ≠ 1 ∧ (takeText false s seen (opening ++ rest)).1 = List.replicate (s - 1) '\\' ++ seen ∨
      s = 1 ∧ opening ++ seen <:+ (takeText false s seen (opening ++ rest)).1 := by
  by_cases hs : s = 1
  · subst hs
    rw [takeText_escaped_two h]
    exact .inr ⟨rfl, suffix_takeText _ _ _ _⟩
  · rw [takeText_opening hs]
    exact .inl ⟨hs, rfl⟩

/-- Backslashes at the end of a literal are taken if there are none, or no tag follows. -/
private lemma takeText_end (hv : Follows tagNext v) :
    (Spared tagNext (List.replicate s '\\') →
        takeText false s seen v = (List.replicate s '\\' ++ seen, v)) ∧
      ((takeText false s seen v).1 = List.replicate s '\\' ++ seen →
        Spared tagNext (List.replicate s '\\')) := by
  cases hv with
  | nothing =>
    rw [takeText_nil]
    exact ⟨fun _ => rfl, fun _ => ⟨not_infix_replicate, nofun⟩⟩
  | @tag rest h =>
    have hrest : ¬opening <+: rest := fun hopening =>
      h ((List.prefix_append ['\x7b'] ['\x7b']).trans hopening)
    have hspared : Spared true (List.replicate s '\\') ↔ s = 0 := by
      cases s with
      | zero => simp [Spared]
      | succ s =>
        refine iff_of_false (fun hspared => (hspared.2 rfl).1 ?_) (Nat.succ_ne_zero s)
        rw [List.replicate_succ', List.getLast?_concat]
    rw [hspared]
    constructor
    · rintro rfl
      exact takeText_opening Nat.zero_ne_one
    · intro heq
      have hlength := congrArg List.length heq
      rcases takeText_opening_cases s seen hrest with ⟨hs, htaken⟩ | ⟨rfl, htaken⟩
      · rw [htaken] at hlength
        simp only [List.length_append, List.length_replicate] at hlength
        omega
      · have hle := htaken.length_le
        rw [hlength] at hle
        simp only [List.length_append, List.length_cons, List.length_replicate] at hle
        omega

/-- A brace at the end of a literal is never taken where a tag follows. -/
private lemma takeText_brace_ne (h : ¬['\x7b'] <+: rest) :
    (takeText false s seen ('\x7b' :: (opening ++ rest))).1 ≠
      '\x7b' :: (List.replicate s '\\' ++ seen) := by
  intro heq
  have hrest : ¬opening <+: '\x7b' :: rest := fun hopening => h (List.cons_prefix_cons.1 hopening).2
  change (takeText false s seen (opening ++ '\x7b' :: rest)).1 = _ at heq
  rcases takeText_opening_cases s seen hrest with ⟨hs, htaken⟩ | ⟨rfl, htaken⟩
  · have hlength := congrArg List.length (htaken.symm.trans heq)
    simp only [List.length_append, List.length_cons, List.length_replicate] at hlength
    omega
  · rw [heq] at htaken
    have hsame := htaken.eq_of_length rfl
    cases hsame

/-- Double braces that the braces of a tag join are neither spared nor taken. -/
private lemma takeText_joined_ne (seen : List Char) (hv : Follows tagNext v)
    (h : opening <+: escape u ++ v) :
    ¬Spared tagNext (opening ++ u) ∧
      (takeText false 1 seen (opening ++ (escape u ++ v))).1 ≠ (opening ++ u).reverse ++ seen := by
  obtain ⟨w, hw⟩ := h
  obtain ⟨rfl, hu⟩ := opening_isPrefix_escape hv ⟨w, hw⟩
  refine ⟨fun hspared => ?_, fun heq => ?_⟩
  · rcases hu with rfl | rfl <;> exact (hspared.2 rfl).2 rfl
  · have hlength := (suffix_takeText false 0 (opening ++ (opening ++ seen)) w).length_le
    rw [← takeText_escaped_four, hw, heq] at hlength
    rcases hu with rfl | rfl <;>
      · simp only [List.length_append, List.length_reverse, List.length_cons,
          List.length_nil] at hlength
        omega

/-- **Literals.** A literal is taken as it was written, up to what follows it, exactly if it is
spared.

**Proof sketch.** Induction on the literal, double braces at once. What was taken stays at the end
of what is taken, so one character that is wrong is enough. -/
theorem takeText_escape (hv : Follows tagNext v) (s : Nat) (seen : List Char) :
    (Spared tagNext (List.replicate s '\\' ++ u) → takeText false s seen (escape u ++ v) =
        (u.reverse ++ (List.replicate s '\\' ++ seen), v)) ∧
      ((takeText false s seen (escape u ++ v)).1 =
          u.reverse ++ (List.replicate s '\\' ++ seen) →
        Spared tagNext (List.replicate s '\\' ++ u)) := by
  fun_induction escape u generalizing s seen with
  | case1 rest ih =>
    rw [List.cons_append, takeText_slash]
    change (Spared tagNext (List.replicate s '\\' ++ (opening ++ rest)) →
      takeText false (s + 1) seen (opening ++ (escape rest ++ v)) =
        ((opening ++ rest).reverse ++ _, v)) ∧
      ((takeText false (s + 1) seen (opening ++ (escape rest ++ v))).1 =
        (opening ++ rest).reverse ++ _ →
          Spared tagNext (List.replicate s '\\' ++ (opening ++ rest)))
    cases s with
    | zero =>
      by_cases hbraces : opening <+: escape rest ++ v
      · obtain ⟨hnot, hne⟩ := takeText_joined_ne seen hv hbraces
        exact ⟨fun hspared => absurd hspared hnot, fun heq => absurd heq hne⟩
      · have hlast : rest = [] → tagNext = false := by
          rintro rfl
          cases hv with
          | nothing => rfl
          | tag _ => exact absurd (List.prefix_append _ _) hbraces
        rw [takeText_escaped_two hbraces, List.replicate_zero, List.nil_append, List.nil_append,
          spared_opening hlast]
        simpa using ih 0 (opening ++ seen)
    | succ s =>
      rw [takeText_opening (by omega)]
      refine ⟨fun hspared => absurd hspared not_spared_slash_opening, fun heq => ?_⟩
      have hlength := congrArg List.length heq
      simp only [pushSlashes, List.length_append, List.length_reverse, List.length_cons,
        List.length_replicate] at hlength
      omega
  | case2 c rest hnot ih =>
    have hopening : ¬opening <+: c :: rest := by
      rintro ⟨rest', hrest⟩
      cases hrest
      exact hnot rest' rfl rfl
    by_cases hc : c = '\\'
    · subst hc
      have hshift : List.replicate s '\\' ++ '\\' :: rest =
          List.replicate (s + 1) '\\' ++ rest := by
        rw [List.replicate_succ', List.append_assoc]
        rfl
      rw [List.cons_append, takeText_slash, hshift]
      simpa [List.replicate_succ] using ih (s + 1) seen
    by_cases hbraces : opening <+: c :: (escape rest ++ v)
    · have hescape : escape (c :: rest) = c :: escape rest := by rw [escape]; exact hnot
      rw [← List.cons_append, ← hescape] at hbraces
      obtain ⟨rfl, hrest⟩ := opening_isPrefix_escape hv hbraces
      obtain ⟨rfl, rfl⟩ : c = '\x7b' ∧ rest = [] := by simpa using hrest
      cases hv with
      | tag h =>
        exact ⟨fun hspared => absurd List.getLast?_concat (hspared.2 rfl).2,
          fun heq => absurd heq (takeText_brace_ne h)⟩
    · have hlast : rest = [] → tagNext = true → c ≠ '\x7b' := by
        rintro rfl rfl rfl
        cases hv with
        | tag h => exact hbraces (List.prefix_append opening _)
      rw [List.cons_append, takeText_cons hc hbraces, spared_slashes_cons hc hopening hlast]
      simpa [pushSlashes] using ih 0 (c :: pushSlashes s seen)
  | case3 =>
    rw [List.append_nil]
    exact takeText_end hv

/-- A spared literal is taken as it was written. -/
lemma takeText_of_spared (hv : Follows tagNext v) (h : Spared tagNext u) :
    takeText false 0 [] (escape u ++ v) = (u.reverse, v) := by
  have htaken := (takeText_escape hv 0 []).1 h
  rwa [List.replicate_zero, List.append_nil, List.append_nil] at htaken

/-- A literal that is taken as it was written is spared. -/
lemma spared_of_takeText (hv : Follows tagNext v)
    (h : (takeText false 0 [] (escape u ++ v)).1 = u.reverse) : Spared tagNext u := by
  refine (takeText_escape hv 0 []).2 ?_
  rwa [List.replicate_zero, List.append_nil, List.append_nil]

end Mustache

end MonitorSync
