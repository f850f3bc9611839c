import MonitorSync.Text.Replace
import Mathlib.Data.List.Basic
import Mathlib.Data.List.Infix
set_option autoImplicit false

/-!
# Where a text is replaced

A replacement leaves every stretch of a text as it is in which the pattern does not begin, and
replaces the pattern where it stands.

## Main definitions

* `replaced` — the characters of a text after a replacement.
* `NotIn` — no occurrence of a pattern begins in a stretch of a text.
* `occurrences` — the number of places where a pattern occurs, overlapping ones included.

## Main results

* `replaced_append` — a stretch in which the pattern does not begin stays.
* `replaced_pattern` — the pattern is replaced where it stands.
* `notIn_of_occurrences_le` — a stretch that adds no occurrence has none.
* `notIn_of_occurrences_pattern` — if no other is counted, the pattern occurs only where it stands.
-/

namespace MonitorSync

variable {p q u v cs : List Char} {c : Char}

/-! ## Replacements -/

/-- The characters of a text after a replacement. -/
def replaced (p q cs : List Char) : List Char := List.intercalate q (splitFrom p 0 [] cs)

lemma replaceAll_ofList {pattern replacement : String} (h : pattern.toList ≠ []) :
    replaceAll pattern replacement (String.ofList cs) =
      String.ofList (replaced pattern.toList replacement.toList cs) := by
  rw [replaceAll, splitAtPattern, if_neg (by simpa using h), String.toList_ofList]
  rfl

lemma splitFrom_ne_nil (p : List Char) (skip : Nat) (part cs : List Char) :
    splitFrom p skip part cs ≠ [] := by
  induction cs generalizing skip part with
  | nil => cases skip <;> simp [splitFrom]
  | cons c cs ih =>
    cases skip with
    | succ skip => exact ih skip part
    | zero =>
      rw [splitFrom]
      split
      · exact List.cons_ne_nil _ _
      · exact ih 0 (c :: part)

/-- What was read of a part comes first. -/
private lemma intercalate_splitFrom (part : List Char) :
    List.intercalate q (splitFrom p 0 part cs) = part.reverse ++ replaced p q cs := by
  induction cs generalizing part with
  | nil => simp [replaced, splitFrom]
  | cons c cs ih =>
    rw [replaced, splitFrom, splitFrom]
    split
    · obtain ⟨next, rest, hrest⟩ :=
        List.exists_cons_of_ne_nil (splitFrom_ne_nil p (p.length - 1) [] cs)
      simp [hrest]
    · rw [ih, ih]
      simp

/-- Characters of an occurrence are skipped. -/
private lemma splitFrom_skip (part : List Char) :
    splitFrom p u.length part (u ++ v) = splitFrom p 0 part v := by
  induction u with
  | nil => rfl
  | cons c u ih => exact ih

@[simp] lemma replaced_nil : replaced p q [] = [] := by simp [replaced, splitFrom]

/-- A character stays where the pattern does not begin. -/
lemma replaced_cons (h : ¬p <+: c :: cs) : replaced p q (c :: cs) = c :: replaced p q cs := by
  rw [replaced, splitFrom, if_neg (by simpa using h), intercalate_splitFrom]
  rfl

/-- The pattern is replaced where it stands. -/
lemma replaced_pattern (hp : p ≠ []) : replaced p q (p ++ cs) = q ++ replaced p q cs := by
  obtain ⟨c, rest, rfl⟩ := List.exists_cons_of_ne_nil hp
  have hprefix : (c :: rest).isPrefixOf (c :: (rest ++ cs)) = true := by simp
  rw [replaced, List.cons_append, splitFrom, if_pos hprefix, List.length_cons, Nat.add_sub_cancel,
    splitFrom_skip]
  obtain ⟨next, more, hmore⟩ :=
    List.exists_cons_of_ne_nil (splitFrom_ne_nil (c :: rest) 0 [] cs)
  rw [replaced, hmore]
  simp

/-! ## Stretches without an occurrence -/

/-- In a stretch `u` of a text that goes on with `v`, the pattern does not begin. -/
def NotIn (p : List Char) : List Char → List Char → Prop
  | [], _ => True
  | c :: u, v => ¬p <+: c :: (u ++ v) ∧ NotIn p u v

/-- A pattern does not begin in two stretches one after the other. -/
lemma notIn_append_iff {w : List Char} :
    NotIn p (u ++ v) w ↔ NotIn p u (v ++ w) ∧ NotIn p v w := by
  induction u with
  | nil => simp [NotIn]
  | cons c u ih => simp only [List.cons_append, NotIn, ih, List.append_assoc, and_assoc]

/-- A stretch in which the pattern does not begin stays. -/
theorem replaced_append (h : NotIn p u v) : replaced p q (u ++ v) = u ++ replaced p q v := by
  induction u with
  | nil => rfl
  | cons c u ih =>
    rw [List.cons_append, replaced_cons h.1, ih h.2]
    rfl

/-- A text in which the pattern does not begin stays. -/
lemma replaced_eq_self (h : NotIn p u []) : replaced p q u = u := by
  have happend := replaced_append (q := q) h
  rwa [replaced_nil, List.append_nil] at happend

/-! ## Counting occurrences -/

/-- The number of places where a pattern occurs in a text, overlapping ones included. -/
def occurrences (p cs : List Char) : Nat := cs.tails.countP (p.isPrefixOf ·)

lemma occurrences_cons :
    occurrences p (c :: cs) = occurrences p cs + if p <+: c :: cs then 1 else 0 := by
  simp [occurrences, List.countP_cons]

/-- A text has the occurrences of its end. -/
lemma occurrences_le_append : occurrences p v ≤ occurrences p (u ++ v) := by
  induction u with
  | nil => exact le_rfl
  | cons c u ih =>
    rw [List.cons_append, occurrences_cons]
    omega

/-- The pattern in front is an occurrence more. -/
lemma occurrences_lt_pattern (hp : p ≠ []) : occurrences p v < occurrences p (p ++ v) := by
  obtain ⟨c, rest, rfl⟩ := List.exists_cons_of_ne_nil hp
  have hrest : occurrences (c :: rest) v ≤ occurrences (c :: rest) (rest ++ v) :=
    occurrences_le_append
  rw [List.cons_append, occurrences_cons, if_pos (by simp)]
  omega

/-- A stretch that adds no occurrence has none. -/
theorem notIn_of_occurrences_le (h : occurrences p (u ++ v) ≤ occurrences p v) : NotIn p u v := by
  induction u with
  | nil => trivial
  | cons c u ih =>
    have hle : occurrences p v ≤ occurrences p (u ++ v) := occurrences_le_append
    rw [List.cons_append, occurrences_cons] at h
    split at h
    · omega
    · exact ⟨‹_›, ih h⟩

/-- A text without an occurrence. -/
lemma notIn_of_occurrences_eq_zero (h : occurrences p u = 0) : NotIn p u [] :=
  notIn_of_occurrences_le (by rw [List.append_nil, h]; exact Nat.zero_le _)

variable {n : Nat} {w : List Char}

/-- A text in which the pattern stands has an occurrence more than its end. -/
lemma lt_occurrences_of_pattern (hp : p ≠ []) (h : n ≤ occurrences p w) :
    n < occurrences p (u ++ (p ++ (v ++ w))) :=
  calc n ≤ occurrences p w := h
    _ ≤ occurrences p (v ++ w) := occurrences_le_append
    _ < occurrences p (p ++ (v ++ w)) := occurrences_lt_pattern hp
    _ ≤ occurrences p (u ++ (p ++ (v ++ w))) := occurrences_le_append

/-- If a text has but one occurrence more than its end, that is the pattern that stands in it. -/
theorem notIn_of_occurrences_pattern (hp : p ≠ []) (hw : n ≤ occurrences p w)
    (h : occurrences p (u ++ (p ++ (v ++ w))) ≤ n + 1) :
    NotIn p u (p ++ (v ++ w)) ∧ NotIn p v w ∧ occurrences p w ≤ n := by
  have hu : occurrences p (p ++ (v ++ w)) ≤ occurrences p (u ++ (p ++ (v ++ w))) :=
    occurrences_le_append
  have hstands : occurrences p (v ++ w) < occurrences p (p ++ (v ++ w)) := occurrences_lt_pattern hp
  have hv : occurrences p w ≤ occurrences p (v ++ w) := occurrences_le_append
  exact ⟨notIn_of_occurrences_le (by omega), notIn_of_occurrences_le (by omega), by omega⟩

end MonitorSync
