import Mathlib.Data.List.Basic
import MonitorSync.Json.Parser
import MonitorSync.Platform.Settings
set_option autoImplicit false

/-!
# The text of a configuration

The digest of a configuration is taken of its text. Different configurations have different texts,
so the digest tells them apart as far as it tells their texts apart.

## Main results

* `Json.quote_append_inj` — a text in quotes shows where it ends, whatever stands after it.
* `configurationText_inj` — a configuration can be read off its text.
-/

namespace MonitorSync

namespace Json

variable {rest rest' : List Char}

/-! ## Texts in quotes -/

private lemma hexValue?_hexDigit : ∀ n < 16, Token.hexValue? (hexDigit n) = some n := by
  decide

/-- Reads a text up to its closing quote, and what stands after it. -/
private def readQuoted? : List Char → Option (List Char × List Char)
  | '"' :: rest => some ([], rest)
  | '\\' :: 'u' :: _ :: _ :: high :: low :: rest =>
    (Token.hexValue? high).bind fun h => (Token.hexValue? low).bind fun l =>
      (readQuoted? rest).map (Prod.map (Char.ofNat (16 * h + l) :: ·) id)
  | '\\' :: e :: rest =>
    (Token.escaped? e).bind fun c => (readQuoted? rest).map (Prod.map (c :: ·) id)
  | c :: rest => (readQuoted? rest).map (Prod.map (c :: ·) id)
  | [] => none

/-- The written form of a character is read back, whatever stands after it. -/
private lemma readQuoted?_escapeChar (c : Char) (rest : List Char) :
    readQuoted? (escapeChar c ++ rest) = (readQuoted? rest).map (Prod.map (c :: ·) id) := by
  unfold escapeChar
  split_ifs with hquote hbackslash hn hr ht hb hf hcontrol
  · subst hquote; rfl
  · subst hbackslash; rfl
  · subst hn; rfl
  · subst hr; rfl
  · subst ht; rfl
  · subst hb; rfl
  · subst hf; rfl
  · have hhigh := hexValue?_hexDigit (c.toNat / 16) (by omega)
    have hlow := hexValue?_hexDigit (c.toNat % 16) (by omega)
    have hcode : 16 * (c.toNat / 16) + c.toNat % 16 = c.toNat := by omega
    simp [readQuoted?, hhigh, hlow, hcode]
  · simp [readQuoted?, hbackslash]

/-- A text is read back up to its closing quote. -/
private lemma readQuoted?_append (cs rest : List Char) :
    readQuoted? (cs.flatMap escapeChar ++ '"' :: rest) = some (cs, rest) := by
  induction cs with
  | nil => simp [readQuoted?]
  | cons c cs ih => simp [List.flatMap_cons, List.append_assoc, readQuoted?_escapeChar, ih]

/-- **Quoted texts.** A text in quotes shows where it ends, whatever stands after it.

**Proof sketch.** It can be read back up to its closing quote, since no character is written so that
it looks like one. -/
theorem quote_append_inj {s t : String} :
    (quote s).toList ++ rest = (quote t).toList ++ rest' ↔ s = t ∧ rest = rest' := by
  refine ⟨fun h => ?_, by rintro ⟨rfl, rfl⟩; rfl⟩
  have hread := congrArg (fun text => readQuoted? text.tail) h
  simpa [quote, readQuoted?_append, String.toList_inj] using hread

/-- Texts in quotes with nothing after them. -/
lemma toList_quote_inj {s t : String} : (quote s).toList = (quote t).toList ↔ s = t := by
  have h : (quote s).toList ++ [] = (quote t).toList ++ [] ↔ s = t ∧ ([] : List Char) = [] :=
    quote_append_inj
  simpa using h

/-! ## Other values -/

lemma compact_bool_append_inj {b b' : Bool} :
    (compact (.bool b)).toList ++ rest = (compact (.bool b')).toList ++ rest' ↔
      b = b' ∧ rest = rest' := by
  cases b <;> cases b' <;> simp [compact]

lemma compact_text?_append_inj {s t : Option String} :
    (compact (text? s)).toList ++ rest = (compact (text? t)).toList ++ rest' ↔
      s = t ∧ rest = rest' := by
  rcases s with _ | s <;> rcases t with _ | t
  · simp
  · simp [text?, compact, quote]
  · simp [text?, compact, quote]
  · simpa [text?, compact] using quote_append_inj

/-- A number shows where it ends if no digit stands after it. -/
lemma compact_nat_append_inj {n m : Nat} :
    (compact (nat n)).toList ++ ',' :: rest = (compact (nat m)).toList ++ ',' :: rest' ↔
      n = m ∧ rest = rest' := by
  refine ⟨fun h => ?_, by rintro ⟨rfl, rfl⟩; rfl⟩
  have hdigits (k : Nat) : (compact (nat k)).toList = Nat.toDigits 10 k := Nat.toList_repr
  have hread (k : Nat) (text : List Char) :
      (Nat.toDigits 10 k ++ ',' :: text).takeWhile Char.isDigit = Nat.toDigits 10 k := by
    have hdigit : ∀ c ∈ Nat.toDigits 10 k, c.isDigit := fun c =>
      Nat.isDigit_of_mem_toDigits (by decide) (Nat.le_refl 10)
    rw [List.takeWhile_append_of_pos hdigit]
    simp
  rw [hdigits, hdigits] at h
  have hsame : Nat.toDigits 10 n = Nat.toDigits 10 m := by
    rw [← hread n rest, h, hread]
  have hnm : n = m := by
    calc
      n = Nat.ofDigitChars 10 (Nat.toDigits 10 n) 0 := Nat.ofDigitChars_ten_toDigits.symm
      _ = Nat.ofDigitChars 10 (Nat.toDigits 10 m) 0 := by rw [hsame]
      _ = m := Nat.ofDigitChars_ten_toDigits
  rw [hsame] at h
  exact ⟨hnm, (List.cons.inj (List.append_cancel_left h)).2⟩

end Json

/-! ## Configurations -/

/-- **Configurations.** A configuration can be read off its text.

**Proof sketch.** The text lists the fields in their order, each written so that it shows where it
ends. -/
theorem configurationText_inj {name name' : String} {settings settings' : ConnectionSettings}
    {credentials credentials' : Credentials} :
    configurationText name settings credentials =
        configurationText name' settings' credentials' ↔
      name = name' ∧ settings = settings' ∧ credentials = credentials' := by
  obtain ⟨url, selfSigned, timeout, endpoint⟩ := settings
  obtain ⟨url', selfSigned', timeout', endpoint'⟩ := settings'
  obtain ⟨user, password⟩ := credentials
  obtain ⟨user', password'⟩ := credentials'
  have hobj (entries : List (String × Json)) : Json.compact (.obj entries) =
    "\x7b" ++ String.intercalate "," (Json.compactEntries entries) ++ "\x7d" := rfl
  have hstr (text : String) : Json.compact (.str text) = Json.quote text := rfl
  -- `Json.compact` stays folded on the other values, so that each field is one piece of the text.
  rw [← String.toList_inj]
  simp [configurationText, ConnectionSettings.entries, Credentials.entries, hobj, hstr,
    Json.compactEntries, Json.quote_append_inj, Json.toList_quote_inj,
    Json.compact_bool_append_inj, Json.compact_nat_append_inj, Json.compact_text?_append_inj,
    and_assoc]

end MonitorSync
