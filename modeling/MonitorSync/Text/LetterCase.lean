import MonitorSync.Text.LetterCase.Table
set_option autoImplicit false

/-!
# Upper-case and lower-case texts

## Main definitions

* `toUpperText` — every character by its upper-case form, which may have several characters
* `toLowerText` — every character by its lower-case form; a capital sigma at the end of a word has a
  shape of its own
-/

namespace MonitorSync

namespace LetterCase

/-- Moves a character along the run that holds it. -/
def move (runs : List Run) (n : Nat) : Nat :=
  match runs.find? fun r => r.first ≤ n && n ≤ r.last && (n - r.first) % r.step = 0 with
  | some r => (n + r.shift).toNat
  | none => n

/-- The upper-case form of a character. -/
def upper (c : Char) : List Char :=
  let n := c.toNat
  if n < 128 then [c.toUpper]
  else match upperSequences.find? fun s => s.1 = n with
    | some (_, sequence) => sequence.map Char.ofNat
    | none => [Char.ofNat (move upperRuns n)]

/-- The lower-case form of a character that does not end a word. -/
def lower (c : Char) : List Char :=
  let n := c.toNat
  if n < 128 then [c.toLower]
  else if n = 0x130 then ['i', Char.ofNat 0x307]
  else [Char.ofNat (move lowerRuns n)]

/-- Whether a character lies in one of the ranges. -/
def inRanges (ranges : List (Nat × Nat)) (c : Char) : Bool :=
  ranges.any fun r => r.1 ≤ c.toNat && c.toNat ≤ r.2

/-- Whether the first character that case does not ignore is a cased letter. -/
def meetsCased (cs : List Char) : Bool :=
  match cs.dropWhile (inRanges caseIgnorableRanges) with
  | c :: _ => inRanges casedRanges c
  | [] => false

/-- The lower-case forms of characters, `before` being those in front, nearest first. -/
def lowerFrom (before : List Char) : List Char → List Char
  | [] => []
  | c :: rest =>
    let here :=
      if c = 'Σ' then
        if meetsCased before && !meetsCased rest then ['ς'] else ['σ']
      else lower c
    here ++ lowerFrom (c :: before) rest

end LetterCase

/-- The text in upper case. -/
def toUpperText (s : String) : String := String.ofList (s.toList.flatMap LetterCase.upper)

/-- The text in lower case. -/
def toLowerText (s : String) : String := String.ofList (LetterCase.lowerFrom [] s.toList)

end MonitorSync
