import MonitorSync.Datum.Basic
set_option autoImplicit false

/-!
# Tokens of a document

A document is written in characters, which are first grouped into tokens. Indentation shows up as
tokens that open and close blocks.

## Main definitions

* `Yaml.Token` — the tokens
* `Yaml.Place` — where a token stands
* `Yaml.Cursor` — the characters that are left, and where they start
-/

namespace MonitorSync

namespace Yaml

/-- A token of a document. -/
inductive Token where
  | streamEnd
  | versionDirective (major minor : Nat)
  | tagDirective (handle start : String)
  | documentStart
  | documentEnd
  | blockSequenceStart
  | blockMappingStart
  | blockEnd
  | flowSequenceStart
  | flowSequenceEnd
  | flowMappingStart
  | flowMappingEnd
  | blockEntry
  | flowEntry
  | key
  | value
  | alias (name : String)
  | anchor (name : String)
  | tag (handle suffix : String)
  | scalar (text : String) (style : ScalarStyle)
deriving DecidableEq, Repr

/-- A place in a text. -/
structure Place where
  line : Nat := 0
  column : Nat := 0
  /-- The number of characters in front. -/
  index : Nat := 0
deriving DecidableEq, Repr, Inhabited

/-- Whether a character ends a line. The other characters that do so are brought to these. -/
def isBreak (c : Char) : Bool := c = '\n' || c = '\u2028' || c = '\u2029'

/-- Whether a character is a space or a tab. -/
def isGap (c : Char) : Bool := c = ' ' || c = '\t'

/-- Whether a text is at its end, or at a character that separates words. -/
def atGap : List Char → Bool
  | [] => true
  | c :: _ => isGap c || isBreak c

/-- Whether a text is at the end of a line. -/
def atLineEnd : List Char → Bool
  | [] => true
  | c :: _ => isBreak c

/-- Whether a character may stand in the name of an anchor or of a tag. -/
def isNameChar (c : Char) : Bool := c.isAlphanum || c = '_' || c = '-'

/-- The place after a character. -/
def Place.after (p : Place) (c : Char) : Place :=
  if isBreak c then ⟨p.line + 1, 0, p.index + 1⟩ else ⟨p.line, p.column + 1, p.index + 1⟩

/-- The characters that are left, and where they start. -/
structure Cursor where
  rest : List Char
  place : Place := {}
deriving Inhabited

namespace Cursor

/-- Steps over one character. -/
def skip (c : Cursor) : Cursor :=
  match c.rest with
  | [] => c
  | x :: rest => ⟨rest, c.place.after x⟩

/-- Steps over a number of characters. -/
def skipMany : Nat → Cursor → Cursor
  | 0, c => c
  | n + 1, c => skipMany n c.skip

/-- Takes the characters in front that satisfy `p`. -/
def span (p : Char → Bool) (c : Cursor) : List Char × Cursor :=
  let taken := c.rest.takeWhile p
  (taken, c.skipMany taken.length)

/-- Steps over the characters in front that satisfy `p`. -/
def skipWhile (p : Char → Bool) (c : Cursor) : Cursor := (c.span p).2

/-- Steps over spaces and tabs, and over a comment. -/
def skipComment (c : Cursor) : Cursor :=
  match c.rest with
  | '#' :: _ => c.skipWhile (!isBreak ·)
  | _ => c

end Cursor

/-- Whether a document may hold a character. -/
def isAllowed (c : Char) : Bool :=
  let n := c.toNat
  n = 9 || n = 10 || n = 13 || (0x20 ≤ n && n ≤ 0x7E) || n = 0x85 || (0xA0 ≤ n && n ≤ 0xD7FF)
    || (0xE000 ≤ n && n ≤ 0xFFFD && n ≠ 0xFEFF) || 0x10000 ≤ n

/-- Brings all ways to end a line to a line feed, except for those that only end a line or a
paragraph. -/
def normalizeBreaks : List Char → List Char
  | [] => []
  | '\r' :: '\n' :: rest => '\n' :: normalizeBreaks rest
  | c :: rest => (if c = '\r' || c = '\u0085' then '\n' else c) :: normalizeBreaks rest

/-- Whether a text starts with the marker of three characters `c`, on its own. -/
def atMarker (c : Char) : List Char → Bool
  | x :: y :: z :: rest => x = c && y = c && z = c && atGap rest
  | _ => false

/-- Whether a text is at a line that ends a document or starts another one. -/
def atDocumentMarker (rest : List Char) (column : Nat) : Bool :=
  column = 0 && (atMarker '-' rest || atMarker '.' rest)

end Yaml

end MonitorSync
