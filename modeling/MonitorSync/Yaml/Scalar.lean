import MonitorSync.Yaml.Token
set_option autoImplicit false

/-!
# Scalars of a document

A scalar goes over several lines if it is quoted, or if the further lines are indented. Its line
breaks are folded: a single one becomes a space, and of several ones the first is dropped.

## Main definitions

* `Yaml.Fold` — the blanks and line breaks since the last character of a scalar
* `Yaml.scanPlain` — scalars without quotes
* `Yaml.scanQuoted` — scalars in single or double quotes
* `Yaml.scanBlock` — scalars that follow the indicators `|` and `>`
-/

namespace MonitorSync

namespace Yaml

/-- The blanks and line breaks since the last character of a scalar, in reverse. -/
inductive Fold where
  /-- Blanks on one line. -/
  | blanks (seen : List Char)
  /-- A line break, or none if it was escaped, and further breaks. -/
  | lines (first : Option Char) (further : List Char)

namespace Fold

/-- Nothing since the last character. -/
def nothing : Fold := .blanks []

/-- Whether there is anything. -/
def isNothing : Fold → Bool
  | blanks seen => seen.isEmpty
  | lines _ _ => false

/-- Whether the last character was on another line. -/
def isMultiline : Fold → Bool
  | blanks _ => false
  | lines _ _ => true

/-- Adds a blank, which only counts before the end of the line. -/
def addBlank (c : Char) : Fold → Fold
  | blanks seen => blanks (c :: seen)
  | lines first further => lines first further

/-- Adds a line break. -/
def addBreak (c : Char) : Fold → Fold
  | blanks _ => lines (some c) []
  | lines first further => lines first (c :: further)

/-- What is left of the blanks and breaks, in front of a text in reverse. -/
def onto (text : List Char) : Fold → List Char
  | blanks seen => seen ++ text
  | lines (some '\n') [] => ' ' :: text
  | lines (some '\n') further => further ++ text
  | lines (some c) further => further ++ c :: text
  | lines none further => further ++ text

end Fold

/-- A scalar that was read. -/
structure Scanned where
  text : List Char
  /-- Whether line breaks follow that were read as well. -/
  endsLine : Bool
  cursor : Cursor

/-- Whether a character is an indicator inside of brackets. -/
def isFlowIndicator (c : Char) : Bool :=
  c = ',' || c = '[' || c = ']' || c = '\x7b' || c = '\x7d'

/-- Whether a scalar without quotes ends at a character. -/
def endsPlain (flow : Bool) (c : Char) (rest : List Char) : Bool :=
  (c = ':' && atGap rest) || (flow && isFlowIndicator c)

/-- Whether a colon stands where it may not inside of brackets. -/
def hasBadColon (flow : Bool) (c : Char) (rest : List Char) : Bool :=
  flow && c = ':' && rest.head?.elim false fun d => isFlowIndicator d || d = '?'

/-- Reads a scalar without quotes. Outside of brackets, all its lines are indented by `indent`. -/
def scanPlain (flow : Bool) (indent : Nat) :
    List Char → Place → Fold → List Char → Option Scanned
  | [], p, fold, text => some ⟨text.reverse, fold.isMultiline, ⟨[], p⟩⟩
  | c :: rest, p, fold, text =>
    let stop : Option Scanned := some ⟨text.reverse, fold.isMultiline, ⟨c :: rest, p⟩⟩
    if isGap c then
      if fold.isMultiline && p.column < indent && c = '\t' then none
      else scanPlain flow indent rest (p.after c) (fold.addBlank c) text
    else if isBreak c then scanPlain flow indent rest (p.after c) (fold.addBreak c) text
    else if !fold.isNothing && (c = '#' || atDocumentMarker (c :: rest) p.column
        || (!flow && p.column < indent)) then stop
    else if hasBadColon flow c rest then none
    else if endsPlain flow c rest then stop
    else scanPlain flow indent rest (p.after c) .nothing (c :: fold.onto text)

/-- The character that an escape of one letter stands for. -/
def escapedChar? (c : Char) : Option Char :=
  match c with
  | '0' => some '\x00'
  | 'a' => some '\x07'
  | 'b' => some '\x08'
  | 't' => some '\t'
  | '\t' => some '\t'
  | 'n' => some '\n'
  | 'v' => some '\x0b'
  | 'f' => some '\x0c'
  | 'r' => some '\r'
  | 'e' => some '\x1b'
  | ' ' => some ' '
  | '"' => some '"'
  | '/' => some '/'
  | '\\' => some '\\'
  | 'N' => some '\u0085'
  | '_' => some '\u00a0'
  | 'L' => some '\u2028'
  | 'P' => some '\u2029'
  | _ => none

/-- The number of hex digits after an escape. -/
def escapeLength? (c : Char) : Option Nat :=
  match c with
  | 'x' => some 2
  | 'u' => some 4
  | 'U' => some 8
  | _ => none

/-- The character of a code, which is not half of a pair. -/
def charOfCode? (n : Nat) : Option Char :=
  if n < 0xD800 || (0xE000 ≤ n && n < 0x110000) then some (Char.ofNat n) else none

/-- Where the reader of a quoted scalar is. -/
inductive QuotePlace where
  | text
  /-- After a quote in a scalar in single quotes. -/
  | quote
  /-- After a backslash. -/
  | escape
  /-- In the hex digits of an escape. -/
  | digits (left value : Nat)

/-- Reads a scalar in quotes, after the first one. -/
def scanQuoted (single : Bool) :
    QuotePlace → List Char → Place → Fold → List Char → Option Scanned
  | .quote, [], p, _, text => some ⟨text.reverse, false, ⟨[], p⟩⟩
  | _, [], _, _, _ => none
  | .quote, c :: rest, p, _, text =>
    if c = '\'' then scanQuoted single .text rest (p.after c) .nothing (c :: text)
    else some ⟨text.reverse, false, ⟨c :: rest, p⟩⟩
  | .escape, c :: rest, p, _, text =>
    if isBreak c then scanQuoted single .text rest (p.after c) (.lines none []) text
    else match escapeLength? c with
      | some n => scanQuoted single (.digits n 0) rest (p.after c) .nothing text
      | none => do
        let x ← escapedChar? c
        scanQuoted single .text rest (p.after c) .nothing (x :: text)
  | .digits left value, c :: rest, p, _, text => do
    let d ← Word.digit? 16 c
    let value := 16 * value + d
    if left ≤ 1 then
      let x ← charOfCode? value
      scanQuoted single .text rest (p.after c) .nothing (x :: text)
    else scanQuoted single (.digits (left - 1) value) rest (p.after c) .nothing text
  | .text, c :: rest, p, fold, text =>
    if atDocumentMarker (c :: rest) p.column then none
    else if isGap c then scanQuoted single .text rest (p.after c) (fold.addBlank c) text
    else if isBreak c then scanQuoted single .text rest (p.after c) (fold.addBreak c) text
    else
      let text := fold.onto text
      if single then
        if c = '\'' then scanQuoted single .quote rest (p.after c) .nothing text
        else scanQuoted single .text rest (p.after c) .nothing (c :: text)
      else if c = '"' then some ⟨text.reverse, false, ⟨rest, p.after c⟩⟩
      else if c = '\\' then scanQuoted single .escape rest (p.after c) .nothing text
      else scanQuoted single .text rest (p.after c) .nothing (c :: text)

/-- What becomes of the line breaks at the end of a block. -/
inductive Chomping where
  | strip
  | clip
  | keep
deriving DecidableEq, Repr

/-- What has been read of a block. -/
structure Block where
  /-- The indentation, once it is known. -/
  indent : Option Nat
  /-- The widest indentation so far. -/
  widest : Nat := 0
  text : List Char := []
  /-- The break after the last line. -/
  lastBreak : List Char := []
  /-- The breaks of empty lines after it, in reverse. -/
  emptyLines : List Char := []
  /-- Whether the last line starts with a blank. -/
  startsBlank : Bool := false

namespace Block

/-- Starts a further line with the character `c`. Folding joins two lines unless one of them
starts with a blank. -/
def startLine (folded : Bool) (c : Char) (b : Block) : Block :=
  let blank := isGap c
  let joins := folded && b.lastBreak = ['\n'] && !b.startsBlank && !blank
  let text :=
    if joins then (if b.emptyLines.isEmpty then ' ' :: b.text else b.text)
    else b.lastBreak ++ b.text
  { b with text := b.emptyLines ++ text, lastBreak := [], emptyLines := [], startsBlank := blank }

/-- The whole text. -/
def finish (chomping : Chomping) (b : Block) : List Char :=
  match chomping with
  | .strip => b.text.reverse
  | .clip => (b.lastBreak ++ b.text).reverse
  | .keep => (b.emptyLines ++ b.lastBreak ++ b.text).reverse

end Block

/-- Reads the lines of a block. `inLine` tells whether the reader is in the text of a line; else it
is in its indentation. `least` is the least indentation there may be. -/
def scanBlockLines (folded : Bool) (chomping : Chomping) (least : Nat) :
    Bool → List Char → Place → Block → Option Scanned
  | _, [], p, b => some ⟨b.finish chomping, false, ⟨[], p⟩⟩
  | true, c :: rest, p, b =>
    if isBreak c then
      scanBlockLines folded chomping least false rest (p.after c) { b with lastBreak := [c] }
    else scanBlockLines folded chomping least true rest (p.after c) { b with text := c :: b.text }
  | false, c :: rest, p, b =>
    let widest := max b.widest p.column
    let indenting := b.indent.elim true (p.column < ·)
    if indenting && c = ' ' then scanBlockLines folded chomping least false rest (p.after c) b
    else if indenting && c = '\t' then none
    else if isBreak c then
      scanBlockLines folded chomping least false rest (p.after c)
        { b with widest := widest, emptyLines := c :: b.emptyLines }
    else
      let indent := b.indent.getD (max widest least)
      if p.column = indent then
        let line := { b with indent := some indent }.startLine folded c
        scanBlockLines folded chomping least true rest (p.after c)
          { line with text := c :: line.text }
      else some ⟨b.finish chomping, false, ⟨c :: rest, p⟩⟩

/-- Reads what may follow the indicator of a block: how to end it and its indentation, in either
order. -/
def scanBlockHeader (rest : List Char) : Option (Chomping × Option Nat × Nat) :=
  let chomping? (c : Char) : Option Chomping :=
    if c = '+' then some .keep else if c = '-' then some .strip else none
  let width? (c : Char) : Option Nat := if c.isDigit then some (c.toNat - 48) else none
  let sized (chomping : Chomping) (width : Option Nat) (used : Nat) :=
    if width = some 0 then none else some (chomping, width, used)
  match rest with
  | [] => some (.clip, none, 0)
  | c :: more =>
    match chomping? c with
    | some chomping =>
      match more.head?.bind width? with
      | some n => sized chomping (some n) 2
      | none => some (chomping, none, 1)
    | none =>
      match width? c with
      | some n =>
        match more.head?.bind chomping? with
        | some chomping => sized chomping (some n) 2
        | none => sized .clip (some n) 1
      | none => some (.clip, none, 0)

/-- Reads a block, after its indicator. `outer` is one more than the indentation around it, or zero
outside of any. -/
def scanBlock (folded : Bool) (outer : Nat) (c : Cursor) : Option Scanned := do
  let (chomping, width, used) ← scanBlockHeader c.rest
  let c := ((c.skipMany used).skipWhile isGap).skipComment
  if !atLineEnd c.rest then none
  let c := c.skip
  let indent := width.map fun n => (outer - 1) + n
  scanBlockLines folded chomping (max outer 1) false c.rest c.place { indent := indent }

end Yaml

end MonitorSync
