import MonitorSync.Yaml.Scalar
import MonitorSync.Yaml.Tag
set_option autoImplicit false

/-!
# Scanning a document

Whether a word is the key of a mapping is only known when the colon after it is found. A token that
may be a key is therefore remembered, and the tokens that belong in front of it are put there later.

## Main definitions

* `Yaml.Scanner` — the tokens so far, the open blocks and brackets, and the possible keys
* `Yaml.Scanner.fetch` — reads the next token
* `Yaml.tokens?` — all tokens of a text
-/

namespace MonitorSync

namespace Yaml

/-- A token that may turn out to be a key. -/
structure KeyCandidate where
  /-- The token can be nothing but a key. -/
  required : Bool
  /-- The number of tokens in front of it. -/
  position : Nat
  place : Place
deriving Repr

/-- The state of the scanner. -/
structure Scanner where
  cursor : Cursor
  /-- The tokens so far, the last one first. -/
  tokens : List Token := []
  /-- The number of tokens so far. -/
  count : Nat := 0
  /-- The columns of the open blocks, the innermost first. -/
  indents : List Nat := []
  /-- The possible key of each open bracket, the innermost first. -/
  flows : List (Option KeyCandidate) := []
  /-- The possible key outside of brackets. -/
  candidate : Option KeyCandidate := none
  /-- Whether a key may start here. -/
  keyAllowed : Bool := true
  finished : Bool := false

namespace Scanner

/-- Whether the scanner is inside of brackets. -/
def inFlow (s : Scanner) : Bool := !s.flows.isEmpty

/-- One more than the column of the innermost block, zero outside of any. -/
def outer (s : Scanner) : Nat := s.indents.head?.elim 0 (· + 1)

/-- The column of the next character. -/
def column (s : Scanner) : Nat := s.cursor.place.column

/-- Adds a token. -/
def emit (t : Token) (s : Scanner) : Scanner :=
  { s with tokens := t :: s.tokens, count := s.count + 1 }

/-- Puts a token behind the first `position` ones. -/
def insert (position : Nat) (t : Token) (s : Scanner) : Scanner :=
  let later := s.count - position
  { s with tokens := s.tokens.take later ++ t :: s.tokens.drop later, count := s.count + 1 }

/-- The possible key at the present level. -/
def key? (s : Scanner) : Option KeyCandidate :=
  match s.flows with
  | [] => s.candidate
  | k :: _ => k

/-- Sets the possible key at the present level. -/
def setKey (k : Option KeyCandidate) (s : Scanner) : Scanner :=
  match s.flows with
  | [] => { s with candidate := k }
  | _ :: others => { s with flows := k :: others }

/-- Gives up the possible key at the present level. -/
def dropKey (s : Scanner) : Option Scanner :=
  if s.key?.elim false (·.required) then none else some (s.setKey none)

/-- Remembers that the next token may be a key. -/
def saveKey (s : Scanner) : Option Scanner :=
  if s.keyAllowed then do
    let s ← s.dropKey
    let required := !s.inFlow && s.outer = s.column + 1
    some (s.setKey (some ⟨required, s.count, s.cursor.place⟩))
  else some s

/-- The greatest length of a key. -/
def longestKey : Nat := 1024

/-- Whether a possible key is too far away to be one. -/
def isStale (here : Place) (k : KeyCandidate) : Bool :=
  k.place.line < here.line || k.place.index + longestKey < here.index

/-- A possible key, if it is not stale. -/
def refresh? (here : Place) (k : Option KeyCandidate) : Option (Option KeyCandidate) :=
  match k with
  | none => some none
  | some k => if isStale here k then (if k.required then none else some none) else some (some k)

/-- Gives up all possible keys that are stale. -/
def dropStale (s : Scanner) : Option Scanner := do
  let here := s.cursor.place
  let candidate ← refresh? here s.candidate
  let flows ← s.flows.mapM (refresh? here)
  some { s with candidate := candidate, flows := flows }

/-- Opens a block at a column that is further in. Its token goes behind the first `position`
tokens. -/
def roll (column : Nat) (position : Nat) (t : Token) (s : Scanner) : Scanner :=
  if s.inFlow || column < s.outer then s
  else { s.insert position t with indents := column :: s.indents }

/-- Closes the blocks that satisfy `p`, the innermost first. -/
def closeBlocks (p : Nat → Bool) : List Nat → Scanner → Scanner
  | [], s => { s with indents := [] }
  | i :: others, s =>
    if p i then closeBlocks p others (s.emit .blockEnd) else { s with indents := i :: others }

/-- Closes the blocks that a column further out ends. -/
def unroll (column : Nat) (s : Scanner) : Scanner :=
  if s.inFlow then s else closeBlocks (column < ·) s.indents s

/-- Closes all blocks. -/
def unrollAll (s : Scanner) : Scanner :=
  if s.inFlow then s else closeBlocks (fun _ => true) s.indents s

/-- Moves the cursor. -/
def moveTo (c : Cursor) (s : Scanner) : Scanner := { s with cursor := c }

/-- Says whether a key may start here. -/
def allowKey (allowed : Bool) (s : Scanner) : Scanner := { s with keyAllowed := allowed }

/-- Adds the token of an indicator of the given length. -/
def indicator (length : Nat) (t : Token) (s : Scanner) : Scanner :=
  (s.moveTo (s.cursor.skipMany length)).emit t

/-- Goes to the next token, over blanks, line breaks and comments. A tab is no blank where a key may
start outside of brackets. -/
def toNextToken : Nat → Scanner → Scanner
  | 0, s => s
  | fuel + 1, s =>
    let tabs := s.inFlow || !s.keyAllowed
    let c := (s.cursor.skipWhile fun x => x = ' ' || (tabs && x = '\t')).skipComment
    match c.rest with
    | [] => s.moveTo c
    | x :: _ =>
      if isBreak x then toNextToken fuel ((s.moveTo c.skip).allowKey (s.keyAllowed || !s.inFlow))
      else s.moveTo c

/-- Ends the text. -/
def fetchEnd (s : Scanner) : Option Scanner := do
  let s ← s.unrollAll.dropKey
  some { (s.allowKey false).emit .streamEnd with finished := true }

/-- Reads a marker that ends or starts a document. -/
def fetchMarker (t : Token) (s : Scanner) : Option Scanner := do
  let s ← s.unrollAll.dropKey
  some ((s.allowKey false).indicator 3 t)

/-- Reads a directive. -/
def fetchDirective (s : Scanner) : Option Scanner := do
  let s ← s.unrollAll.dropKey
  let (t, c) ← scanDirective s.cursor
  some (((s.allowKey false).moveTo c).emit t)

/-- Reads an opening bracket. -/
def fetchOpen (t : Token) (s : Scanner) : Option Scanner := do
  let s ← s.saveKey
  some (({ s with flows := none :: s.flows }.allowKey true).indicator 1 t)

/-- Reads a closing bracket. -/
def fetchClose (t : Token) (s : Scanner) : Option Scanner := do
  let s ← s.dropKey
  some (({ s with flows := s.flows.drop 1 }.allowKey false).indicator 1 t)

/-- Reads a comma. -/
def fetchComma (s : Scanner) : Option Scanner := do
  let s ← s.dropKey
  some ((s.allowKey true).indicator 1 .flowEntry)

/-- Reads the dash of a list item. -/
def fetchDash (s : Scanner) : Option Scanner := do
  if !s.inFlow && !s.keyAllowed then none
  let s ← (s.roll s.column s.count .blockSequenceStart).dropKey
  some ((s.allowKey true).indicator 1 .blockEntry)

/-- Reads the question mark of a key. -/
def fetchKey (s : Scanner) : Option Scanner := do
  if !s.inFlow && !s.keyAllowed then none
  let s ← (s.roll s.column s.count .blockMappingStart).dropKey
  some ((s.allowKey (!s.inFlow)).indicator 1 .key)

/-- Reads the colon of a value. If there is a possible key, then it is one. -/
def fetchValue (s : Scanner) : Option Scanner := do
  match s.key? with
  | some k =>
    let s := s.insert k.position .key
    let s := (s.roll k.place.column k.position .blockMappingStart).setKey none
    some ((s.allowKey false).indicator 1 .value)
  | none =>
    if !s.inFlow && !s.keyAllowed then none
    let s := s.roll s.column s.count .blockMappingStart
    some ((s.allowKey (!s.inFlow)).indicator 1 .value)

/-- Reads an anchor or alias. -/
def fetchName (t : String → Token) (s : Scanner) : Option Scanner := do
  let s ← s.saveKey
  let (name, c) ← scanName s.cursor.skip
  some (((s.allowKey false).moveTo c).emit (t name))

/-- Reads a tag. -/
def fetchTag (s : Scanner) : Option Scanner := do
  let s ← s.saveKey
  let (t, c) ← scanTag s.inFlow s.cursor
  some (((s.allowKey false).moveTo c).emit t)

/-- Reads a block scalar. -/
def fetchBlock (folded : Bool) (s : Scanner) : Option Scanner := do
  let s ← s.dropKey
  let b ← scanBlock folded s.outer s.cursor.skip
  let style := if folded then ScalarStyle.quoted else .literal
  some (((s.allowKey true).moveTo b.cursor).emit (.scalar (String.ofList b.text) style))

/-- Reads a scalar in quotes. -/
def fetchQuoted (single : Bool) (s : Scanner) : Option Scanner := do
  let s ← s.saveKey
  let c := s.cursor.skip
  let q ← scanQuoted single .text c.rest c.place .nothing []
  some (((s.allowKey false).moveTo q.cursor).emit (.scalar (String.ofList q.text) .quoted))

/-- Reads a scalar without quotes. -/
def fetchPlain (s : Scanner) : Option Scanner := do
  let s ← s.saveKey
  let p ← scanPlain s.inFlow s.outer s.cursor.rest s.cursor.place .nothing []
  some (((s.allowKey p.endsLine).moveTo p.cursor).emit (.scalar (String.ofList p.text) .plain))

/-- Whether a character is an indicator, which no word may start with. -/
def isIndicator (c : Char) : Bool :=
  ['-', '?', ':', ',', '[', ']', '\x7b', '\x7d', '#', '&', '*', '!', '|', '>', '\'', '"', '%', '@',
    '\x60'].contains c

/-- Whether a word without quotes may start with `c`. -/
def startsPlain (flow : Bool) (c : Char) (rest : List Char) : Bool :=
  !(isGap c || isBreak c || isIndicator c) ||
    (c = '-' && !(rest.head?.elim false isGap)) ||
    (!flow && (c = '?' || c = ':') && !atGap rest)

/-- Reads the token that starts with `c`. -/
def fetchAt (c : Char) (rest : List Char) (s : Scanner) : Option Scanner :=
  let flow := s.inFlow
  if s.column = 0 && c = '%' then s.fetchDirective
  else if s.column = 0 && atMarker '-' (c :: rest) then s.fetchMarker .documentStart
  else if s.column = 0 && atMarker '.' (c :: rest) then s.fetchMarker .documentEnd
  else match c with
  | '[' => s.fetchOpen .flowSequenceStart
  | '\x7b' => s.fetchOpen .flowMappingStart
  | ']' => s.fetchClose .flowSequenceEnd
  | '\x7d' => s.fetchClose .flowMappingEnd
  | ',' => s.fetchComma
  | '*' => s.fetchName .alias
  | '&' => s.fetchName .anchor
  | '!' => s.fetchTag
  | '\'' => s.fetchQuoted true
  | '"' => s.fetchQuoted false
  | _ =>
    if c = '-' && atGap rest then s.fetchDash
    else if c = '?' && (flow || atGap rest) then s.fetchKey
    else if c = ':' && (flow || atGap rest) then s.fetchValue
    else if c = '|' && !flow then s.fetchBlock false
    else if c = '>' && !flow then s.fetchBlock true
    else if startsPlain flow c rest then s.fetchPlain
    else none

/-- Reads the next token. -/
def fetch (s : Scanner) : Option Scanner := do
  let s ← (s.toNextToken (s.cursor.rest.length + 1)).dropStale
  let s := s.unroll s.column
  match s.cursor.rest with
  | [] => s.fetchEnd
  | c :: rest => s.fetchAt c rest

/-- Reads tokens up to the end of the text, `fuel` at most. -/
def fetchAll : Nat → Scanner → Option Scanner
  | 0, _ => none
  | fuel + 1, s => if s.finished then some s else (s.fetch).bind (fetchAll fuel)

end Scanner

/-- The tokens of a text. -/
def tokens? (text : String) : Option (List Token) := do
  let cs := match text.toList with
    | '\ufeff' :: rest => rest
    | cs => cs
  if !cs.all isAllowed then none
  let rest := normalizeBreaks cs
  let s ← Scanner.fetchAll (rest.length + 2) { cursor := ⟨rest, {}⟩ }
  some s.tokens.reverse

end Yaml

end MonitorSync
