import MonitorSync.Mustache.Expression
set_option autoImplicit false

/-!
# The pieces of a template

A template is text with tags between double braces. Its pieces are the stretches of text and the
tags, in order, where a tag knows whether it stands alone on its line.

## Main definitions

* `Mustache.Tag` — what a tag asks for
* `Mustache.Piece` — a stretch of text or a tag
* `Mustache.Piece.scan?` — the pieces of a template
-/

namespace MonitorSync

namespace Mustache

/-- The call of a partial template. -/
structure PartialCall where
  name : String
  args : List Expr
  named : List (String × Expr)

/-- What a tag asks for. -/
inductive Tag where
  /-- Prints a value. -/
  | value (e : Expr)
  | openBlock (head : Head)
  /-- Starts the part of a block that stands for "otherwise", which may be a block in turn. -/
  | otherwise (chained : Option Head)
  /-- Closes a block. -/
  | close (name : String)
  /-- Opens a block that defines something. -/
  | openDefinition (head : Head)
  | definition (head : Head)
  | include (call : PartialCall)
  /-- Opens the text that is printed if a partial template does not exist. -/
  | openInclude (call : PartialCall)
  | comment

/-- A tag with its surroundings. -/
structure PlacedTag where
  tag : Tag
  /-- Whether the blanks before the tag are asked to be removed. -/
  trimBefore : Bool := false
  /-- Whether the blanks after the tag are asked to be removed. -/
  trimAfter : Bool := false
  /-- Whether only blanks stand before and after the tag on its line. -/
  alone : Bool := false
  /-- The blanks before the tag on its line. -/
  indent : String := ""

/-- A stretch of text or a tag. -/
inductive Piece where
  | text (cs : List Char)
  /-- The text of a block in which tags are text. -/
  | raw (cs : List Char)
  | tag (t : PlacedTag)

namespace Piece

/-- A blank within a line. -/
def isSpace (c : Char) : Bool := c = ' ' || c = '\t'

/-- A line break. -/
def isBreak (c : Char) : Bool := c = '\n' || c = '\r'

/-- Appends backslashes to a text in reverse. -/
def pushSlashes (n : Nat) (text : List Char) : List Char := List.replicate n '\\' ++ text

/-- Takes text up to the braces of a tag, four braces if the text is `raw`. A single backslash
before the braces makes them text; of several backslashes before them one is dropped. `slashes`
counts the backslashes seen last, and `seen` is what was taken, in reverse. -/
def takeText (raw : Bool) : Nat → List Char → List Char → List Char × List Char
  | slashes, seen, [] => (pushSlashes slashes seen, [])
  | 1, seen, '\x7b' :: '\x7b' :: '\x7b' :: '\x7b' :: rest =>
    takeText raw 0 ('\x7b' :: '\x7b' :: '\x7b' :: '\x7b' :: seen) rest
  | 1, seen, '\x7b' :: '\x7b' :: rest => takeText raw 0 ('\x7b' :: '\x7b' :: seen) rest
  | slashes, seen, '\x7b' :: '\x7b' :: rest =>
    let seen := pushSlashes (slashes - 1) seen
    if !raw || ['\x7b', '\x7b'].isPrefixOf rest then (seen, '\x7b' :: '\x7b' :: rest)
    else takeText raw 0 ('\x7b' :: seen) ('\x7b' :: rest)
  | slashes, seen, c :: rest =>
    if c = '\\' then takeText raw (slashes + 1) seen rest
    else takeText raw 0 (c :: pushSlashes slashes seen) rest

/-- Removes a mark that asks for blanks to be removed. -/
def readTrim (cs : List Char) : Bool × List Char :=
  match expect? "~" cs with
  | some rest => (true, rest)
  | none => (false, cs)

/-- Reads the end of a tag. -/
def readEnd? (braces : String) : Reader Bool := fun cs => do
  let (trim, rest) := readTrim cs
  let rest ← expect? braces rest
  some (trim, rest)

/-- The characters after the first occurrence of a pattern. -/
def after? (pattern : List Char) : List Char → Option (List Char)
  | [] => none
  | c :: cs =>
    if pattern.isPrefixOf (c :: cs) then some (cs.drop (pattern.length - 1)) else after? pattern cs

/-- Skips a comment, from behind its exclamation mark. -/
def skipComment? (cs : List Char) : Option (List Char) :=
  let long := do
    let rest ← expect? "--" cs
    after? ['-', '-', '\x7d', '\x7d'] rest
  long.orElse fun _ => after? ['\x7d', '\x7d'] cs

/-- Reads the call of a partial template. -/
def readPartialCall? : Reader PartialCall := fun cs => do
  let (name, rest) ← readPartialName? cs
  let (args, named, rest) := readArgs rest.length rest
  some (⟨name, args, named⟩, rest)

/-- A tag as read: its content, the two marks, and the rest of the template. -/
structure Reading where
  tag : Tag
  trimBefore : Bool
  trimAfter : Bool
  rest : List Char

/-- Reads the content and end of a tag. -/
def body? {α : Type} (trimBefore : Bool) (read : Reader α) (make : α → Tag) (cs : List Char) :
    Option Reading := do
  let (content, rest) ← read cs
  let (trimAfter, rest) ← readEnd? "\x7d\x7d" rest
  some ⟨make content, trimBefore, trimAfter, rest⟩

/-- Reads the part of a block that stands for "otherwise", behind its word. -/
def otherwise? (trimBefore : Bool) (cs : List Char) : Option Reading :=
  let plain : Option Reading := do
    let (trimAfter, rest) ← readEnd? "\x7d\x7d" cs
    some ⟨.otherwise none, trimBefore, trimAfter, rest⟩
  plain.orElse fun _ => body? trimBefore readHead? (fun h => .otherwise (some h)) cs

/-- Reads a path or a call in parentheses. -/
def readPrinted? : Reader Expr := fun cs =>
  (readNested? cs.length cs).orElse fun _ => (readPath? cs).map fun r => (.path r.1, r.2)

/-- Reads a tag from behind its braces and first mark. -/
def content? (trim : Bool) (cs : List Char) : Option Reading :=
  let inverse := ((expect? "else" cs).orElse fun _ => expect? "^" cs).bind (otherwise? trim)
  inverse.orElse fun _ =>
    match skipGaps cs with
    | '#' :: rest =>
      match skipGaps rest with
      | '*' :: rest => body? trim readHead? .openDefinition rest
      | '>' :: rest => body? trim readPartialCall? .openInclude rest
      | rest => body? trim readHead? .openBlock rest
    | '/' :: rest => body? trim readPartialName? .close rest
    | '>' :: rest => body? trim readPartialCall? .include rest
    | '*' :: rest => body? trim readHead? .definition rest
    | '&' :: rest => body? trim readPrinted? .value rest
    | '\x7b' :: rest =>
      let braced : Reader Expr := fun cs => do
        let (e, rest) ← readCall? cs
        let rest ← expect? "\x7d" rest
        some (e, rest)
      body? trim braced .value rest
    | rest => body? trim readCall? .value rest

/-- Reads a tag in double braces. -/
def readTag? (cs : List Char) : Option Reading := do
  let rest ← strip? ['\x7b', '\x7b'] cs
  match rest with
  | '!' :: rest => (skipComment? rest).map fun rest => ⟨.comment, false, false, rest⟩
  | _ =>
    let (trim, rest) := readTrim rest
    content? trim rest

/-- Reads the tag that opens or closes a block in which tags are text. -/
def readRawTag? {α : Type} (read : Reader α) (make : α → Tag) (cs : List Char) :
    Option Reading := do
  let rest ← strip? ['\x7b', '\x7b', '\x7b', '\x7b'] cs
  let (trimBefore, rest) := readTrim rest
  let (content, rest) ← read rest
  let (trimAfter, rest) ← readEnd? "\x7d\x7d\x7d\x7d" rest
  some ⟨make content, trimBefore, trimAfter, rest⟩

/-- Reads the name behind the slash of a closing tag. -/
def readClosing? : Reader String := fun cs => do readName? (← expect? "/" cs)

/-- Whether the text in front of a tag, in reverse, leaves its line blank. -/
def blankBefore (isFirst : Bool) (text : List Char) : Bool :=
  match text.dropWhile isSpace with
  | [] => isFirst
  | c :: _ => isBreak c

/-- Whether the characters behind a tag leave its line blank. -/
def blankAfter (rest : List Char) : Bool :=
  rest.isEmpty || (rest.dropWhile isSpace).head?.any isBreak

/-- A tag with its surroundings, behind the text `text` in reverse. -/
def place (isFirst : Bool) (text : List Char) (r : Reading) : Piece :=
  .tag { tag := r.tag, trimBefore := r.trimBefore, trimAfter := r.trimAfter,
         alone := blankBefore isFirst text && blankAfter r.rest,
         indent := String.ofList (text.takeWhile isSpace).reverse }

/-- The pieces of the rest of a template. -/
def scanFrom? : Nat → Bool → List Char → Option (List Piece)
  | 0, _, _ => none
  | fuel + 1, isFirst, cs => do
    let (seen, rest) := takeText false 0 [] cs
    let front := if seen.isEmpty then [] else [Piece.text seen.reverse]
    if rest.isEmpty then return front
    if ['\x7b', '\x7b', '\x7b', '\x7b'].isPrefixOf rest then
      let opening ← readRawTag? readHead? .openBlock rest
      let gaps := opening.rest.takeWhile isGap
      let (inner, rest) := takeText true 0 [] (skipGaps opening.rest)
      let closing ← readRawTag? readClosing? .close rest
      let others ← scanFrom? fuel false closing.rest
      return front ++ [place isFirst seen opening, .raw inner.reverse,
        place false (inner ++ gaps.reverse) closing] ++ others
    else
      let tag ← readTag? rest
      let others ← scanFrom? fuel false tag.rest
      return front ++ place isFirst seen tag :: others

/-- The pieces of a template. -/
def scan? (template : String) : Option (List Piece) :=
  let cs := template.toList
  scanFrom? (cs.length + 1) true cs

end Piece

end Mustache

end MonitorSync
