import MonitorSync.Yaml.Scanner
set_option autoImplicit false

/-!
# Reading a document

## Main definitions

* `Yaml.Part` — a part of a document
* `Yaml.Composer` — reading tokens while keeping track of the parts that have a name
* `Yaml.node` — reads a part of a document
* `Yaml.read?` — the data of a text that holds one document
* `Yaml.readValue?` — the value that a text writes, if not too much of it is nested or read again
-/

namespace MonitorSync

namespace Yaml

/-- A part of a document: its data, and what it takes to read all of it. -/
structure Part where
  data : Datum
  /-- How many lists and records are open at once. -/
  depth : Nat := 0
  /-- How often a part is read again because its name stands somewhere. -/
  repeats : Nat := 0
  /-- The number of marks in the document: one for a scalar or a name, and one at each end of a list
  or record. -/
  marks : Nat := 1

namespace Part

/-- Where nothing is written, an empty scalar stands. -/
def empty (tag : Option String) : Part := { data := .scalar "" .plain tag }

/-- A part that is still open. -/
def unfinished : Part := { data := .cyclic }

/-- The place where the name of a part stands. -/
def again (p : Part) : Part := { p with repeats := p.repeats + 1, marks := 1 }

/-- A list or record that is made up of parts. -/
def around (parts : List Part) (d : Datum) : Part where
  data := d
  depth := (parts.map depth).foldr Nat.max 0 + 1
  repeats := (parts.map repeats).foldr (· + ·) 0
  marks := (parts.map marks).foldr (· + ·) 2

/-- Data under a tag. -/
def labelled (tag : Option String) (d : Datum) : Datum :=
  if tag.elim false (·.startsWith "!") then .labelled d else d

/-- A list under its tag. -/
def sequence (tag : Option String) (items : List Part) : Part :=
  around items (labelled tag (.sequence (items.map data)))

/-- A record under its tag. -/
def record (tag : Option String) (entries : List (Part × Part)) : Part :=
  around (entries.flatMap fun e => [e.1, e.2])
    (labelled tag (.record (entries.map fun e => (e.1.data, e.2.data))))

/-- The greatest number of lists and records open at once in a part that is read as a value. -/
def maxDepth : Nat := 128

/-- How often such a part may be read again for every mark in it. -/
def repeatsPerMark : Nat := 100

/-- Whether a part may be read as a value. -/
def isBounded (p : Part) : Bool := p.depth ≤ maxDepth && p.repeats ≤ repeatsPerMark * p.marks

end Part

/-- What is known while tokens are read. -/
structure ComposerState where
  tokens : List Token
  /-- What the handles of tags stand for. -/
  handles : List (String × String) := []
  /-- The number of the last part of each name. -/
  names : List (String × Nat) := []
  /-- The numbered parts, the last one first. A part that is still open contains itself wherever
  it is named. -/
  parts : List Part := []

/-- Reading tokens, which may fail. -/
abbrev Composer (α : Type) := StateT ComposerState Option α

/-- The next token. -/
def peek : Composer Token := do return ((← get).tokens.head?).getD .streamEnd

/-- Steps over a token. -/
def advance : Composer Unit := modify fun s => { s with tokens := s.tokens.drop 1 }

/-- The part that a name stands for. -/
def resolve (name : String) : Composer Part := do
  let s ← get
  let n ← KeyMap.lookup name s.names
  s.parts[s.parts.length - 1 - n]?.map Part.again

/-- Names the part that is read next. -/
def openPart (name : Option String) : Composer (Option Nat) :=
  match name with
  | none => return none
  | some name => do
    let n := (← get).parts.length
    modify fun s => { s with names := (name, n) :: s.names, parts := .unfinished :: s.parts }
    return some n

/-- Says what a named part is. -/
def closePart (n : Option Nat) (p : Part) : Composer Unit :=
  match n with
  | none => return ()
  | some n => modify fun s => { s with parts := s.parts.set (s.parts.length - 1 - n) p }

/-- The whole of a tag. -/
def resolveTag (handle suffix : String) : Composer String := do
  if handle.isEmpty then return suffix
  let start ← KeyMap.lookup handle (← get).handles
  return start ++ suffix

/-- Reads the tag in front of a part. -/
def readTag : Composer (Option String) := do
  match ← peek with
  | .tag handle suffix => do
    advance
    return some (← resolveTag handle suffix)
  | _ => return none

/-- Reads the name and tag in front of a part, in either order. -/
def readProperties : Composer (Option String × Option String) := do
  match ← peek with
  | .anchor name => do
    advance
    return (some name, ← readTag)
  | .tag .. => do
    let tag ← readTag
    match ← peek with
    | .anchor name => do
      advance
      return (some name, tag)
    | _ => return (none, tag)
  | _ => return (none, none)

/-- The tag of a scalar, where a lone mark is none. -/
def scalarTag (tag : Option String) : Option String := if tag = some "!" then none else tag

mutual

/-- Reads a part of a document. -/
def node : Nat → Bool → Bool → Composer Part
  | 0, _, _ => failure
  | fuel + 1, block, indentless => do
    match ← peek with
    | .alias name => do
      advance
      resolve name
    | _ => do
      let (name, tag) ← readProperties
      let n ← openPart name
      let p ← content fuel block indentless (name.isSome || tag.isSome) tag
      closePart n p
      return p

/-- Reads what follows the name and tag of a part. Blocks may stand where `block` says so, and a
list without further indentation where `indentless` does. -/
def content : Nat → Bool → Bool → Bool → Option String → Composer Part
  | 0, _, _, _, _ => failure
  | fuel + 1, block, indentless, optional, tag => do
    let missing : Composer Part := if optional then return Part.empty (scalarTag tag) else failure
    match ← peek with
    | .scalar text style => do
      advance
      return { data := .scalar text style (scalarTag tag) }
    | .blockEntry =>
      if indentless then return Part.sequence tag (← indentlessItems fuel) else missing
    | .flowSequenceStart => do
      advance
      return Part.sequence tag (← flowItems fuel true)
    | .flowMappingStart => do
      advance
      return Part.record tag (← flowEntries fuel true)
    | .blockSequenceStart =>
      if block then do
        advance
        return Part.sequence tag (← blockItems fuel)
      else missing
    | .blockMappingStart =>
      if block then do
        advance
        return Part.record tag (← blockEntries fuel)
      else missing
    | _ => missing

/-- Reads the items of a block. -/
def blockItems : Nat → Composer (List Part)
  | 0 => failure
  | fuel + 1 => do
    match ← peek with
    | .blockEntry => do
      advance
      let item ← match ← peek with
        | .blockEntry | .blockEnd => pure (Part.empty none)
        | _ => node fuel true false
      return item :: (← blockItems fuel)
    | .blockEnd => do
      advance
      return []
    | _ => failure

/-- Reads the items of a list without further indentation. -/
def indentlessItems : Nat → Composer (List Part)
  | 0 => failure
  | fuel + 1 => do
    match ← peek with
    | .blockEntry => do
      advance
      let item ← match ← peek with
        | .blockEntry | .key | .value | .blockEnd => pure (Part.empty none)
        | _ => node fuel true false
      return item :: (← indentlessItems fuel)
    | _ => return []

/-- Reads the key or value of an entry in a block, if there is one. -/
def blockPart : Nat → Composer Part
  | 0 => failure
  | fuel + 1 => do
    match ← peek with
    | .key | .value | .blockEnd => return Part.empty none
    | _ => node fuel true true

/-- Reads the entries of a block. -/
def blockEntries : Nat → Composer (List (Part × Part))
  | 0 => failure
  | fuel + 1 => do
    match ← peek with
    | .blockEnd => do
      advance
      return []
    | .key => do
      advance
      let k ← blockPart fuel
      let v ← match ← peek with
        | .value => do
          advance
          blockPart fuel
        | _ => pure (Part.empty none)
      return (k, v) :: (← blockEntries fuel)
    | _ => failure

/-- Reads the value of an entry in brackets, if there is one. -/
def flowValue : Nat → Composer Part
  | 0 => failure
  | fuel + 1 => do
    match ← peek with
    | .value => do
      advance
      match ← peek with
      | .flowEntry | .flowMappingEnd | .flowSequenceEnd => return Part.empty none
      | _ => node fuel false false
    | _ => return Part.empty none

/-- Reads the items of a list in brackets; all but the first follow a comma. An item may be a single
entry. -/
def flowItems : Nat → Bool → Composer (List Part)
  | 0, _ => failure
  | fuel + 1, first => do
    match ← peek with
    | .flowSequenceEnd => do
      advance
      return []
    | .flowEntry => if first then failure else advance
    | _ => if first then pure () else failure
    match ← peek with
    | .flowSequenceEnd => do
      advance
      return []
    | .key => do
      advance
      let k ← match ← peek with
        | .value | .flowEntry | .flowSequenceEnd => do
          advance
          pure (Part.empty none)
        | _ => node fuel false false
      let v ← flowValue fuel
      return Part.record none [(k, v)] :: (← flowItems fuel false)
    | _ => do
      let item ← node fuel false false
      return item :: (← flowItems fuel false)

/-- Reads the entries of a mapping in brackets; all but the first follow a comma. -/
def flowEntries : Nat → Bool → Composer (List (Part × Part))
  | 0, _ => failure
  | fuel + 1, first => do
    match ← peek with
    | .flowMappingEnd => do
      advance
      return []
    | .flowEntry => if first then failure else advance
    | _ => if first then pure () else failure
    match ← peek with
    | .flowMappingEnd => do
      advance
      return []
    | .key => do
      advance
      let k ← match ← peek with
        | .value | .flowEntry | .flowMappingEnd => pure (Part.empty none)
        | _ => node fuel false false
      let v ← flowValue fuel
      return (k, v) :: (← flowEntries fuel false)
    | _ => do
      let k ← node fuel false false
      return (k, Part.empty none) :: (← flowEntries fuel false)

end

/-- The handles that are known without a directive. -/
def coreHandles : List (String × String) := [("!", "!"), ("!!", coreTag)]
where
  /-- The start of the core tags. -/
  coreTag : String := Datum.coreTag ""

/-- Reads the directives in front of a document and the marker after them. -/
def readDirectives : Nat → Bool → Composer Unit
  | 0, _ => failure
  | fuel + 1, versioned => do
    match ← peek with
    | .versionDirective major minor => do
      if versioned || major ≠ 1 || (minor ≠ 1 && minor ≠ 2) then failure
      advance
      readDirectives fuel true
    | .tagDirective handle start => do
      if ((← get).handles.map Prod.fst).contains handle then failure
      modify fun s => { s with handles := (handle, start) :: s.handles }
      advance
      readDirectives fuel versioned
    | .documentStart => advance
    | _ => failure

/-- Reads what a document holds after its marker. -/
def documentContent (fuel : Nat) : Composer Part := do
  match ← peek with
  | .versionDirective .. | .tagDirective .. | .documentStart | .documentEnd | .streamEnd =>
    return Part.empty none
  | _ => node fuel true false

/-- Reads the only document of a text. A text without any document holds nothing. -/
def document (fuel : Nat) : Composer Part := do
  let p ← match ← peek with
    | .streamEnd => pure (Part.empty none)
    | .versionDirective .. | .tagDirective .. | .documentStart => do
      readDirectives fuel false
      modify fun s => { s with handles := s.handles ++ coreHandles }
      documentContent fuel
    | _ => do
      modify fun s => { s with handles := coreHandles }
      node fuel true false
  modify fun s => { s with tokens := s.tokens.dropWhile (· = .documentEnd) }
  match ← peek with
  | .streamEnd => return p
  | _ => failure

/-- The only document of a text. -/
def readPart? (text : String) : Option Part := do
  let tokens ← tokens? text
  let (p, _) ← (document (3 * tokens.length + 3)).run { tokens := tokens }
  some p

/-- The data of a text that holds one document. -/
def read? (text : String) : Option Datum := (readPart? text).map Part.data

/-- The value that a text writes, if not too much of it is nested or read again. -/
def readValue? (text : String) : Option Json := do
  let p ← readPart? text
  if p.isBounded then p.data.toJson? else none

end Yaml

end MonitorSync
