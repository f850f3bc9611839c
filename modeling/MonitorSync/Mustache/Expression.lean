import MonitorSync.Json.Parser
set_option autoImplicit false

/-!
# Expressions of the template language

An expression is a literal, a path into the data, or the call of a helper with positional and named
arguments. Expressions are read from the characters of a tag; blanks between their parts are
skipped.

## Main definitions

* `Mustache.Path` — where a value is looked up
* `Mustache.Expr` — literals, paths and calls
* `Mustache.Head` — the call that opens a block
* `Mustache.readCall?`, `Mustache.readHead?`, `Mustache.readName?` — reading from characters
-/

namespace MonitorSync

namespace Mustache

/-- Where a path starts. -/
inductive PathStart where
  /-- The data that is current, or that was current some levels further out. -/
  | current
  /-- All of the data. -/
  | root
  /-- The variables that a loop sets, or a loop some levels further out. -/
  | loop
deriving DecidableEq, Repr

/-- Where a value is looked up. -/
structure Path where
  /-- The path as written. -/
  raw : String
  start : PathStart
  /-- How many levels further out the path starts. -/
  ups : Nat
  names : List String
deriving DecidableEq, Repr

/-- An expression. -/
inductive Expr where
  | literal (value : Json)
  | path (path : Path)
  | call (name : String) (args : List Expr) (named : List (String × Expr))

/-- The call that opens a block, with the names that the block gives to its values. -/
structure Head where
  name : String
  args : List Expr
  named : List (String × Expr)
  params : List String

/-- A reader of a part of the characters; it gives the rest. -/
abbrev Reader (α : Type) := List Char → Option (α × List Char)

/-- A blank between the parts of a tag. -/
def isGap (c : Char) : Bool := c = ' ' || c = '\t' || c = '\n' || c = '\r'

/-- Removes the blanks in front. -/
def skipGaps (cs : List Char) : List Char := cs.dropWhile isGap

/-- A character of a name. -/
def isNameChar (c : Char) : Bool :=
  c.isAlphanum || c = '_' || c = '-' || c = '$' || 0x80 ≤ c.toNat

/-- Whether a word ends before these characters. -/
def endsWord (cs : List Char) : Bool := cs.head?.all fun c => !isNameChar c

/-- Removes a given start. -/
def strip? (start cs : List Char) : Option (List Char) :=
  if start.isPrefixOf cs then some (cs.drop start.length) else none

/-- Removes a given start after blanks. -/
def expect? (start : String) (cs : List Char) : Option (List Char) :=
  strip? start.toList (skipGaps cs)

/-- Reads a name. -/
def readName? : Reader String := fun cs =>
  let cs := skipGaps cs
  let name := cs.takeWhile isNameChar
  if name.isEmpty then none else some (String.ofList name, cs.dropWhile isNameChar)

/-- Reads one item of a path: a name, or any text in square brackets. -/
def readPathItem? : Reader String := fun cs =>
  match cs with
  | '[' :: rest =>
    let name := rest.takeWhile (· ≠ ']')
    match rest.dropWhile (· ≠ ']') with
    | _ :: rest => some (String.ofList name, rest)
    | [] => none
  | _ =>
    let name := cs.takeWhile isNameChar
    if name.isEmpty then none else some (String.ofList name, cs.dropWhile isNameChar)

/-- Whether a character separates the items of a path. -/
def isPathDot (c : Char) : Bool := c = '.' || c = '/'

/-- Reads the further items of a path, each after a dot or slash. -/
def readPathRest (fuel : Nat) (cs : List Char) : List String × List Char :=
  match fuel, cs with
  | fuel + 1, c :: rest =>
    if isPathDot c then
      match readPathItem? rest with
      | some (name, rest) =>
        let (names, rest) := readPathRest fuel rest
        (name :: names, rest)
      | none => ([], cs)
    else ([], cs)
  | _, _ => ([], cs)

/-- Counts the levels that a path goes out, each written `..` and a separator. -/
def readUps : List Char → Nat × List Char
  | '.' :: '.' :: c :: rest =>
    if isPathDot c then
      let (n, rest) := readUps rest
      (n + 1, rest)
    else (0, '.' :: '.' :: c :: rest)
  | cs => (0, cs)

/-- Removes a word and the separator after it. -/
def stripStep? (word : String) (cs : List Char) : Option (List Char) := do
  match ← strip? word.toList cs with
  | c :: rest => if isPathDot c then some rest else none
  | [] => none

/-- Reads a path. The word `this` names what is current and adds nothing. -/
def readPath? : Reader Path := fun cs => do
  let cs := skipGaps cs
  let rest := ((stripStep? "this" cs).orElse fun _ => strip? ['.', '/'] cs).getD cs
  let (fromRoot, rest) := match stripStep? "@root" rest with
    | some r => (true, r)
    | none => (false, rest)
  let (fromLoop, rest) := match rest with
    | '@' :: r => (true, r)
    | r => (false, r)
  let (ups, rest) := readUps rest
  let (first, rest) ← readPathItem? rest
  let (others, rest) := readPathRest rest.length rest
  let names := (first :: others).filter (· ≠ "this")
  let start := if fromRoot then .root else if fromLoop && !names.isEmpty then .loop else .current
  let raw := String.ofList (cs.take (cs.length - rest.length))
  return (⟨raw, start, if fromLoop && names.isEmpty then 0 else ups, names⟩, rest)

/-- Takes the characters of a quoted text, the closing quote excluded. -/
def takeQuoted? (quote : Char) : Reader (List Char)
  | [] => none
  | c :: rest =>
    if c = quote then some ([], rest)
    else if c = '\\' then
      match rest with
      | d :: rest => (takeQuoted? quote rest).map fun r => (c :: d :: r.1, r.2)
      | [] => none
    else (takeQuoted? quote rest).map fun r => (c :: r.1, r.2)

/-- Escapes the double quotes of a text in single quotes, and frees its single quotes. -/
def requote : List Char → List Char
  | '\\' :: '\'' :: rest => '\'' :: requote rest
  | '"' :: rest => '\\' :: '"' :: requote rest
  | c :: rest => c :: requote rest
  | [] => []

/-- Takes the characters of a number. -/
def takeNumber? : Reader (List Char) := fun cs =>
  let (sign, rest) := match cs with
    | '-' :: r => (['-'], r)
    | r => ([], r)
  let whole := rest.takeWhile Char.isDigit
  let rest := rest.dropWhile Char.isDigit
  if whole.isEmpty then none
  else
    let (dot, rest) := match rest with
      | '.' :: r => (['.'], r)
      | r => ([], r)
    let fraction := rest.takeWhile Char.isDigit
    let rest := rest.dropWhile Char.isDigit
    let (exponent, rest) : List Char × List Char := match rest with
      | 'E' :: r =>
        let (minus, digits) := match r with
          | '-' :: r => (['-'], r)
          | r => ([], r)
        if (digits.takeWhile Char.isDigit).isEmpty then ([], rest)
        else ('E' :: minus ++ digits.takeWhile Char.isDigit, digits.dropWhile Char.isDigit)
      | _ => ([], rest)
    if endsWord rest then some (sign ++ whole ++ dot ++ fraction ++ exponent, rest) else none

/-- Takes the characters of a literal that is not in single quotes. -/
def takeLiteral? (fuel : Nat) : Reader (List Char) := fun cs =>
  match fuel with
  | 0 => none
  | fuel + 1 =>
    let word (w : String) : Option (List Char × List Char) := do
      let rest ← strip? w.toList cs
      if endsWord rest then some (w.toList, rest) else none
    let items (close : Char) (item : Reader (List Char)) (cs : List Char) :=
      takeItems? fuel close item cs
    match cs with
    | '"' :: rest => (takeQuoted? '"' rest).map fun r => ('"' :: r.1 ++ ['"'], r.2)
    | '\'' :: _ => none
    | '[' :: rest =>
      (items ']' (takeLiteral? fuel) rest).map fun r => ('[' :: r.1, r.2)
    | '\x7b' :: rest =>
      let entry : Reader (List Char) := fun cs =>
        match cs with
        | '"' :: rest => do
          let (key, rest) ← takeQuoted? '"' rest
          let rest ← expect? ":" rest
          let (value, rest) ← takeLiteral? fuel (skipGaps rest)
          some ('"' :: key ++ ['"', ':'] ++ value, rest)
        | _ => none
      (items '\x7d' entry rest).map fun r => ('\x7b' :: r.1, r.2)
    | _ => (takeNumber? cs).orElse fun _ => (word "null").orElse fun _ =>
        (word "true").orElse fun _ => word "false"
where
  /-- Takes items up to the closing character, with commas between them. -/
  takeItems? (fuel : Nat) (close : Char) (item : Reader (List Char)) : Reader (List Char) :=
    fun cs =>
      let further := takeFurther fuel item
      let (first, rest) := (item (skipGaps cs)).getD ([], cs)
      let (others, rest) := further rest
      match skipGaps rest with
      | c :: rest => if c = close then some (first ++ others ++ [close], rest) else none
      | [] => none
  /-- Takes further items, each after a comma. -/
  takeFurther (fuel : Nat) (item : Reader (List Char)) (cs : List Char) : List Char × List Char :=
    match fuel with
    | 0 => ([], cs)
    | fuel + 1 =>
      match skipGaps cs with
      | ',' :: rest =>
        match item (skipGaps rest) with
        | some (text, rest) =>
          let (others, rest) := takeFurther fuel item rest
          (',' :: text ++ others, rest)
        | none => ([], cs)
      | _ => ([], cs)

/-- Reads a literal: a value in JSON, or a text in single quotes. -/
def readLiteral? : Reader Json := fun cs =>
  match cs with
  | '\'' :: rest => do
    let (text, rest) ← takeQuoted? '\'' rest
    let value ← Json.read? (String.ofList ('"' :: requote text ++ ['"']))
    some (value, rest)
  | _ => do
    let (text, rest) ← takeLiteral? cs.length cs
    let value ← Json.read? (String.ofList text)
    some (value, rest)

/-- Whether one of the words that no argument may be stands in front. -/
def startsWithKeyword (cs : List Char) : Bool :=
  ["as", "else"].any fun w => (strip? w.toList cs).any endsWord

mutual

/-- Reads an argument: a literal, a path, or a call in parentheses. -/
def readArg? (fuel : Nat) : Reader Expr := fun cs =>
  let cs := skipGaps cs
  match fuel with
  | 0 => none
  | fuel + 1 =>
    if startsWithKeyword cs then none
    else
      ((readLiteral? cs).map fun r => (Expr.literal r.1, r.2)).orElse fun _ =>
      ((readPath? cs).map fun r => (Expr.path r.1, r.2)).orElse fun _ => readNested? fuel cs

/-- Reads a call in parentheses. -/
def readNested? (fuel : Nat) : Reader Expr := fun cs =>
  match fuel with
  | 0 => none
  | fuel + 1 => do
    let cs ← expect? "(" cs
    let withArgs : Option (Expr × List Char) := do
      let (name, rest) ← readName? cs
      let (args, named, rest) := readArgs fuel rest
      if args.isEmpty && named.isEmpty then none else some (.call name args named, rest)
    let (e, rest) ← withArgs.orElse fun _ =>
      (readPath? cs).map fun r => (Expr.call r.1.raw [] [], r.2)
    let rest ← expect? ")" rest
    some (e, rest)

/-- Reads positional and named arguments as long as there are any. -/
def readArgs (fuel : Nat) (cs : List Char) :
    List Expr × List (String × Expr) × List Char :=
  match fuel with
  | 0 => ([], [], cs)
  | fuel + 1 =>
    let named : Option (String × Expr × List Char) := do
      let (name, rest) ← readName? cs
      let rest ← expect? "=" rest
      let (value, rest) ← readArg? fuel rest
      some (name, value, rest)
    match named with
    | some (name, value, rest) =>
      let (args, others, rest) := readArgs fuel rest
      (args, (name, value) :: others, rest)
    | none =>
      match readArg? fuel cs with
      | some (value, rest) =>
        let (args, others, rest) := readArgs fuel rest
        (value :: args, others, rest)
      | none => ([], [], cs)

end

/-- Reads what a value tag prints: a call with arguments, a path, or a call in parentheses. -/
def readCall? : Reader Expr := fun cs =>
  let withArgs : Option (Expr × List Char) := do
    let (name, rest) ← readName? cs
    let (args, named, rest) := readArgs rest.length rest
    if args.isEmpty && named.isEmpty then none else some (.call name args named, rest)
  withArgs.orElse fun _ => (readNested? cs.length cs).orElse fun _ =>
    (readPath? cs).map fun r => (.path r.1, r.2)

/-- Reads the names that a block gives to its values. -/
def readParams? : Reader (List String) := fun cs => do
  let rest ← expect? "as" cs
  let rest ← expect? "|" rest
  let (first, rest) ← readName? rest
  let (second, rest) := match readName? rest with
    | some (name, rest) => ([name], rest)
    | none => ([], rest)
  let rest ← expect? "|" rest
  some (first :: second, rest)

/-- Reads the call that opens a block. -/
def readHead? : Reader Head := fun cs => do
  let (name, rest) ← readName? cs
  let (args, named, rest) := readArgs rest.length rest
  let (params, rest) := (readParams? rest).getD ([], rest)
  some (⟨name, args, named, params⟩, rest)

/-- Reads the name of a partial template, in which dots and slashes may stand. -/
def readPartialName? : Reader String := fun cs =>
  let cs := skipGaps cs
  let isChar (c : Char) : Bool := isNameChar c || isPathDot c
  let name := cs.takeWhile isChar
  if !name.isEmpty then some (String.ofList name, cs.dropWhile isChar)
  else match cs with
    | '[' :: rest =>
      match rest.dropWhile (· ≠ ']') with
      | _ :: tail => some (String.ofList (rest.takeWhile (· ≠ ']')), tail)
      | [] => none
    | '\'' :: rest =>
      match rest.dropWhile (· ≠ '\'') with
      | _ :: tail => some (String.ofList (rest.takeWhile (· ≠ '\'')), tail)
      | [] => none
    | _ => (readPath? cs).map fun r => (r.1.raw, r.2)

end Mustache

end MonitorSync
