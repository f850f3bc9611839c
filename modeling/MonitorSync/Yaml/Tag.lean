import MonitorSync.Yaml.Token
import MonitorSync.Encoding.Base64
set_option autoImplicit false

/-!
# Tags, anchors and directives

## Main definitions

* `Yaml.scanName` — the name of an anchor or alias
* `Yaml.scanTag` — a tag
* `Yaml.scanDirective` — a directive, which stands in front of a document
-/

namespace MonitorSync

namespace Yaml

/-- Reads the name of an anchor or alias, after its indicator. -/
def scanName (c : Cursor) : Option (String × Cursor) :=
  let (name, after) := c.span isNameChar
  let ends := atGap after.rest || after.rest.head?.elim false fun x =>
    ['?', ':', ',', ']', '\x7d', '%', '@', '\x60'].contains x
  if name.isEmpty || !ends then none else some (String.ofList name, after)

/-- Whether a character may stand in an address; some only where it is enclosed. -/
def isAddressChar (enclosed : Bool) (c : Char) : Bool :=
  isNameChar c || [';', '/', '?', ':', '@', '&', '=', '+', '$', '.', '%', '!', '~', '*', '\'', '(',
    ')'].contains c || (enclosed && [',', '[', ']'].contains c)

/-- Replaces the escapes in an address by the bytes they stand for. -/
def unescapeAddress : List Char → Option (List UInt8)
  | [] => some []
  | '%' :: a :: b :: rest => do
    let high ← Word.digit? 16 a
    let low ← Word.digit? 16 b
    let others ← unescapeAddress rest
    some (UInt8.ofNat (16 * high + low) :: others)
  | '%' :: _ => none
  | c :: rest => do
    let others ← unescapeAddress rest
    some (UInt8.ofNat c.toNat :: others)

/-- Reads an address. -/
def scanAddress (enclosed : Bool) (c : Cursor) : Option (String × Cursor) := do
  let (digits, after) := c.span (isAddressChar enclosed)
  let text ← utf8Text? (← unescapeAddress digits)
  some (text, after)

/-- Reads the handle of a tag: an exclamation mark, or two around a name. A mark and a name after
it are given as they are. -/
def scanHandle (c : Cursor) : Option (String × Cursor) :=
  match c.rest with
  | '!' :: _ =>
    let (name, after) := c.skip.span isNameChar
    match after.rest with
    | '!' :: _ => some (String.ofList ('!' :: name ++ ['!']), after.skip)
    | _ => some (String.ofList ('!' :: name), after)
  | _ => none

/-- Reads a tag: its handle, which is empty for a tag that is written out, and the rest. -/
def scanTag (flow : Bool) (c : Cursor) : Option (Token × Cursor) := do
  let (token, after) ← match c.rest with
    | '!' :: '<' :: _ => do
      let (address, after) ← scanAddress true c.skip.skip
      match after.rest with
      | '>' :: _ => if address.isEmpty then none else some (Token.tag "" address, after.skip)
      | _ => none
    | _ => do
      let (handle, after) ← scanHandle c
      if 1 < handle.length && handle.endsWith "!" then
        let (suffix, after) ← scanAddress false after
        if suffix.isEmpty then none else some (Token.tag handle suffix, after)
      else
        let (more, after) ← scanAddress false after
        let suffix := String.ofList (handle.toList.drop 1) ++ more
        some (if suffix.isEmpty then Token.tag "" "!" else Token.tag "!" suffix, after)
  let separated := atGap after.rest || (flow && after.rest.head? = some ',')
  if separated then some (token, after) else none

/-- Reads a number of at most nine digits. -/
def scanNumber (c : Cursor) : Option (Nat × Cursor) := do
  let (digits, after) := c.span Char.isDigit
  if 9 < digits.length then none
  let n ← Word.natural? 10 digits
  some (n, after)

/-- Reads the content of a directive of the given name. -/
def scanDirectiveContent (name : String) (c : Cursor) : Option (Token × Cursor) := do
  let c := c.skipWhile isGap
  match name with
  | "YAML" =>
    let (major, c) ← scanNumber c
    match c.rest with
    | '.' :: _ =>
      let (minor, c) ← scanNumber c.skip
      some (.versionDirective major minor, c)
    | _ => none
  | "TAG" =>
    let (handle, c) ← scanHandle c
    if handle ≠ "!" && !handle.endsWith "!" then none
    if !(c.rest.head?.elim false isGap) then none
    let (start, c) ← scanAddress true (c.skipWhile isGap)
    if start.isEmpty || !atGap c.rest then none
    some (.tagDirective handle start, c)
  | _ => none

/-- Reads a directive, with the line it stands on. -/
def scanDirective (c : Cursor) : Option (Token × Cursor) := do
  let (name, c) := c.skip.span isNameChar
  if !atGap c.rest then none
  let (token, c) ← scanDirectiveContent (String.ofList name) c
  let c := (c.skipWhile isGap).skipComment
  if atLineEnd c.rest then some (token, c.skip) else none

end Yaml

end MonitorSync
