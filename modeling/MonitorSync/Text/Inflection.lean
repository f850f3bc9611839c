import MonitorSync.Text.Blank
import MonitorSync.Text.Letters
import MonitorSync.Text.Replace
set_option autoImplicit false

/-!
# The forms of a name

Names are brought to the forms that programs and tables have for them. This goes through a name
character by character and changes only the case of ASCII letters.

## Main definitions

* `NameStyle` — a way to write a name whose words start with capitals
* `NameStyle.write` — a name in such a form
* `writeSeparated` — a name in small or in capital letters, with a mark between its words
* `ordinal`, `cardinal` — numbers with and without the ending of an ordinal
-/

namespace MonitorSync

/-- A way to write a name whose words start with capitals. -/
structure NameStyle where
  /-- Whether the name starts with a capital. -/
  startsCapital : Bool := true
  /-- What stands between the words. -/
  separator : Option Char := none
  /-- Whether only the first word starts with a capital. -/
  onlyFirst : Bool := false

namespace NameStyle

/-- The place in a name, and what is written so far, in reverse. -/
structure Progress where
  written : List Char := []
  /-- Whether a letter or number was met. -/
  met : Bool := false
  /-- Whether the next letter starts a word. -/
  startsWord : Bool
  /-- Whether no word was started yet. -/
  isFirst : Bool := true
  /-- The last letter that was written small. -/
  last : Char := ' '

/-- Starts a word with a letter. -/
def startWord (style : NameStyle) (p : Progress) (c : Char) : Progress :=
  let mark := if p.isFirst then [] else style.separator.toList
  let letter := if style.onlyFirst && !p.isFirst then c.toLower else c.toUpper
  { p with
    written := letter :: (mark ++ p.written), met := true, startsWord := false, isFirst := false }

/-- Writes one more character. -/
def step (style : NameStyle) (p : Progress) (c : Char) : Progress :=
  if !isLetterOrNumber c then (if p.met then { p with startsWord := true } else p)
  else if isNumber c then { p with written := c :: p.written, met := true, startsWord := true }
  else if p.startsWord || (isSmall p.last && isCapital c) then style.startWord p c
  else { p with written := c.toLower :: p.written, met := true, last := c }

/-- A name in the form. What is neither a letter nor a number is left out at its end. -/
def write (style : NameStyle) (s : String) : List Char :=
  let name := dropEndWhile (fun c => !isLetterOrNumber c) s.toList
  (name.foldl style.step { startsWord := style.startsCapital }).written.reverse

/-- The form `fooBar`. -/
def camel : NameStyle := { startsCapital := false }

/-- The form `FooBar`. -/
def pascal : NameStyle := {}

/-- The form `Foo-Bar`. -/
def train : NameStyle := { separator := some '-' }

/-- The form `Foo Bar`. -/
def title : NameStyle := { separator := some ' ' }

/-- The form `Foo bar`. -/
def sentence : NameStyle := { separator := some ' ', onlyFirst := true }

end NameStyle

/-- Cuts a text in front of the last character that satisfies `p`; without one, all of it comes
behind the cut. -/
def cutAtLast (p : Char → Bool) (cs : List Char) : List Char × List Char :=
  match cs.reverse.findIdx? p with
  | some i => (cs.take (cs.length - 1 - i), cs.drop (cs.length - 1 - i))
  | none => ([], cs)

/-- The last part of a path of names such as `a::b`. -/
def lastName (s : String) : String :=
  String.ofList ((splitAtPattern [':', ':'] s.toList).getLast?.getD [])

namespace SeparatedName

/-- The place in a name, and what is written so far, in reverse. -/
structure Progress where
  written : List Char := []
  /-- Whether a word may not be cut in front of the next character. -/
  atStart : Bool := true
  /-- The number of bytes before the next character. -/
  offset : Nat := 0

/-- Whether a word is cut in front of a character that is no small letter of ASCII. The characters
beside it are looked up by the number of bytes before it. -/
def cutsAt (name : List Char) (offset : Nat) (c : Char) : Bool :=
  let isSmallAt (i : Nat) : Bool := name[i]?.any isSmall
  c = c.toUpper && (isSmallAt (offset + 1) || isSmallAt (offset - 1))

/-- Writes one more character of a name. -/
def step (name : List Char) (mark : Char) (letter : Char → Char) (p : Progress) (c : Char) :
    Progress :=
  let offset := p.offset + c.utf8Size
  if !isLetterOrNumber c then
    ⟨if p.atStart then p.written else mark :: p.written, true, offset⟩
  else if !p.atStart && cutsAt name p.offset c then
    ⟨letter c :: mark :: p.written, false, offset⟩
  else ⟨letter c :: p.written, false, offset⟩

end SeparatedName

/-- A name with a mark between its words, its letters small or capital. -/
def writeSeparated (mark : Char) (letter : Char → Char) (s : String) : List Char :=
  let name := dropEndWhile (fun c => !isLetterOrNumber c) s.toList
  (name.foldl (SeparatedName.step s.toList mark letter) {}).written.reverse

/-- The form `foo_bar`. -/
def snakeName (s : String) : List Char := writeSeparated '_' Char.toLower s

/-- The name of a reference to what is named, `foo_bar_id`. -/
def foreignKey (s : String) : String :=
  let name := snakeName (lastName s)
  let ending := "_id".toList
  String.ofList (if ending.isSuffixOf name then name else name ++ ending)

/-- The name of a class, `FooBar`, where `singular` brings the last word to its singular. -/
def className (singular : String → String) (s : String) : String :=
  let (front, last) := cutAtLast isCapital (NameStyle.pascal.write s)
  String.ofList front ++ singular (String.ofList last)

/-- The name of a table, `foo_bars`, where `plural` brings the last word to its plural. -/
def tableName (plural : String → String) (s : String) : String :=
  let (front, last) := cutAtLast (· = '_') (snakeName s)
  String.ofList front ++ plural (String.ofList last)

/-- A number with the ending of an ordinal. Other texts are left alone, and the empty text has no
ordinal. -/
def ordinal (s : String) : Option String :=
  match s.toList.reverse with
  | [] => none
  | last :: front =>
    if !isNumber last then some s
    else if front.head? = some '1' then some (s ++ "th")
    else if front.contains '.' then some s
    else
      let ending := match last with
        | '1' => "st"
        | '2' => "nd"
        | '3' => "rd"
        | _ => "th"
      some (s ++ ending)

/-- Removes an ending as often as it stands at the end of a text, which is given in reverse. -/
def dropEnding (ending : List Char) : List Char → List Char
  | a :: b :: rest => if [b, a] = ending then dropEnding ending rest else a :: b :: rest
  | cs => cs

/-- A number without the endings of ordinals, unless there is a point in it. -/
def cardinal (s : String) : String :=
  if s.toList.contains '.' then s
  else
    let endings := ["st", "nd", "rd", "th"].map String.toList
    String.ofList (endings.foldl (fun cs ending => dropEnding ending cs) s.toList.reverse).reverse

/-- Numbers end a word of a name. -/
example : String.ofList (NameStyle.camel.write "Hello foo-bars2you") = "helloFooBars2You" ∧
    String.ofList (snakeName "HelloFoo-bars") = "hello_foo_bars" ∧
    foreignKey "a::FooBar" = "foo_bar_id" ∧ ordinal "113" = some "113th" ∧
    cardinal "22nd" = "22" := by
  decide +kernel

end MonitorSync
