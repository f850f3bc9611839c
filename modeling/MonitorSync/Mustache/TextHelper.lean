import MonitorSync.Mustache.Arguments
import MonitorSync.Text.FilePath
import MonitorSync.Text.Inflection
import MonitorSync.Text.LetterCase
import MonitorSync.Text.QuoteMarks
import MonitorSync.Text.Words
set_option autoImplicit false

/-!
# Helpers for texts

## Main definitions

* `Mustache.textForm?` — the form that a helper of a text brings it to
* `Mustache.textHelper?` — the helper for texts of a name
-/

namespace MonitorSync

namespace Mustache

/-- The name in a style. -/
def styled (style : NameStyle) (s : String) : String := String.ofList (style.write s)

/-- The name in small or capital letters, with marks between its words. -/
def separated (mark : Char) (letter : Char → Char) (s : String) : String :=
  String.ofList (writeSeparated mark letter s)

/-- What a path says of a file, empty if it says nothing. -/
def pathPart (part : FilePath → Option String) (s : String) : String :=
  (part (FilePath.ofText s)).getD ""

/-- The form that the helper of a name brings a text to. -/
def textForm? : String → Option (Tools → String → String)
  | "to_lower_case" => some fun _ => toLowerText
  | "to_upper_case" => some fun _ => toUpperText
  | "trim" => some fun _ => trimBlanks
  | "trim_start" => some fun _ => trimBlanksStart
  | "trim_end" => some fun _ => trimBlanksEnd
  | "to_camel_case" => some fun _ => styled .camel
  | "to_pascal_case" => some fun _ => styled .pascal
  | "to_train_case" => some fun _ => styled .train
  | "to_title_case" => some fun _ => styled .title
  | "to_sentence_case" => some fun _ => styled .sentence
  | "to_snake_case" => some fun _ => separated '_' Char.toLower
  | "to_screaming_snake_case" => some fun _ => separated '_' Char.toUpper
  | "to_kebab_case" => some fun _ => separated '-' Char.toLower
  | "to_class_case" => some fun tools => className tools.singular
  | "to_table_case" => some fun tools => tableName tools.plural
  | "to_foreign_key" => some fun _ => foreignKey
  | "demodulize" => some fun tools s => className tools.singular (lastName s)
  | "to_plural" => some Tools.plural
  | "to_singular" => some Tools.singular
  | "deordinalize" => some fun _ => cardinal
  | "unquote" => some fun _ s => (unquote? s).getD s
  | "file_name" => some fun _ => pathPart fun p => p.fileName?.map String.ofList
  | "extension" => some fun _ => pathPart fun p => p.extension?.map String.ofList
  | "parent" => some fun _ => pathPart fun p => p.parent?.map FilePath.toText
  | "canonicalize" => some fun tools s => (tools.realPath? s).getD ""
  | "env_var" => some fun tools s => (tools.environment? s).getD ""
  | name => (WordStyle.ofName? name).map fun style _ => style.write

/-- The helper for texts of a name. -/
def textHelper? : String → Option ValueHelper
  | "replace" => some fun a => do return .str (replaceAll (← a.text 1) (← a.text 2) (← a.text 0))
  | "quote" => some fun a => do
    let mark := (← a.text 0).toList.head?.getD '"'
    return .str (enquote mark (← a.text 1))
  | "ordinalize" => some fun a => do
    match ordinal (← a.text 0) with
    | some s => return .str s
    | none => .error "no number"
  | "first_non_empty" => some fun a =>
    .ok (.str ((a.args.filterMap Json.toText?).find? (fun s => !s.isEmpty) |>.getD ""))
  | "read_to_str" => some fun a => do
    match a.tools.file? (← a.text 0) with
    | some s => return .str s
    | none => .error "file cannot be read"
  | "regex_is_match" => some fun a => do
    return .bool (← a.tools.search (← a.namedText "pattern") (← a.namedText "on")).isSome
  | "regex_captures" => some fun a => do
    let found ← a.tools.search (← a.namedText "pattern") (← a.namedText "on")
    return found.elim .null PatternMatch.toJson
  | name => (textForm? name).map fun form a => onText (form a.tools) a

end Mustache

end MonitorSync
