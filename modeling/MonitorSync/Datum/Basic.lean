import MonitorSync.Datum.Scalar
import MonitorSync.Json.Parser
set_option autoImplicit false

/-!
# Data as written

A resource or a specification is decoded from data in which nothing is settled yet: a key may be
repeated, and an unquoted scalar of a document may be a number, a flag or a text, depending on
what is wanted at its place.

## Main definitions

* `Datum` — data as written
* `Datum.ofJson` — data written in JSON, where every scalar says what it is
* `Datum.text?`, `Datum.flag?`, `Datum.integer?`, `Datum.optional?`, `Datum.list?`, `Datum.map?` —
  reading data as a value of the wanted kind
* `Datum.toJson?` — reading data as a value without any expectation
* `Datum.Fields` — reading a record by the names of its fields
-/

namespace MonitorSync

/-- How a scalar of a document is written. -/
inductive ScalarStyle where
  /-- Without quotes. -/
  | plain
  /-- As a block that keeps its line breaks. -/
  | literal
  /-- In quotes, or as a folded block. -/
  | quoted
deriving DecidableEq, Repr

/-- Data as written. -/
inductive Datum where
  | null
  | flag (value : Bool)
  | number (value : Number)
  | text (value : String)
  /-- A scalar of a document, with its tag if it has one. -/
  | scalar (value : String) (style : ScalarStyle) (tag : Option String)
  /-- A list that may also stand for a record, by giving its fields in order. -/
  | list (items : List Datum)
  /-- A list of a document, which stands for nothing but a list. -/
  | sequence (items : List Datum)
  | record (entries : List (Datum × Datum))
  /-- A list or record of a document under a tag of the document's own. -/
  | labelled (inner : Datum)
  /-- A part of a document that contains itself. -/
  | cyclic

namespace Datum

instance : Inhabited Datum := ⟨.null⟩

mutual

/-- Data written in JSON. -/
def ofJson : Json → Datum
  | .null => .null
  | .bool b => .flag b
  | .num n => .number n
  | .str s => .text s
  | .arr items => .list (ofJsonItems items)
  | .obj entries => .record (ofJsonEntries entries)

/-- The items of a list written in JSON. -/
def ofJsonItems : List Json → List Datum
  | [] => []
  | v :: rest => ofJson v :: ofJsonItems rest

/-- The entries of an object written in JSON. -/
def ofJsonEntries : List (String × Json) → List (Datum × Datum)
  | [] => []
  | (k, v) :: rest => (.text k, ofJson v) :: ofJsonEntries rest

end

/-- The tag of nulls, flags, integers, decimals and texts in a document. -/
def coreTag (kind : String) : String := "tag:yaml.org,2002:" ++ kind

/-- The data as a text. Every scalar of a document is one, quoted or not. -/
def text? : Datum → Option String
  | .text s => some s
  | .scalar s _ _ => some s
  | _ => none

/-- The data as a flag. -/
def flag? : Datum → Option Bool
  | .flag b => some b
  | .scalar s .plain _ => Word.flag? s
  | .scalar s .literal tag => if tag = some (coreTag "bool") then Word.flag? s else none
  | _ => none

/-- The data as a signed integer. -/
def integer? (d : Datum) : Option Int :=
  let signed (n : Int) : Option Int :=
    if Number.minInteger ≤ n && n ≤ Number.maxSigned then some n else none
  match d with
  | .number n => n.toSigned?
  | .scalar s .plain _ => (Word.integer? s).bind signed
  | .scalar s .literal tag =>
    if tag = some (coreTag "int") then (Word.integer? s).bind signed else none
  | _ => none

/-- The data as a value that may be absent. In a document, nothing at all and the words for null
are absent unless quoted; a null tag allows only these words. -/
def optional? {α : Type} (read : Datum → Option α) (d : Datum) : Option (Option α) :=
  match d with
  | .null => some none
  | .scalar s .plain none => if s.isEmpty || Word.isNull s then some none else (read d).map some
  | .scalar s .plain (some tag) =>
    if tag = coreTag "null" then (if Word.isNull s then some none else none)
    else (read d).map some
  | _ => (read d).map some

/-- The items of a list. Nothing at all, in a document, is a list without items. -/
def items? : Datum → Option (List Datum)
  | .list items => some items
  | .sequence items => some items
  | .labelled inner => inner.items?
  | .scalar s .plain _ => if s.isEmpty then some [] else none
  | _ => none

/-- The data as a list of values. -/
def list? {α : Type} (read : Datum → Option α) (d : Datum) : Option (List α) := do
  (← d.items?).mapM read

/-- The entries of a record. Nothing at all, in a document, is a record without entries. -/
def entries? : Datum → Option (List (Datum × Datum))
  | .record entries => some entries
  | .labelled inner => inner.entries?
  | .scalar s .plain _ => if s.isEmpty then some [] else none
  | _ => none

/-- The entries of a record, by the texts of their keys. -/
def namedEntries? (d : Datum) : Option (List (String × Datum)) := do
  (← d.entries?).mapM fun e => e.1.text?.map (·, e.2)

/-- The data as a map from texts, where the last value of a key wins. -/
def map? {α : Type} (read : Datum → Option α) (d : Datum) : Option (KeyMap α) := do
  let entries ← (← d.namedEntries?).mapM fun e => (read e.2).map (e.1, ·)
  return KeyMap.ofList entries

mutual

/-- The data as a value without any expectation. A tag must be one of the core tags, or not one of
the document's own. -/
def toJson? : Datum → Option Json
  | .null => some .null
  | .flag b => some (.bool b)
  | .number n => some (.num n)
  | .text s => some (.str s)
  | .scalar s style none => if style = .plain then Word.toJson? s else some (.str s)
  | .scalar s _ (some tag) =>
    if tag.startsWith "!" then none
    else if tag = coreTag "bool" then (Word.flag? s).map .bool
    else if tag = coreTag "null" then (if Word.isNull s then some .null else none)
    else if tag = coreTag "int" then
      match Word.integer? s with
      | some n =>
        if Number.minInteger ≤ n && n ≤ Number.maxInteger then some (.int n) else none
      | none => none
    else if tag = coreTag "float" then
      match Word.decimal? s with
      | some (.finite x) => some (.num (.float x))
      | some .notFinite => some .null
      | none => none
    else some (.str s)
  | .list items => (toJsonItems? items).map .arr
  | .sequence items => (toJsonItems? items).map .arr
  | .record entries => (toJsonEntries? entries).map Json.ofEntries
  | .labelled _ => none
  | .cyclic => none

/-- The items of a list as values. -/
def toJsonItems? : List Datum → Option (List Json)
  | [] => some []
  | d :: rest => do
    let v ← toJson? d
    let others ← toJsonItems? rest
    some (v :: others)

/-- The entries of a record as values under texts. -/
def toJsonEntries? : List (Datum × Datum) → Option (List (String × Json))
  | [] => some []
  | (k, d) :: rest => do
    let key ← k.text?
    let v ← toJson? d
    let others ← toJsonEntries? rest
    some ((key, v) :: others)

end

/-- The fields found in a record. -/
structure Fields where
  /-- Whether the record is written as a list of its fields in order. -/
  positional : Bool
  found : List (String × Datum)

namespace Fields

/-- Whether one of the names occurs twice. -/
def repeats (names : List String) (entries : List (String × Datum)) : Bool :=
  names.any fun n => 1 < (entries.filter fun e => e.1 = n).length

/-- The fields of a record with the given names in order. A field may stand there once only, and
unknown ones are ignored. A list gives the fields in order, the last ones may be missing. -/
def ofDatum? (names : List String) (d : Datum) : Option Fields :=
  match d with
  | .list items =>
    if items.length ≤ names.length then some ⟨true, names.zip items⟩ else none
  | _ => do
    let entries ← d.namedEntries?
    if repeats names entries then none else some ⟨false, entries⟩

/-- The data of a field. -/
def get? (f : Fields) (name : String) : Option Datum := KeyMap.lookup name f.found

variable {α : Type}

/-- A field that must be there. -/
def required (f : Fields) (name : String) (read : Datum → Option α) : Option α := do
  read (← f.get? name)

/-- A field that has a default. -/
def defaulted (f : Fields) (name : String) (read : Datum → Option α) (default : α) : Option α :=
  match f.get? name with
  | none => some default
  | some d => read d

/-- A field that may be absent, or be given as null. -/
def optional (f : Fields) (name : String) (read : Datum → Option α) : Option (Option α) :=
  f.defaulted name (optional? read) none

/-- A field that may be absent in a record, but not in a list of fields; it may be given as
null. -/
def nullable (f : Fields) (name : String) (read : Datum → Option α) : Option (Option α) :=
  if f.positional && (f.get? name).isNone then none else f.optional name read

end Fields

end Datum

end MonitorSync
