import MonitorSync.Json.Basic
set_option autoImplicit false

/-!
# The text of a value

## Main definitions

* `Json.quote` — a text in quotes, control characters and `"`, `\` escaped
* `Json.compact` — the text of a value without any blank
* `Json.pretty` — the text of a value over several lines
-/

namespace MonitorSync

namespace Json

/-- The lower-case hexadecimal digit of a number below sixteen. -/
def hexDigit (n : Nat) : Char :=
  if n < 10 then Char.ofNat (48 + n) else Char.ofNat (87 + n)

/-- The written form of a character inside quotes: short escapes where there is one, four hex
digits for other control characters, and any further character as it is. -/
def escapeChar (c : Char) : List Char :=
  if c = '"' then ['\\', '"']
  else if c = '\\' then ['\\', '\\']
  else if c = '\n' then ['\\', 'n']
  else if c = '\r' then ['\\', 'r']
  else if c = '\t' then ['\\', 't']
  else if c = '\x08' then ['\\', 'b']
  else if c = '\x0c' then ['\\', 'f']
  else if c.toNat < 32 then
    ['\\', 'u', '0', '0', hexDigit (c.toNat / 16), hexDigit (c.toNat % 16)]
  else [c]

/-- A text in quotes. -/
def quote (s : String) : String :=
  String.ofList ('"' :: s.toList.flatMap escapeChar ++ ['"'])

mutual

/-- The compact text of a value: no blanks, entries in their order. -/
def compact : Json → String
  | .null => "null"
  | .bool b => if b then "true" else "false"
  | .num n => n.toText
  | .str s => quote s
  | .arr items => "[" ++ String.intercalate "," (compactItems items) ++ "]"
  | .obj entries => "\x7b" ++ String.intercalate "," (compactEntries entries) ++ "\x7d"

/-- The compact texts of list items. -/
def compactItems : List Json → List String
  | [] => []
  | v :: rest => compact v :: compactItems rest

/-- The compact texts of object entries. -/
def compactEntries : List (String × Json) → List String
  | [] => []
  | (k, v) :: rest => (quote k ++ ":" ++ compact v) :: compactEntries rest

end

/-- What stands in front of the parts of a value that are `depth` levels deep. -/
def lineStart (depth : Nat) : String := "\n" ++ String.ofList (List.replicate (2 * depth) ' ')

mutual

/-- The text of a value that is `depth` levels deep, its parts on lines of their own. -/
def prettyAt (depth : Nat) : Json → String
  | .arr (v :: items) =>
    "[" ++ String.intercalate "," (prettyItems (depth + 1) (v :: items)) ++ lineStart depth ++ "]"
  | .obj (e :: entries) =>
    "\x7b" ++ String.intercalate "," (prettyEntries (depth + 1) (e :: entries)) ++
      lineStart depth ++ "\x7d"
  | v => v.compact

/-- The texts of list items, each on lines of its own. -/
def prettyItems (depth : Nat) : List Json → List String
  | [] => []
  | v :: rest => (lineStart depth ++ prettyAt depth v) :: prettyItems depth rest

/-- The texts of object entries, each on lines of its own. -/
def prettyEntries (depth : Nat) : List (String × Json) → List String
  | [] => []
  | (k, v) :: rest =>
    (lineStart depth ++ quote k ++ ": " ++ prettyAt depth v) :: prettyEntries depth rest

end

/-- The text of a value over several lines. -/
def pretty (v : Json) : String := prettyAt 0 v

end Json

end MonitorSync
