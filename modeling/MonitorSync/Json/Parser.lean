import MonitorSync.Json.Basic
set_option autoImplicit false

/-!
# Reading a value from its text

Reading has two steps. A text is cut into tokens by an automaton that sees one character at a
time, and the tokens are assembled by an automaton that keeps the open lists and objects on a
stack. Both run once over their input, so reading ends whatever the input is.

## Main definitions

* `Json.Token` — brackets, separators and scalars
* `Json.Token.scan` — the tokens of a text
* `Json.readTokens` — the value that a list of tokens writes
* `Json.readRaw?` — reading a text, entries of objects as they are written
* `Json.canonical` — entries by increasing key, where the last value of a key wins
* `Json.read?` — reading a text into its canonical value
-/

namespace MonitorSync

namespace Json

/-- A token of the notation. -/
inductive Token where
  | openList
  | closeList
  | openObject
  | closeObject
  | comma
  | colon
  | scalar (value : Json)
  /-- A scalar that can be skipped but not read, with a readable one of its kind: a number above the
  range of doubles, or a text with half a pair. -/
  | unread (standIn : Json)

namespace Token

/-- The place of the scanner between two characters. Texts are collected in reverse; nothing is
collected of a text with half a pair. -/
inductive Place where
  /-- Between two tokens. -/
  | between
  /-- In a number or a word such as `true`. -/
  | word (seen : List Char)
  /-- In a quoted text. -/
  | text (seen : Option (List Char))
  /-- After a backslash. -/
  | escape (seen : Option (List Char))
  /-- In the four hex digits of an escape, after the first half of a pair if there is one. -/
  | code (seen : Option (List Char)) (first : Option Nat) (digits value : Nat)
  /-- After the first half of a pair. -/
  | half (seen : Option (List Char)) (first : Nat)
  /-- After the first half of a pair and a backslash. -/
  | halfEscape (seen : Option (List Char)) (first : Nat)

/-- The value of a hex digit. -/
def hexValue? (c : Char) : Option Nat :=
  if '0' ≤ c && c ≤ '9' then some (c.toNat - 48)
  else if 'a' ≤ c && c ≤ 'f' then some (c.toNat - 87)
  else if 'A' ≤ c && c ≤ 'F' then some (c.toNat - 55)
  else none

/-- The number that decimal digits write. -/
def digitsValue (digits : List Char) : Nat :=
  digits.foldl (fun n c => 10 * n + (c.toNat - 48)) 0

/-- The sign and digits of an exponent; the whole text must be used. -/
def readExponent? (cs : List Char) : Option Int :=
  match cs with
  | [] => some 0
  | e :: rest =>
    if e = 'e' || e = 'E' then
      let (negative, digits) := match rest with
        | '-' :: r => (true, r)
        | '+' :: r => (false, r)
        | r => (false, r)
      if digits.isEmpty || !digits.all Char.isDigit then none
      else
        let n : Int := digitsValue digits
        some (if negative then -n else n)
    else none

/-- The fraction digits, and what follows them. -/
def readFraction? (cs : List Char) : Option (List Char × List Char) :=
  match cs with
  | '.' :: rest =>
    let digits := rest.takeWhile Char.isDigit
    if digits.isEmpty then none else some (digits, rest.dropWhile Char.isDigit)
  | _ => some ([], cs)

/-- Appends decimal digits to a significand as long as 64 bits hold it; the digits that no longer
fit are left over. -/
def extendSignificand (significand : Nat) : List Char → Nat × List Char
  | [] => (significand, [])
  | c :: rest =>
    let next := 10 * significand + (c.toNat - 48)
    if next < twoPow 64 then extendSignificand next rest else (significand, c :: rest)

/-- The parts of a written number. -/
structure Numeral where
  negative : Bool
  whole : List Char
  fraction : List Char
  exponent : Int
  /-- Whether it has neither a fraction nor an exponent. -/
  isWhole : Bool

/-- Takes a written number apart. -/
def readNumeral? (cs : List Char) : Option Numeral := do
  let (negative, body) := match cs with
    | '-' :: r => (true, r)
    | r => (false, r)
  let whole := body.takeWhile Char.isDigit
  let rest := body.dropWhile Char.isDigit
  if whole.isEmpty || (whole.length ≠ 1 && whole.head? = some '0') then none
  let (fraction, tail) ← readFraction? rest
  return ⟨negative, whole, fraction, ← readExponent? tail, rest.isEmpty⟩

/-- The number that is written. Without fraction and exponent it is an integer if 64 bits hold it;
a negative zero is a double. The digits of a double that 64 bits do not hold are dropped, and a
number above the range of doubles is refused. -/
def Numeral.value? (n : Numeral) : Option Number := do
  if n.isWhole then
    let size : Int := digitsValue n.whole
    let value := if n.negative then -size else size
    if Number.minInteger ≤ value && value ≤ Number.maxInteger && !(n.negative && size = 0) then
      return .integer value
  let (significand, skipped) := extendSignificand 0 n.whole
  let (significand, ignored) := extendSignificand significand n.fraction
  let scale : Int := n.exponent + skipped.length - (n.fraction.length - ignored.length : Nat)
  let x ← Binary64.ofDigits n.negative significand scale
  return .float x

/-- The number a text writes. -/
def readNumber? (cs : List Char) : Option Number := do (← readNumeral? cs).value?

/-- The scalar that a word writes. -/
def readWord? (word : List Char) : Option Token :=
  match String.ofList word with
  | "null" => some (.scalar .null)
  | "true" => some (.scalar (.bool true))
  | "false" => some (.scalar (.bool false))
  | _ => (readNumeral? word).map fun n => n.value?.elim (.unread .null) (.scalar ∘ .num)

/-- The text that was collected between quotes. -/
def ofText (seen : Option (List Char)) : Token :=
  match seen with
  | some cs => .scalar (.str (String.ofList cs.reverse))
  | none => .unread (.str "")

/-- Whether a character may stand in a number or a word. -/
def isWordChar (c : Char) : Bool :=
  c.isAlphanum || c = '-' || c = '+' || c = '.'

/-- Enters the token that starts with `c`. -/
def start (done : List Token) (c : Char) : Option (Place × List Token) :=
  if c = ' ' || c = '\n' || c = '\t' || c = '\r' then some (.between, done)
  else if c = '[' then some (.between, .openList :: done)
  else if c = ']' then some (.between, .closeList :: done)
  else if c = '\x7b' then some (.between, .openObject :: done)
  else if c = '\x7d' then some (.between, .closeObject :: done)
  else if c = ',' then some (.between, .comma :: done)
  else if c = ':' then some (.between, .colon :: done)
  else if c = '"' then some (.text (some []), done)
  else if isWordChar c then some (.word [c], done)
  else none

/-- The character of a one-letter escape. -/
def escaped? (c : Char) : Option Char :=
  if c = '"' || c = '\\' || c = '/' then some c
  else if c = 'b' then some '\x08'
  else if c = 'f' then some '\x0c'
  else if c = 'n' then some '\n'
  else if c = 'r' then some '\r'
  else if c = 't' then some '\t'
  else none

/-- What the four hex digits of an escape stand for: the first half of a pair waits for its second
half, and a text with a half without the other cannot be read. -/
def finishCode (seen : Option (List Char)) (first : Option Nat) (value : Nat) : Place :=
  let isFirst := 0xD800 ≤ value && value < 0xDC00
  let isSecond := 0xDC00 ≤ value && value < 0xE000
  match first with
  | none =>
    if isFirst then .half seen value
    else if isSecond then .text none
    else .text (seen.map (Char.ofNat value :: ·))
  | some high =>
    if isSecond then
      let c := Char.ofNat (0x10000 + (high - 0xD800) * 0x400 + (value - 0xDC00))
      .text (seen.map (c :: ·))
    else .text none

/-- Moves the scanner over one character of a text. -/
def stepText (seen : Option (List Char)) (done : List Token) (c : Char) :
    Option (Place × List Token) :=
  if c = '"' then some (.between, ofText seen :: done)
  else if c = '\\' then some (.escape seen, done)
  else if c.toNat < 32 then none
  else some (.text (seen.map (c :: ·)), done)

/-- Moves the scanner over the character after a backslash. -/
def stepEscape (seen : Option (List Char)) (done : List Token) (c : Char) :
    Option (Place × List Token) :=
  if c = 'u' then some (.code seen none 0 0, done)
  else (escaped? c).map fun e => (.text (seen.map (e :: ·)), done)

/-- Moves the scanner over one character. -/
def step (state : Place × List Token) (c : Char) : Option (Place × List Token) :=
  let (place, done) := state
  match place with
  | .between => start done c
  | .word seen =>
    if isWordChar c then some (.word (c :: seen), done)
    else do
      let token ← readWord? seen.reverse
      start (token :: done) c
  | .text seen => stepText seen done c
  | .escape seen => stepEscape seen done c
  | .code seen first digits value => do
    let d ← hexValue? c
    let value := 16 * value + d
    let next := if digits = 3 then finishCode seen first value
      else .code seen first (digits + 1) value
    some (next, done)
  | .half seen first =>
    if c = '\\' then some (.halfEscape seen first, done) else stepText none done c
  | .halfEscape seen first =>
    if c = 'u' then some (.code seen (some first) 0 0, done) else stepEscape none done c

/-- The tokens of a text. -/
def scan (text : String) : Option (List Token) := do
  let (place, done) ← text.toList.foldlM step (.between, [])
  match place with
  | .between => some done.reverse
  | .word seen => do
    let token ← readWord? seen.reverse
    some (token :: done).reverse
  | _ => none

end Token

/-- An open list or object, its content in reverse. -/
inductive Frame where
  | list (items : List Json)
  | object (entries : List (String × Json)) (key : String)

/-- What may come next. -/
inductive Expected where
  | value
  | valueOrClose
  | key (entries : List (String × Json))
  | keyOrClose
  | colon (entries : List (String × Json)) (key : String)
  | separator (inner : Json)
  | finished (value : Json)

/-- The greatest number of lists and objects open at once in a value that is read. -/
def maxDepth : Nat := 127

/-- Puts a finished value where it belongs: it is the whole value, or ready to go into the
innermost open list or object. -/
def finish (stack : List Frame) (value : Json) : Expected :=
  if stack.isEmpty then .finished value else .separator value

/-- Opens a list or object, of which no more than a limit may be open if there is one. -/
def push (limit : Option Nat) (stack : List Frame) (frame : Frame) : Option (List Frame) :=
  if limit.any (· ≤ stack.length) then none else some (frame :: stack)

/-- Starts a value at a token. -/
def startValue (limit : Option Nat) (stack : List Frame) : Token → Option (List Frame × Expected)
  | .openList => (push limit stack (.list [])).map (·, .valueOrClose)
  | .openObject => (push limit stack (.object [] "")).map (·, .keyOrClose)
  | .scalar v => some (stack, finish stack v)
  | _ => none

/-- Moves the assembly over one token. -/
def assemble (limit : Option Nat) (state : List Frame × Expected) (token : Token) :
    Option (List Frame × Expected) :=
  let (stack, expected) := state
  match expected, token, stack with
  | .finished _, _, _ => none
  | .value, t, _ => startValue limit stack t
  | .valueOrClose, .closeList, .list items :: rest =>
    some (rest, finish rest (.arr items.reverse))
  | .valueOrClose, t, _ => startValue limit stack t
  | .keyOrClose, .closeObject, .object entries _ :: rest =>
    some (rest, finish rest (.obj entries.reverse))
  | .keyOrClose, .scalar (.str k), .object entries _ :: _ => some (stack, .colon entries k)
  | .key entries, .scalar (.str k), _ => some (stack, .colon entries k)
  | .colon entries k, .colon, .object _ _ :: rest => some (.object entries k :: rest, .value)
  | .separator v, .comma, .list items :: rest => some (.list (v :: items) :: rest, .value)
  | .separator v, .closeList, .list items :: rest =>
    some (rest, finish rest (.arr (v :: items).reverse))
  | .separator v, .comma, .object entries k :: _ => some (stack, .key ((k, v) :: entries))
  | .separator v, .closeObject, .object entries k :: rest =>
    some (rest, finish rest (.obj ((k, v) :: entries).reverse))
  | _, _, _ => none

/-- The value that a list of tokens writes. -/
def readTokens (tokens : List Token) : Option Json := do
  let (_, expected) ← tokens.foldlM (assemble (some maxDepth)) ([], .value)
  match expected with
  | .finished v => some v
  | _ => none

/-- Reads a text; the entries of an object are kept as they are written, repeated keys
included. -/
def readRaw? (text : String) : Option Json := do
  readTokens (← Token.scan text)

mutual

/-- Orders the entries of every object by key; of two entries of one key the last wins. -/
def canonical : Json → Json
  | .arr items => .arr (canonicalItems items)
  | .obj entries => .obj (canonicalEntries [] entries)
  | .null => .null
  | .bool b => .bool b
  | .num n => .num n
  | .str s => .str s

/-- Brings list items into canonical form. -/
def canonicalItems : List Json → List Json
  | [] => []
  | v :: rest => canonical v :: canonicalItems rest

/-- Adds entries in canonical form to a sorted list of entries. -/
def canonicalEntries (done : List (String × Json)) :
    List (String × Json) → List (String × Json)
  | [] => done
  | (k, v) :: rest => canonicalEntries (KeyMap.insertEntry k (canonical v) done) rest

end

/-- Reads a text into its canonical value. -/
def read? (text : String) : Option Json := (readRaw? text).map canonical

end Json

end MonitorSync
