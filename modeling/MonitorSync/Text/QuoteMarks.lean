import MonitorSync.Json.Parser
set_option autoImplicit false

/-!
# Texts between quote marks

## Main definitions

* `enquote` — a text between quote marks
* `unquote?` — the text between quote marks
-/

namespace MonitorSync

/-- A text between quote marks, with a backslash in front of every mark and backslash in it. -/
def enquote (mark : Char) (s : String) : String :=
  let escaped := s.toList.flatMap fun c => if c = mark || c = '\\' then ['\\', c] else [c]
  String.ofList (mark :: escaped ++ [mark])

namespace Unquote

/-- The number that digits of a base write. -/
def number? (base : Nat) (digits : List Char) : Option Nat :=
  if digits.isEmpty then none
  else digits.foldlM (fun n c => do
    let d ← Json.Token.hexValue? c
    if d < base then some (base * n + d) else none) 0

/-- The character of a number, which is below a limit. -/
def character? (limit : Nat) (n : Option Nat) : Option Char :=
  n.bind fun n => if n < limit && n.isValidChar then some (Char.ofNat n) else none

/-- The character of an escape that is one letter. -/
def letter? : Char → Option Char
  | 'a' => some '\x07'
  | 'b' => some '\x08'
  | 'f' => some '\x0c'
  | 'n' => some '\n'
  | 'r' => some '\r'
  | 't' => some '\t'
  | 'v' => some '\x0b'
  | c => if ['\\', '"', '\'', '\x60'].contains c then some c else none

/-- The character of an escape, from what follows the backslash, and the number of characters that
it takes. -/
def escape? : List Char → Option (Char × Nat)
  | [] => none
  | 'x' :: cs => (character? 256 (number? 16 (cs.take 2))).map (·, 3)
  | 'u' :: cs => (character? 0x110000 (number? 16 (cs.take 4))).map (·, 5)
  | 'U' :: cs => (character? 0x110000 (number? 16 (cs.take 8))).map (·, 9)
  | c :: cs =>
    if c.isDigit then (character? 256 (number? 8 (c :: cs.take 2))).map (·, 3)
    else (letter? c).map (·, 1)

/-- The text that is written with escapes, in which the quote mark does not stand alone. `skip`
characters still belong to an escape. -/
def unescape? (mark : Char) : Nat → List Char → Option (List Char)
  | _, [] => some []
  | skip + 1, _ :: cs => unescape? mark skip cs
  | 0, c :: cs =>
    if c = mark then none
    else if c = '\\' then do
      let (e, length) ← escape? cs
      return e :: (← unescape? mark length cs)
    else do return c :: (← unescape? mark 0 cs)

end Unquote

/-- The text between quote marks, if it is written correctly. -/
def unquote? (s : String) : Option String :=
  match s.toList with
  | mark :: cs =>
    if ['"', '\'', '\x60'].contains mark && cs.getLast? = some mark then
      (Unquote.unescape? mark 0 cs.dropLast).map String.ofList
    else none
  | [] => none

end MonitorSync
