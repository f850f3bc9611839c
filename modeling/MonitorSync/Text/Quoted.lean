import MonitorSync.Text.Unprintable
set_option autoImplicit false

/-!
# Quoted texts for diagnostics

## Main definitions

* `quoteForDisplay` — a text between quotes in which every character can be seen
-/

namespace MonitorSync

namespace DisplayQuote

/-- The visible form of a character: a short escape where there is one, the code point in braces
for a character that shows nothing alone, else the character. -/
def character (c : Char) : List Char :=
  if c = '\x00' then ['\\', '0']
  else if c = '\t' then ['\\', 't']
  else if c = '\r' then ['\\', 'r']
  else if c = '\n' then ['\\', 'n']
  else if c = '"' then ['\\', '"']
  else if c = '\\' then ['\\', '\\']
  else if isUnprintable c then
    ['\\', 'u', '\x7b'] ++ Nat.toDigits 16 c.toNat ++ ['\x7d']
  else [c]

end DisplayQuote

/-- A text between quotes in which every character can be seen. -/
def quoteForDisplay (s : String) : String :=
  String.ofList ('"' :: s.toList.flatMap DisplayQuote.character ++ ['"'])

end MonitorSync
