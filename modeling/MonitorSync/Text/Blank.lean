set_option autoImplicit false

/-!
# Blank characters

## Main definitions

* `isBlank` — the characters that Unicode counts as white space
* `trimBlanks`, `trimBlanksStart`, `trimBlanksEnd` — a text without blanks at its ends
-/

namespace MonitorSync

/-- Whether a character is white space. -/
def isBlank (c : Char) : Bool :=
  let n := c.toNat
  (9 ≤ n && n ≤ 13) || n = 32 || n = 0x85 || n = 0xA0 || n = 0x1680 || (0x2000 ≤ n && n ≤ 0x200A)
    || n = 0x2028 || n = 0x2029 || n = 0x202F || n = 0x205F || n = 0x3000

/-- Removes the characters at the end that satisfy `p`. -/
def dropEndWhile (p : Char → Bool) (cs : List Char) : List Char := (cs.reverse.dropWhile p).reverse

/-- Removes the characters at both ends that satisfy `p`. -/
def trimWhile (p : Char → Bool) (cs : List Char) : List Char := dropEndWhile p (cs.dropWhile p)

/-- A text without blanks in front. -/
def trimBlanksStart (s : String) : String := String.ofList (s.toList.dropWhile isBlank)

/-- A text without blanks at its end. -/
def trimBlanksEnd (s : String) : String := String.ofList (dropEndWhile isBlank s.toList)

/-- A text without blanks at either end. -/
def trimBlanks (s : String) : String := String.ofList (trimWhile isBlank s.toList)

end MonitorSync
