import MonitorSync.Encoding.Base64
import MonitorSync.Text.Blank
import MonitorSync.Text.Replace
set_option autoImplicit false

/-!
# Blocks of encoded bytes in a text

A block stands between a line that starts with `-----BEGIN ` and one that starts with `-----END `,
and holds base64 digits. Whatever stands outside of blocks is ignored, and so are blocks that cannot
be read.

## Main definitions

* `Pem.lines` — the lines of a list of bytes
* `Pem.blocks` — the contents of the blocks that can be read
-/

namespace MonitorSync

namespace Pem

/-- The lines of a list of bytes, without their line feeds; `line` is the present one in reverse. -/
def linesFrom : List UInt8 → List UInt8 → List (List UInt8)
  | line, [] => if line.isEmpty then [] else [line.reverse]
  | line, b :: rest =>
    if b = 10 then line.reverse :: linesFrom [] rest else linesFrom (b :: line) rest

/-- The lines of a list of bytes. -/
def lines (bytes : List UInt8) : List (List UInt8) := linesFrom [] bytes

/-- Five dashes, which enclose the label of a block. -/
def dashes : List Char := "-----".toList

/-- Whether a line starts a block. -/
def opens (line : String) : Bool :=
  line.startsWith "-----BEGIN " && 3 ≤ (splitAtPattern dashes line.toList).length

/-- What the lines so far amount to: the digits of the open block, if there is one, and the contents
of the blocks so far, newest first. -/
structure Scan where
  digits : Option (List Char) := none
  found : List (List UInt8) := []

/-- Reads one line. A line inside a block that is not text spoils the block. -/
def Scan.line (s : Scan) (bytes : List UInt8) : Scan :=
  match s.digits, utf8Text? bytes with
  | none, none => s
  | none, some line => if opens line then { s with digits := some [] } else s
  | some _, none => { s with digits := none }
  | some digits, some line =>
    if line.startsWith "-----END " then
      ⟨none, (Base64.decode? digits).toList ++ s.found⟩
    else { s with digits := some (digits ++ dropEndWhile isBlank line.toList) }

/-- The contents of the blocks that can be read, in order. -/
def blocks (bytes : List UInt8) : List (List UInt8) :=
  ((lines bytes).foldl Scan.line {}).found.reverse

end Pem

end MonitorSync
