import MonitorSync.Mustache.Piece
import MonitorSync.Text.Blank
set_option autoImplicit false

/-!
# Blanks around tags

A tag that is not a value and stands alone on its line takes the line with it, and a mark at either
end of a tag removes the blanks on that side.

## Main definitions

* `Mustache.Spacing` — what the tags so far ask of the text that comes next
* `Mustache.layOut` — pieces with the blanks around tags removed
-/

namespace MonitorSync

namespace Mustache

/-- What the tags so far ask of the text that comes next. -/
structure Spacing where
  /-- All blanks in front are to be removed. -/
  trim : Bool := false
  /-- The rest of the line is to be removed, if it is blank. -/
  trimLine : Bool := false

/-- Removes a line break in front. -/
def dropBreak : List Char → List Char
  | '\r' :: '\n' :: rest => rest
  | '\n' :: rest => rest
  | cs => cs

/-- A text as the tags before it ask for. -/
def Spacing.adjust (s : Spacing) (cs : List Char) : List Char :=
  if s.trim then cs.dropWhile isBlank
  else if s.trimLine then dropBreak (cs.dropWhile Piece.isSpace)
  else cs

/-- Removes the characters at the end of a text piece that satisfy `p`. -/
def trimLast (p : Char → Bool) : List Piece → List Piece
  | .text cs :: rest => .text (dropEndWhile p cs) :: rest
  | pieces => pieces

/-- Whether a tag that stands alone on its line takes the line with it. -/
def Tag.takesLine : Tag → Bool
  | .value _ => false
  | _ => true

/-- Whether the blanks before a tag that stands alone on its line are removed. Those before a
partial template stay, as they indent it. -/
def Tag.dropsIndent : Tag → Bool
  | .value _ | .include _ => false
  | _ => true

/-- Whether a tag settles the blanks behind it. A comment leaves this to the tag before it. -/
def Tag.settlesTrim : Tag → Bool
  | .comment => false
  | _ => true

/-- Adds a piece to the pieces so far, newest first. Text of nothing but blanks vanishes where all
blanks are removed, and what is asked of the next text then stands. -/
def layOutPiece (state : List Piece × Spacing) (piece : Piece) : List Piece × Spacing :=
  let (done, spacing) := state
  match piece with
  | .text cs =>
    if cs.all isGap then
      if spacing.trim then (done, spacing)
      else (.text (spacing.adjust cs) :: done, { spacing with trimLine := false })
    else (.text (spacing.adjust cs) :: done, { spacing with trimLine := false })
  | .raw cs => (.text (spacing.adjust cs) :: done, spacing)
  | .tag t =>
    let done := if t.trimBefore then trimLast isBlank done else done
    let done := if t.alone && t.tag.dropsIndent then trimLast Piece.isSpace done else done
    let trim := if t.tag.settlesTrim then t.trimAfter else spacing.trim
    let trimLine := if t.tag.takesLine then t.alone else spacing.trimLine
    (.tag t :: done, ⟨trim, trimLine⟩)

/-- The pieces of a template with the blanks around tags removed. -/
def layOut (pieces : List Piece) : List Piece := (pieces.foldl layOutPiece ([], {})).1.reverse

end Mustache

end MonitorSync
