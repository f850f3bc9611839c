import MonitorSync.Mustache.Layout
set_option autoImplicit false

/-!
# Templates

## Main definitions

* `Mustache.Element` — text, values and blocks
* `Mustache.assemble?` — the elements that pieces make up, every block closed by its own name
* `Mustache.Template.read?` — reading a template
-/

namespace MonitorSync

namespace Mustache

/-- A part of a template. -/
inductive Element where
  | text (s : String)
  | value (e : Expr)
  | block (head : Head) (body : List Element) (inverse : Option (List Element))
  /-- A definition, with what is defined. -/
  | definition (head : Head) (body : Option (List Element))
  /-- The call of a partial template, with what is printed if it does not exist. -/
  | include (call : PartialCall) (fallback : Option (List Element)) (indent : String)

/-- A template. -/
structure Template where
  elements : List Element

/-- A block that is still open. -/
inductive OpenBlock where
  /-- A block with its name, the present call, the finished parts of earlier calls in reverse, and
  whether the part for "otherwise" has begun. -/
  | block (name : String) (head : Head) (parts : List (Head × List Element)) (otherwise : Bool)
  | definition (head : Head)
  | include (call : PartialCall) (indent : String)

/-- The elements so far in the innermost open block, in reverse, and the open blocks, each with
the elements before it. -/
structure Assembly where
  current : List Element := []
  openBlocks : List (OpenBlock × List Element) := []

/-- The block of several parts: each further part is a block in the "otherwise" of the part before
it. The parts come last first. -/
def chain (inverse : Option (List Element)) : List (Head × List Element) → List Element
  | [] => inverse.getD []
  | [(head, body)] => [.block head body inverse]
  | (head, body) :: rest => chain (some [.block head body inverse]) rest

/-- Adds an element. -/
def Assembly.push (a : Assembly) (e : Element) : Assembly := { a with current := e :: a.current }

/-- Opens a block. -/
def Assembly.openUp (a : Assembly) (b : OpenBlock) : Assembly :=
  ⟨[], (b, a.current) :: a.openBlocks⟩

/-- Closes the innermost block if it has this name. -/
def Assembly.close? (a : Assembly) (closing : String) : Option Assembly :=
  match a.openBlocks with
  | [] => none
  | (b, before) :: rest =>
    let body := a.current.reverse
    match b with
    | .block name head parts otherwise =>
      if name ≠ closing then none
      else
        let elements := if otherwise then chain (some body) parts
          else chain none ((head, body) :: parts)
        some ⟨elements.reverse ++ before, rest⟩
    | .definition head =>
      if head.name = closing then some ⟨.definition head (some body) :: before, rest⟩ else none
    | .include call indent =>
      if call.name = closing then some ⟨.include call (some body) indent :: before, rest⟩
      else none

/-- Starts the part of the innermost block that stands for "otherwise". -/
def Assembly.turn? (a : Assembly) (chained : Option Head) : Option Assembly :=
  match a.openBlocks with
  | (.block name head parts false, before) :: rest =>
    let parts := (head, a.current.reverse) :: parts
    let next := match chained with
      | some head => OpenBlock.block name head parts false
      | none => .block name head parts true
    some ⟨[], (next, before) :: rest⟩
  | _ => none

/-- Adds a piece. -/
def Assembly.add? (a : Assembly) : Piece → Option Assembly
  | .text cs | .raw cs => some (a.push (.text (String.ofList cs)))
  | .tag t =>
    let indent := if t.trimBefore then "" else t.indent
    match t.tag with
    | .value e => some (a.push (.value e))
    | .openBlock head => some (a.openUp (.block head.name head [] false))
    | .otherwise chained => a.turn? chained
    | .close name => a.close? name
    | .openDefinition head => some (a.openUp (.definition head))
    | .definition head => some (a.push (.definition head none))
    | .include call => some (a.push (.include call none indent))
    | .openInclude call => some (a.openUp (.include call ""))
    | .comment => some a

/-- The elements that pieces make up. -/
def assemble? (pieces : List Piece) : Option (List Element) := do
  let a ← pieces.foldlM Assembly.add? {}
  if a.openBlocks.isEmpty then some a.current.reverse else none

/-- Reads a template. -/
def Template.read? (text : String) : Option Template := do
  let elements ← assemble? (layOut (← Piece.scan? text))
  return ⟨elements⟩

end Mustache

end MonitorSync
