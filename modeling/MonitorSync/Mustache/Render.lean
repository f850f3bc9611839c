import MonitorSync.Mustache.Helper
import MonitorSync.Mustache.Template
set_option autoImplicit false

/-!
# Rendering a template

Rendering walks over the elements of a template with the data it is given. Blocks change what is
current, definitions add partial templates that later elements may call, and assignments add to the
data.

## Main definitions

* `Mustache.Scope` — what is current in a block
* `Mustache.lookupPath` — the value of a path
* `Mustache.evaluate` — the value of an expression
* `Mustache.Template.render` — the text of a template
-/

namespace MonitorSync

namespace Mustache

/-- What is current in a block: its data, the variables of a loop, and the values it named. -/
structure Scope where
  /-- The data of the block, or nothing for that of the whole template. -/
  data : Option Json := none
  loop : List (String × Json) := []
  params : List (String × Json) := []

/-- The value under a name: the value of an object's key or the item of a list. The items of a
list have numbers for names. -/
def step (v : Json) (name : String) : Except String Json :=
  match v with
  | .obj entries => .ok ((KeyMap.lookup name entries).getD .null)
  | .arr items =>
    let digits := match name.toList with
      | '+' :: rest => rest
      | cs => cs
    if !digits.isEmpty && digits.all Char.isDigit && Json.Token.digitsValue digits < twoPow 64 then
      .ok (items[Json.Token.digitsValue digits]?.getD .null)
    else .error "index of a list is not a number"
  | _ => .ok .null

/-- The value at the end of a list of names. -/
def walk (v : Json) (names : List String) : Except String Json := names.foldlM step v

/-- The value that a block gave a name to, innermost first. -/
def param? (name : String) (scopes : List Scope) : Option Json :=
  scopes.findSome? fun s => KeyMap.lookup name s.params

/-- The value of a path. A path that goes further out than there are blocks starts at what is
current. -/
def lookupPath (root : Json) (scopes : List Scope) (p : Path) : Except String Json :=
  match p.start with
  | .root => walk root p.names
  | .loop =>
    let loop := (scopes[p.ups]?.map Scope.loop).getD []
    .ok ((p.names.head?.bind (KeyMap.lookup · loop)).getD .null)
  | .current =>
    match p.names.head?.bind (param? · scopes) with
    | some v => walk v (p.names.drop 1)
    | none =>
      let start := (scopes[p.ups]?.orElse fun _ => scopes.head?).map fun s => s.data.getD root
      walk (start.getD .null) p.names

/-- The text so far, in reverse, and what rendering remembers beside it. -/
structure Page where
  /-- The data of the template, with what was assigned. -/
  data : Json
  chunks : List String := []
  /-- The blanks in front of the lines of a partial template. -/
  indent : String := ""
  /-- Whether the text so far ends with a line break. -/
  atLineStart : Bool := false
  /-- The partial templates defined so far, newest first. -/
  partials : List (String × List Element) := []
  /-- The texts of the calls of partial templates that are being rendered. -/
  fallbacks : List (List Element) := []

/-- A step of rendering. -/
abbrev Rendering := StateT Page (Except String)

/-- Adds a value to the data of the template. -/
def assign (a : Arguments) : Rendering Unit := do
  let name ← a.text 0
  let value ← a.get 1
  let page ← get
  if page.data.isObject then set { page with data := page.data.set name value }
  else throw "nothing can be assigned"

/-- The value of a helper's call in parentheses. A directive gives what it would print without a
block, which is nothing. -/
def callHelper (name : String) (a : Arguments) : Rendering Json := do
  if let some helper := valueHelper? name then return ← helper a
  if !isDirective name then throw "unknown helper"
  match name with
  | "assign" => assign a
  | "raw" | "to_json" | "from_json" => pure ()
  | "log" =>
    if let some (.str level) := a.named? "level" then
      unless ["error", "warn", "info", "debug", "trace"].contains (level.map Char.toLower) do
        throw "unknown level"
  | _ => discard (a.get 0)
  return .str ""

mutual

/-- The value of an expression. -/
def evaluate (tools : Tools) (scopes : List Scope) : Expr → Rendering Json
  | .literal v => return v
  | .path p => do lookupPath (← get).data scopes p
  | .call name args named => do
    let args ← evaluateAll tools scopes args
    let named ← evaluateNamed tools scopes named
    callHelper name ⟨tools, args, named⟩

/-- The values of positional arguments. -/
def evaluateAll (tools : Tools) (scopes : List Scope) : List Expr → Rendering (List Json)
  | [] => return []
  | e :: rest => do
    let v ← evaluate tools scopes e
    let others ← evaluateAll tools scopes rest
    return v :: others

/-- The values of named arguments. -/
def evaluateNamed (tools : Tools) (scopes : List Scope) :
    List (String × Expr) → Rendering (List (String × Json))
  | [] => return []
  | (name, e) :: rest => do
    let v ← evaluate tools scopes e
    let others ← evaluateNamed tools scopes rest
    return (name, v) :: others

end

/-- A text with an indent after every line break but one at the end. -/
def indented (indent : String) (s : String) : String :=
  let lines := splitAtPattern ['\n'] s.toList
  let last := lines.length - 1
  String.join <| lines.zipIdx.map fun (line, i) =>
    let text := String.ofList line ++ (if i = last then "" else "\n")
    if i = 0 || (i = last && line.isEmpty) then text else indent ++ text

/-- Adds text to a page. -/
def Page.write (p : Page) (s : String) : Page :=
  if s.isEmpty then p
  else
    let startsWithBreak := s.toList.head?.any Piece.isBreak
    let front := if p.atLineStart && !startsWithBreak then p.indent else ""
    let text := front ++ (if p.indent.isEmpty then s else indented p.indent s)
    { p with chunks := text :: p.chunks, atLineStart := s.toList.getLast?.any Piece.isBreak }

/-- Prints text. -/
def write (s : String) : Rendering Unit := modify fun p => p.write s

/-- The text that is printed, which is kept off the page. -/
def captured (work : Rendering Unit) : Rendering String := do
  let before ← get
  set { before with chunks := [] }
  work
  let after ← get
  set { after with chunks := before.chunks, atLineStart := before.atLineStart }
  return String.join after.chunks.reverse

/-- The names that a block gives to its value and to the value's key or position. -/
def blockParams (params : List String) (value key : Json) : List (String × Json) :=
  match params with
  | [] => []
  | [name] => [(name, value)]
  | first :: second :: _ => [(second, key), (first, value)]

/-- The scopes of a loop over named values, one for each. -/
def loopScopes (head : Head) (keyName : String) (values : List (Json × Json)) : List Scope :=
  let last := values.length - 1
  values.zipIdx.map fun ((key, value), i) =>
    { data := some value
      loop := [("first", .bool (i = 0)), ("last", .bool (i = last)), (keyName, key)]
      params := blockParams head.params value key }

/-- What a block prints, as the parts to print and the scope of each; no scope leaves what is
current. -/
def blockParts (head : Head) (arguments : Arguments) (body : List Element)
    (inverse : Option (List Element)) : Rendering (List (Option Scope × List Element)) := do
  let otherwise := inverse.toList.map fun elements => (none, elements)
  match head.name with
  | "if" | "unless" =>
    let value ← arguments.get 0
    let includeZero := match arguments.named? "includeZero" with
      | some (.bool b) => b
      | _ => false
    let positive := isTruthy includeZero value
    return if positive = (head.name = "if") then [(none, body)] else otherwise
  | "with" =>
    let value ← arguments.get 0
    if isTruthy false value then
      let params := match head.params with
        | [name] => [(name, value)]
        | _ => []
      return [(some { data := some value, params := params }, body)]
    else return otherwise
  | "each" =>
    match ← arguments.get 0 with
    | .arr (item :: items) =>
      let values := (item :: items).zipIdx.map fun (v, i) => (Json.nat i, v)
      return (loopScopes head "index" values).map fun s => (some s, body)
    | .obj (entry :: entries) =>
      let values := (entry :: entries).map fun e => (Json.str e.1, e.2)
      return (loopScopes head "key" values).map fun s => (some s, body)
    | .arr [] | .obj [] | _ => return otherwise
  | "raw" => return [(none, body)]
  | name =>
    let value ← callHelper name arguments
    return [(none, [.value (.literal value)])]

/-- The data of a partial template that is called with named values. -/
def mergedData (base : Json) (named : List (String × Json)) : Json :=
  let entries := match base with
    | .obj entries => entries
    | _ => []
  .obj ((KeyMap.mk entries).extendList named).entries

/-- The scopes in which a partial template is rendered: those of its call, unless it is called with
a path or named values. -/
def partialScopes (tools : Tools) (scopes : List Scope) (call : PartialCall) :
    Rendering (List Scope) := do
  let args ← evaluateAll tools scopes call.args
  let named ← evaluateNamed tools scopes call.named
  let isPath := match call.args with
    | .path _ :: _ => true
    | _ => false
  let root := (← get).data
  let current := (scopes.head?.map fun s => s.data.getD root).getD .null
  if !named.isEmpty then return [{ data := some (mergedData (args.head?.getD current) named) }]
  else if isPath then return [{ data := some (args.head?.getD .null) }]
  else return scopes

mutual

/-- Renders elements in order. -/
def renderAll (fuel : Nat) (tools : Tools) (scopes : List Scope) (elements : List Element) :
    Rendering Unit :=
  match fuel with
  | 0 => throw "nested too deeply"
  | fuel + 1 => elements.forM (renderElement fuel tools scopes)

/-- Renders an element. -/
def renderElement (fuel : Nat) (tools : Tools) (scopes : List Scope) (e : Element) :
    Rendering Unit :=
  match fuel with
  | 0 => throw "nested too deeply"
  | fuel + 1 =>
    match e with
    | .text s => write s
    | .value (.path p) => do
      if (valueHelper? p.raw).isSome || isDirective p.raw then
        write (printed (← callHelper p.raw ⟨tools, [], []⟩))
      else write (printed (← evaluate tools scopes (.path p)))
    | .value e => do write (printed (← evaluate tools scopes e))
    | .block head body inverse => do
      let args ← evaluateAll tools scopes head.args
      let named ← evaluateNamed tools scopes head.named
      let arguments : Arguments := ⟨tools, args, named⟩
      match convertedText? head.name with
      | some convert => do
        let text ← captured (renderAll fuel tools scopes body)
        write (← convert arguments text)
      | none => do
        let parts ← blockParts head arguments body inverse
        parts.forM fun part => renderAll fuel tools (part.1.toList ++ scopes) part.2
    | .definition head body => do
      let args ← evaluateAll tools scopes head.args
      match head.name, args, body with
      | "inline", .str name :: _, some elements =>
        modify fun p => { p with partials := (name, elements) :: p.partials }
      | _, _, _ => throw "unknown definition"
    | .include call fallback indent => renderInclude fuel tools scopes call fallback indent

/-- Renders a partial template, or the text of its call if it does not exist. -/
def renderInclude (fuel : Nat) (tools : Tools) (scopes : List Scope) (call : PartialCall)
    (fallback : Option (List Element)) (indent : String) : Rendering Unit :=
  match fuel with
  | 0 => throw "nested too deeply"
  | fuel + 1 => do
    if let some elements := fallback then
      let before ← get
      -- definitions inside the call are made before the partial template is looked up
      elements.forM fun e => match e with
        | .definition _ _ => renderElement fuel tools scopes e
        | _ => pure ()
      modify fun p => { p with chunks := before.chunks }
    let inner ← partialScopes tools scopes call
    let page ← get
    let isCallText := call.name = "@partial-block"
    let found := if isCallText then page.fallbacks.head?
      else (KeyMap.lookup call.name page.partials).orElse fun _ => fallback
    let some elements := found | throw "unknown partial template"
    let fallbacks := if isCallText then page.fallbacks.drop 1
      else fallback.toList ++ page.fallbacks
    set { page with fallbacks := fallbacks, indent := page.indent ++ indent, atLineStart := false }
    renderAll fuel tools inner elements
    modify fun p => { p with fallbacks := page.fallbacks, indent := page.indent }

end

/-- The number of partial templates that may be open within one another. -/
def partialDepth : Nat := 30

/-- The text of a template. The depth of blocks is bounded by the length of the template. -/
def Template.render (tools : Tools) (t : Template) (text : String) (data : Json) :
    Except String String := do
  let fuel := (text.length + 4) * partialDepth
  let ((), page) ← (renderAll fuel tools [{}] t.elements).run { data := data }
  return String.join page.chunks.reverse

/-- The text of a template that is given as text. -/
def renderText (tools : Tools) (template : String) (data : Json) : Except String String :=
  match Template.read? template with
  | some t => t.render tools template data
  | none => .error "not a template"

end Mustache

end MonitorSync
