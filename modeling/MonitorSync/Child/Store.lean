import MonitorSync.Effect.Program
import MonitorSync.Kube.InMemory
import MonitorSync.Template.Spec
set_option autoImplicit false

/-!
# Where templates and children are read from

## Main definitions

* `StoreCall` — what can be asked of a store
* `StoreWork` — work on a store that ends at the first failing call
* `InMemoryStore` — a store that holds templates and children in lists
-/

namespace MonitorSync

/-- What can be asked of a store. -/
inductive StoreCall where
  | getTemplate (ns name : String)
  | getChild (kind : ChildKind) (ns name : String)
  /-- The children of every namespace that carry the label `key=value`. -/
  | listChildren (kind : ChildKind) (selector : String)
deriving DecidableEq, Repr

namespace StoreCall

/-- What a call gives when it succeeds. -/
@[reducible] def Reply : StoreCall → Type
  | getTemplate _ _ => Option Template
  | getChild _ _ _ => Option ClusterObject
  | listChildren _ _ => List ClusterObject

/-- The answer to a call. -/
@[reducible] def Answer (c : StoreCall) : Type := Except Failure c.Reply

/-- The name of the method of a call. -/
def method : StoreCall → String
  | getTemplate .. => "get_template"
  | getChild .. => "get_child"
  | listChildren .. => "list_children"

end StoreCall

/-- Work on a store. It ends at the first call that fails. -/
abbrev StoreWork (α : Type) := ExceptT Failure (Program StoreCall StoreCall.Answer) α

/-- A single call. -/
def StoreWork.call (c : StoreCall) : StoreWork c.Reply := ExceptT.mk (Program.call c)

/-- Whether labels are what a selector asks for. -/
def isSelected (selector : String) (labels : Option (KeyMap String)) : Bool :=
  let (key, value) := selectedLabel selector
  (labels.getD .empty).get? key = some value

/-- A store that holds templates and children in lists. -/
structure InMemoryStore where
  templates : List Template
  children : List ClusterObject

namespace InMemoryStore

/-- Whether an object is a child of a kind, namespace and name. -/
def isChild (kind : ChildKind) (ns name : String) (o : ClusterObject) : Bool :=
  let key := o.childKey
  key.kind = kind.name && key.ns = ns && key.name = name

/-- The answer to a call. -/
def answer (s : InMemoryStore) : (c : StoreCall) → c.Answer
  | .getTemplate ns name => .ok (s.templates.find? fun t => t.reference = ⟨ns, name⟩)
  | .getChild kind ns name => .ok (s.children.find? (isChild kind ns name))
  | .listChildren kind selector => .ok <| s.children.filter fun o =>
      o.childKey.kind = kind.name && isSelected selector o.metadata.labels

/-- Answers a call and records it. A call may be made to fail. -/
def recorded (s : InMemoryStore) (failing : StoreCall → Option Failure) (c : StoreCall)
    (calls : List StoreCall) : c.Answer × List StoreCall :=
  ((failing c).elim (s.answer c) .error, c :: calls)

/-- Runs work on the store: its result, and the calls it made in order. -/
def run {α : Type} (s : InMemoryStore) (failing : StoreCall → Option Failure)
    (work : StoreWork α) : Except Failure α × List StoreCall :=
  let (result, calls) := Program.run (s.recorded failing) (ExceptT.run work) []
  (result, calls.reverse)

/-- Puts a template at the end, in place of one of the same name. -/
def putTemplate (t : Template) (s : InMemoryStore) : InMemoryStore :=
  { s with templates := s.templates.filter (fun u => u.reference ≠ t.reference) ++ [t] }

/-- Removes the templates of a name. -/
def forgetTemplate (r : Reference) (s : InMemoryStore) : InMemoryStore :=
  { s with templates := s.templates.filter fun u => u.reference ≠ r }

end InMemoryStore

end MonitorSync
