import MonitorSync.Kube.Request
set_option autoImplicit false

/-!
# An API server in memory

The rules by which an API server answers requests: applying merges, an object with finalizers is
marked before it is removed, and it goes when its last finalizer does.

## Main definitions

* `InMemoryCluster` — the objects that the server holds
* `InMemoryCluster.answer` — the answer to a request, and the server after it
-/

namespace MonitorSync

/-- The label that a selector asks for: what stands before and after its first equals sign. -/
def selectedLabel (selector : String) : String × String :=
  let cs := selector.toList
  (String.ofList (cs.takeWhile (· ≠ '=')), String.ofList ((cs.dropWhile (· ≠ '=')).drop 1))

/-- The objects that the server holds, in their written form. -/
structure InMemoryCluster where
  objects : List Json

instance : Inhabited InMemoryCluster := ⟨⟨[]⟩⟩

namespace InMemoryCluster

/-- A text in the metadata of an object, empty if there is none. -/
def metadataText (key : String) (o : Json) : String :=
  (((o.field "metadata").field key).toText?).getD ""

/-- Whether an object is that of a kind, namespace and name. -/
def isObject (kind ns name : String) (o : Json) : Bool :=
  (o.field "kind").toText? = some kind && metadataText "namespace" o = ns &&
    metadataText "name" o = name

/-- The object of a kind, namespace and name. -/
def find? (c : InMemoryCluster) (kind ns name : String) : Option Json :=
  c.objects.find? (isObject kind ns name)

/-- Changes the first element that satisfies `p`, or removes it. -/
def updateFirst (p : Json → Bool) (f : Json → Option Json) : List Json → List Json
  | [] => []
  | x :: xs => if p x then (f x).toList ++ xs else x :: updateFirst p f xs

/-- Changes an object, or removes it. -/
def update (c : InMemoryCluster) (kind ns name : String) (f : Json → Option Json) :
    InMemoryCluster :=
  ⟨updateFirst (isObject kind ns name) f c.objects⟩

/-- Puts an object in the place of the present one, or at the end. -/
def put (c : InMemoryCluster) (kind ns name : String) (o : Json) : InMemoryCluster :=
  if (c.find? kind ns name).isSome then c.update kind ns name fun _ => some o
  else ⟨c.objects ++ [o]⟩

/-- Puts an object in the place of the one of the same kind, namespace and name. -/
def putObject (c : InMemoryCluster) (o : Json) : InMemoryCluster :=
  c.put (((o.field "kind").toText?).getD "") (metadataText "namespace" o) (metadataText "name" o) o

/-- Sets a field of the metadata of an object. -/
def setMetadata (o : Json) (key : String) (v : Json) : Json :=
  let m := match o.field "metadata" with
    | .obj entries => Json.obj entries
    | _ => .obj []
  o.set "metadata" (m.set key v)

/-- Whether an object has finalizers. -/
def hasFinalizers (o : Json) : Bool :=
  match (o.field "metadata").field "finalizers" with
  | .arr items => !items.isEmpty
  | _ => false

/-- Whether an object was asked to be deleted. -/
def isDeleting (o : Json) : Bool :=
  !((o.field "metadata").field "deletionTimestamp" == .null)

/-- The time at which objects are said to have been asked to be deleted. -/
def deletionTime : String := "2024-01-01T00:00:00Z"

/-- What becomes of an object that is to be deleted: it is only marked if it has finalizers. -/
def markDeleted (o : Json) : Option Json :=
  if hasFinalizers o then some (setMetadata o "deletionTimestamp" (.str deletionTime)) else none

/-- Deletes an object. -/
def remove (c : InMemoryCluster) (kind ns name : String) : InMemoryCluster :=
  c.update kind ns name markDeleted

/-- The object with the fields that the server adds at its creation. -/
def created (kind ns name : String) (o : Json) : Json :=
  setMetadata (setMetadata o "uid" (.str ("uid-" ++ kind ++ "-" ++ ns ++ "-" ++ name)))
    "resourceVersion" (.str "1")

/-- The object after an apply. -/
def applied (c : InMemoryCluster) (kind ns name : String) (body : Json) : Json :=
  match c.find? kind ns name with
  | some o => o.merge body
  | none => created kind ns name ((Json.obj []).merge body)

/-- The object after a change of its finalizers, if the change applies to it; nothing is left of an
object that was to be deleted and has no finalizers any more. -/
def patched? (patch : FinalizerPatch) (o : Json) : Option (Option Json) := do
  let finalizers ← patch.apply ((o.field "metadata").field "finalizers")
  let o := setMetadata o "finalizers" (.arr finalizers)
  some (if isDeleting o && finalizers.isEmpty then none else some o)

/-- Whether an object carries the label that a selector asks for. -/
def isLabelled (selector : String) (o : Json) : Bool :=
  let (key, value) := selectedLabel selector
  (((o.field "metadata").field "labels").field key).toText? = some value

/-- The objects of a kind with a label, as lists give them: without their type. -/
def listed (c : InMemoryCluster) (kind selector : String) : List Json :=
  (c.objects.filter fun o => (o.field "kind").toText? = some kind && isLabelled selector o).map
    fun o => (o.remove "apiVersion").remove "kind"

/-- The answer to a request, and the server after it. -/
def answer : (r : ApiRequest) → InMemoryCluster → r.Answer × InMemoryCluster
  | .get t ns name, c =>
    match c.find? t.kind ns name with
    | some o => (.ok o, c)
    | none => (.error .notFound, c)
  | .list t selector, c => (.ok (c.listed t.kind selector), c)
  | .apply t ns name _ _ body, c =>
    let o := c.applied t.kind ns name body
    (.ok o, c.put t.kind ns name o)
  | .patchStatus t ns name body, c =>
    match c.find? t.kind ns name with
    | some o => (.ok (), c.put t.kind ns name (o.merge body))
    | none => (.error .notFound, c)
  | .patchFinalizers t ns name patch, c =>
    match c.find? t.kind ns name with
    | none => (.error .notFound, c)
    | some o =>
      match patched? patch o with
      | some result => (.ok (), c.update t.kind ns name fun _ => result)
      | none => (.error (.refused 422 "Invalid"), c)
  | .delete t ns name, c =>
    match c.find? t.kind ns name with
    | some _ => (.ok (), c.remove t.kind ns name)
    | none => (.error .notFound, c)
  | .createEvent _ _, c => (.ok (), c)

end InMemoryCluster

end MonitorSync
