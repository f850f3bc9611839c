import MonitorSync.Failure
import MonitorSync.Kube.Object
set_option autoImplicit false

/-!
# Requests to the API server

## Main definitions

* `FinalizerPatch` — a change of the finalizers of an object, with what it relies on
* `ApiRequest` — what can be asked of the API server
* `ApiRequest.Reply` — what a request gives when it succeeds
-/

namespace MonitorSync

/-- A change of the finalizers of an object. It only applies if the finalizers are as expected. -/
inductive FinalizerPatch where
  /-- Adds the first finalizer. -/
  | addFirst (name : String)
  /-- Adds a finalizer to the present ones. -/
  | addTo (present : List String) (name : String)
  /-- Removes the finalizer at a position. -/
  | removeAt (index : Nat) (name : String)
deriving DecidableEq, Repr

namespace FinalizerPatch

/-- The path of the finalizers in an object. -/
def root : String := "/metadata/finalizers"

/-- A step that relies on a value. -/
def testStep (path : String) (value : Json) : Json := .ofEntries
  [("op", .str "test"), ("path", .str path), ("value", value)]

/-- A step that adds a value. -/
def addStep (path : String) (value : Json) : Json := .ofEntries
  [("op", .str "add"), ("path", .str path), ("value", value)]

/-- The written form, as steps. -/
def toJson : FinalizerPatch → Json
  | addFirst name => .arr [testStep root .null, addStep root (.texts [name])]
  | addTo present name =>
    .arr [testStep root (.texts present), addStep (root ++ "/-") (.str name)]
  | removeAt index name =>
    let path := root ++ "/" ++ toString index
    .arr [testStep path (.str name), .ofEntries [("op", .str "remove"), ("path", .str path)]]

/-- The finalizers of an object after the patch. `finalizers` are those before in their written
form, null if there are none. -/
def apply (finalizers : Json) : FinalizerPatch → Option (List Json)
  | addFirst name => if finalizers == .null then some [.str name] else none
  | addTo present name =>
    match finalizers with
    | .arr items =>
      if Json.arr items == .texts present then some (items ++ [.str name]) else none
    | _ => none
  | removeAt index name =>
    match finalizers with
    | .arr items =>
      if (items[index]?.getD .null) == .str name then some (items.eraseIdx index) else none
    | _ => none

end FinalizerPatch

/-- What can be asked of the API server. An empty namespace stands for objects outside of any. -/
inductive ApiRequest where
  | get (type : ObjectType) (ns name : String)
  /-- The objects of every namespace that carry the label `key=value`. -/
  | list (type : ObjectType) (selector : String)
  /-- Creates an object or merges fields into it, on behalf of a manager. -/
  | apply (type : ObjectType) (ns name : String) (manager : String) (force : Bool) (body : Json)
  /-- Merges fields into the status of an object. -/
  | patchStatus (type : ObjectType) (ns name : String) (body : Json)
  | patchFinalizers (type : ObjectType) (ns name : String) (patch : FinalizerPatch)
  | delete (type : ObjectType) (ns name : String)
  | createEvent (ns : String) (body : Json)

namespace ApiRequest

/-- What a request gives when it succeeds. -/
@[reducible] def Reply : ApiRequest → Type
  | get .. => Json
  | list .. => List Json
  | apply .. => Json
  | patchStatus .. => Unit
  | patchFinalizers .. => Unit
  | delete .. => Unit
  | createEvent .. => Unit

/-- The answer to a request. -/
@[reducible] def Answer (r : ApiRequest) : Type := Except ApiFault r.Reply

/-- The word for what is asked. -/
def verb : ApiRequest → String
  | get .. => "get"
  | list .. => "list"
  | apply .. => "apply"
  | patchStatus .. => "patchStatus"
  | patchFinalizers .. => "patchFinalizers"
  | delete .. => "delete"
  | createEvent .. => "create"

/-- The name of the resources that are asked about. -/
def resource : ApiRequest → String
  | get t .. => t.plural
  | list t .. => t.plural
  | apply t .. => t.plural
  | patchStatus t .. => t.plural
  | patchFinalizers t .. => t.plural
  | delete t .. => t.plural
  | createEvent .. => "events"

/-- The namespace that is asked about. -/
def ns : ApiRequest → String
  | get _ ns _ => ns
  | list .. => ""
  | apply _ ns .. => ns
  | patchStatus _ ns .. => ns
  | patchFinalizers _ ns .. => ns
  | delete _ ns _ => ns
  | createEvent ns _ => ns

/-- The name of the object that is asked about. -/
def name? : ApiRequest → Option String
  | get _ _ name => some name
  | list .. => none
  | apply _ _ name .. => some name
  | patchStatus _ _ name _ => some name
  | patchFinalizers _ _ name _ => some name
  | delete _ _ name => some name
  | createEvent .. => none

/-- What a request sends. -/
def body? : ApiRequest → Option Json
  | apply _ _ _ _ _ body => some body
  | patchStatus _ _ _ body => some body
  | patchFinalizers _ _ _ patch => some patch.toJson
  | createEvent _ body => some body
  | get .. => none
  | list .. => none
  | delete .. => none

end ApiRequest

end MonitorSync
