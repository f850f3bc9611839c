import MonitorSync.Child.References
import MonitorSync.Child.Store
import MonitorSync.Template.Render
set_option autoImplicit false

/-!
# The children of a source

## Main definitions

* `ChildSet` — the children that a source should have, and those it has
* `ChildSet.orphans` — the children that no template produces any more
* `resolveChildren` — renders the templates of a source and looks for its children
* `InMemoryStore.apply` — brings the children of a store to what they should be
-/

namespace MonitorSync

/-- The children that a source should have, and those it has. -/
structure ChildSet where
  expected : List ClusterObject := []
  current : List ClusterObject := []

instance : Inhabited ChildSet := ⟨{}⟩

/-- Keeps the first object of every key. -/
def dedupChildren : List ClusterObject → List ClusterObject
  | [] => []
  | o :: rest => o :: (dedupChildren rest).filter fun p => p.childKey ≠ o.childKey

/-- The children that no template produces any more. -/
def ChildSet.orphans (set : ChildSet) : List ClusterObject :=
  set.current.filter fun o => !(set.expected.map ClusterObject.childKey).contains o.childKey

/-- The name and namespace of a source. -/
def Placeholders.reference (p : Placeholders) : Reference := ⟨p.ns, p.name⟩

/-- Puts a rendered child into its namespace, names it if it has no name, and labels it. Labels of
the source win over those of the child, and the labels for template and source over all. -/
def stamp (domain : Domain) (source : Placeholders) (r : Reference) (child : ClusterObject) :
    ClusterObject :=
  let m := child.metadata
  let name := m.name.getD ""
  let labels := ((m.labels.getD .empty).extend source.labels)
    |>.insert domain.templateLabel r.label
    |>.insert domain.parentLabel source.reference.label
  { child with
    metadata := { m with
      ns := some (source.forTemplate r.ns r.name).childNs
      name := some (if name.isEmpty then r.name else name)
      labels := some labels } }

/-- The child for a reference to a template, and the one of its name that is there. A template that
does not exist is skipped. -/
def resolveReference (tools : Mustache.Tools) (domain : Domain) (source : Placeholders)
    (r : Reference) : StoreWork ChildSet := do
  match ← StoreWork.call (.getTemplate r.ns r.name) with
  | none => return {}
  | some template =>
    let rendered ← ExceptT.mk (pure (template.render tools source))
    let child := stamp domain source r rendered
    let key := child.childKey
    match ChildKind.ofName? key.kind with
    | none => return { expected := [child] }
    | some kind =>
      let present ← StoreWork.call (.getChild kind key.ns key.name)
      return { expected := [child], current := present.toList }

/-- The selector of the children of a source. -/
def childSelector (domain : Domain) (source : Placeholders) : String :=
  domain.parentLabel ++ "=" ++ source.reference.label

/-- Renders the templates of a source and looks for its children. -/
def resolveChildren (tools : Mustache.Tools) (domain : Domain) (source : Placeholders) :
    StoreWork ChildSet := do
  let references ← ExceptT.mk (pure (templateReferences domain source.annotations source.ns))
  let found ← references.mapM (resolveReference tools domain source)
  let listed ← ChildKind.all.mapM fun k =>
    StoreWork.call (.listChildren k (childSelector domain source))
  return {
    expected := dedupChildren (found.flatMap (·.expected))
    current := dedupChildren (found.flatMap (·.current) ++ listed.flatten) }

namespace InMemoryStore

/-- Removes the children of a key. -/
def removeChild (key : ChildKey) (children : List ClusterObject) : List ClusterObject :=
  children.filter fun o => o.childKey ≠ key

/-- Removes the orphans of a set, then puts every expected child at the end, in place of one of the
same key. -/
def apply (set : ChildSet) (s : InMemoryStore) : InMemoryStore :=
  let kept := set.orphans.foldl (fun cs o => removeChild o.childKey cs) s.children
  { s with children := set.expected.foldl (fun cs o => removeChild o.childKey cs ++ [o]) kept }

end InMemoryStore

end MonitorSync
