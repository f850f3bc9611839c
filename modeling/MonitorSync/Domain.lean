set_option autoImplicit false

/-!
# The domain of annotations and labels

## Main definitions

* `Domain` — the domain under which the operator reads annotations and writes labels
* `Domain.templatesAnnotation` — the annotation that lists the templates of a source
* `Domain.templateLabel`, `Domain.parentLabel` — the labels that tell where a child comes from
-/

namespace MonitorSync

/-- The domain under which annotations are read and labels written. -/
structure Domain where
  name : String
deriving DecidableEq, Repr

namespace Domain

/-- The domain that is used unless another is asked for. -/
protected def default : Domain := ⟨"monitor.k8s.webcenter.fr"⟩

instance : Inhabited Domain := ⟨.default⟩

/-- The annotation that lists the templates of a source. -/
def templatesAnnotation (d : Domain) : String := d.name ++ "/templates"

/-- The label with the template of a child. -/
def templateLabel (d : Domain) : String := d.name ++ "/template"

/-- The label with the source of a child. -/
def parentLabel (d : Domain) : String := d.name ++ "/parent"

end Domain

/-- The comment left on everything the operator writes to the platform. -/
def managedComment : String := "Managed by monitoring-operator"

end MonitorSync
