import MonitorSync.Proofs.Operator.Managed
import MonitorSync.Proofs.Source.Progress
set_option autoImplicit false

/-!
# Sources beside each other

Several sources have children on one API server. A pass over one of them deletes what carries its
label and is not among its own children, so the children of another source are safe from it exactly
where the labels of the two differ.

## Main definitions

* `SourcePass.run` — a pass over a source: its result, and the systems after it.
* `ClusterEvent` — a pass over a source, or any other change to a server.
* `ClusterEvent.Spares`, `ClusterEvent.SparedBy` — a child stays as it was last applied.

## Main results

* `ClusterEvent.held_afterAll` — what is spared is there in the end.
* `SourcePass.deletes_iff_labelled` — when a pass deletes a child that another source applied last.
* `SourcePass.deletes_namesake_child` — an ingress and a secret of one name are not told apart.
-/

namespace MonitorSync

open InMemoryCluster ChildSet

variable {Client : Type} {x : OperatorContext Client}

/-! ## One pass -/

/-- A pass over a source, with the requests that fail in it. -/
structure SourcePass (Client : Type) where
  source : SourceObject
  faults : Faults
  registry : Registry Client

namespace SourcePass

variable {q : SourcePass Client} {w : Surroundings} {key : ChildKey} {o : Json}

/-- The result of a pass, and the systems after it with what was asked in it. -/
def run (x : OperatorContext Client) (q : SourcePass Client) (w : Surroundings) :
    Except OperatorFailure Action × Surroundings :=
  let (result, w') := Surroundings.run q.faults (q.source.pass x) q.registry
    { cluster := w.cluster, platform := w.platform }
  (result.1, w')

/-- The label that the children of a source carry. -/
def label (q : SourcePass Client) : String := q.source.placeholders.reference.label

/-- Whether the selector of a source selects an object. -/
def Selects (x : OperatorContext Client) (q : SourcePass Client) (o : Json) : Prop :=
  isLabelled (childSelector x.domain q.source.placeholders) o = true

/-- A pass changes nothing, or comes some way. -/
private lemma run_cases (x : OperatorContext Client) (q : SourcePass Client)
    (hw : w.cluster.WellKept) :
    (q.run x w).2.Untouched w.cluster ∧ (∀ a, (q.run x w).1 = .ok a → ¬ q.source.IsActive) ∨
      q.source.IsActive ∧
      ∃ set, set.Resolved .inMemory x.tools x.domain q.source.placeholders w.cluster ∧
        Progress x.domain q.label q.source.owner? w.cluster set [] [] (q.run x w).2 ∧
        ∀ a, (q.run x w).1 = .ok a → Progress x.domain q.label q.source.owner? w.cluster set
          set.expected set.orphans (q.run x w).2 :=
  SourceObject.pass_cases (w := { cluster := w.cluster, platform := w.platform }) hw
    ⟨rfl, rfl, rfl⟩ rfl

/-- A pass keeps a server in order. -/
theorem wellKept_run (hw : w.cluster.WellKept) : (q.run x w).2.cluster.WellKept := by
  rcases run_cases x q hw with ⟨h, -⟩ | ⟨-, set, -, h, -⟩
  · rw [h.cluster]
    exact hw
  · exact h.kept

/-- **Frame.** What a pass neither applies nor deletes stays as it is. -/
theorem mem_run (hw : w.cluster.WellKept) (ho : o ∈ w.cluster.objects)
    (hkeys : ∀ key : ChildKey, key.Names o →
      key ∉ (q.run x w).2.applied ∧ key ∉ (q.run x w).2.deleted) :
    o ∈ (q.run x w).2.cluster.objects := by
  rcases run_cases x q hw with ⟨h, -⟩ | ⟨-, set, -, h, -⟩
  · rw [h.cluster]
    exact ho
  · exact h.others o ho hkeys

/-- **Children.** What a pass that succeeds applies is there as it was applied. -/
theorem exists_appliedTo (hw : w.cluster.WellKept) {a : Action} (hok : (q.run x w).1 = .ok a)
    (hkey : key ∈ (q.run x w).2.applied) :
    ∃ o ∈ (q.run x w).2.cluster.objects, key.AppliedTo x.domain q.label q.source.owner? o := by
  rcases run_cases x q hw with ⟨h, -⟩ | ⟨-, set, -, -, h⟩
  · rw [h.applied] at hkey
    cases hkey
  · obtain ⟨child, hchild, rfl⟩ := List.mem_map.1 ((h a hok).applied_subset key hkey)
    exact (h a hok).held child hchild

/-- What a pass deletes carries the label of its source and is not applied by it. -/
theorem labelled_of_mem_deleted (hw : w.cluster.WellKept) (ho : o ∈ w.cluster.objects)
    (hname : key.Names o) (hkey : key ∈ (q.run x w).2.deleted) :
    q.source.IsActive ∧ q.Selects x o ∧
      key ∉ (q.run x w).2.applied := by
  rcases run_cases x q hw with ⟨h, -⟩ | ⟨hactive, set, hset, h, -⟩
  · rw [h.deleted] at hkey
    cases hkey
  · obtain ⟨child, hchild, rfl⟩ := List.mem_map.1 (h.deleted_subset key hkey)
    obtain ⟨v, hv, hnames, hlabelled⟩ := hset.selected_of_mem_orphans hchild
    obtain rfl : v = o :=
      List.inj_on_of_nodup_map hw.addressed hv ho (hnames.address_eq hname)
    exact ⟨hactive, hlabelled, fun happlied =>
      (mem_orphans_iff.1 hchild).2 (h.applied_subset _ happlied)⟩

/-- What carries the label of a source is deleted by a pass that succeeds and does not apply it. -/
theorem mem_deleted_of_labelled (hw : w.cluster.WellKept) (ho : o ∈ w.cluster.objects)
    (hname : key.Names o) {a : Action} (hok : (q.run x w).1 = .ok a) (hactive : q.source.IsActive)
    (hlabelled : q.Selects x o)
    (happlied : key ∉ (q.run x w).2.applied) : key ∈ (q.run x w).2.deleted := by
  rcases run_cases x q hw with ⟨-, h⟩ | ⟨-, set, hset, -, h⟩
  · exact absurd hactive (h a hok)
  · have hexpected : key ∉ set.expected.map ClusterObject.childKey := by
      intro hmem
      obtain ⟨child, hchild, rfl⟩ := List.mem_map.1 hmem
      exact happlied ((h a hok).applied child hchild)
    obtain ⟨child, hchild, rfl⟩ := hset.mem_orphans ho hname hlabelled hexpected
    exact (h a hok).deleted child hchild

end SourcePass

/-! ## Labels -/

/-- **Selection.** A child is selected by the sources that share the label of its own. -/
theorem ChildKey.AppliedTo.isLabelled_iff {domain : Domain} {label : String}
    {owner : Option OwnerReference} {key : ChildKey} {o : Json}
    (h : key.AppliedTo domain label owner o) (hdomain : '=' ∉ domain.name.toList)
    (p : Placeholders) :
    isLabelled (childSelector domain p) o ↔ p.reference.label = label := by
  obtain ⟨k, ns, name, -, happlied⟩ := h
  have hkey : '=' ∉ domain.parentLabel.toList := by
    simpa [Domain.parentLabel] using hdomain
  rw [childSelector, isLabelled_append_iff hkey, Carries, happlied.label_eq, Option.some_inj,
    Json.str.injEq]
  exact eq_comm

/-! ## What happens in between -/

/-- What happens to a server: a pass over a source, or any other change after which it holds `c`. -/
inductive ClusterEvent (Client : Type) where
  | pass (q : SourcePass Client)
  | change (c : InMemoryCluster)

namespace ClusterEvent

variable {q : SourcePass Client} {w : Surroundings} {key : ChildKey}

/-- The systems after an event. -/
def after (x : OperatorContext Client) : ClusterEvent Client → Surroundings → Surroundings
  | pass q, w => (q.run x w).2
  | change c, w => { w with cluster := c }

/-- The systems after some events. -/
def afterAll (x : OperatorContext Client) (events : List (ClusterEvent Client)) (w : Surroundings) :
    Surroundings :=
  events.foldl (fun w e => e.after x w) w

/-- A child of the source of `q` is on the server as it was applied for it. -/
def Held (x : OperatorContext Client) (q : SourcePass Client) (key : ChildKey)
    (c : InMemoryCluster) : Prop :=
  ∃ o ∈ c.objects, key.AppliedTo x.domain q.label q.source.owner? o

/-- An event spares a child of the source of `q`: a pass neither applies nor deletes it, and another
change leaves the server in order and the child with its label and owner. -/
def Spares (x : OperatorContext Client) (q : SourcePass Client) (key : ChildKey) :
    ClusterEvent Client → Surroundings → Prop
  | pass r, w => key ∉ (r.run x w).2.applied ∧ key ∉ (r.run x w).2.deleted
  | change c, _ => c.WellKept ∧ Held x q key c

/-- Events that spare a child, one after the other. -/
def SparedBy (x : OperatorContext Client) (q : SourcePass Client) (key : ChildKey) :
    List (ClusterEvent Client) → Surroundings → Prop
  | [], _ => True
  | e :: events, w => e.Spares x q key w ∧ SparedBy x q key events (e.after x w)

/-- An event leaves a child that it spares. -/
private lemma held_after {e : ClusterEvent Client} (hw : w.cluster.WellKept)
    (hheld : Held x q key w.cluster) (he : e.Spares x q key w) :
    (e.after x w).cluster.WellKept ∧ Held x q key (e.after x w).cluster := by
  cases e with
  | pass r =>
    obtain ⟨o, ho, happlied⟩ := hheld
    refine ⟨SourcePass.wellKept_run hw, o, SourcePass.mem_run hw ho fun key' hkey' => ?_, happlied⟩
    rw [hkey'.unique happlied.names]
    exact he
  | change c => exact he

/-- **In between.** What all events spare is there in the end. -/
theorem held_afterAll {events : List (ClusterEvent Client)} (hw : w.cluster.WellKept)
    (hheld : Held x q key w.cluster) (hevents : SparedBy x q key events w) :
    (afterAll x events w).cluster.WellKept ∧ Held x q key (afterAll x events w).cluster := by
  induction events generalizing w with
  | nil => exact ⟨hw, hheld⟩
  | cons e events ih =>
    obtain ⟨he, hevents⟩ := hevents
    obtain ⟨hw', hheld'⟩ := held_after hw hheld he
    exact ih hw' hheld' hevents

end ClusterEvent

/-! ## Two sources -/

open ClusterEvent in
/-- **When a source loses a child to another.** On a well kept server, let a pass over a source
succeed and apply a child, and let no pass since then have applied or deleted that child. Then the
server still holds it with the label and the owner reference of the source. A pass over another
source asks for its deletion only if that source is an active one, selects the child and does not
apply it itself; where all this is so and the pass succeeds, it did ask. If the domain has no equals
sign, then the other source selects the child exactly if both sources have one label.

**Proof sketch.** A pass that succeeds holds what it applied, and what a pass neither applies nor
deletes stays. What a pass deletes are the orphans that it found: objects with the label of its
source that are not expected. -/
theorem SourcePass.deletes_iff_labelled {w : Surroundings} (hw : w.cluster.WellKept)
    (own other : SourcePass Client) {a : Action} (hown : (own.run x w).1 = .ok a) {key : ChildKey}
    (hkey : key ∈ (own.run x w).2.applied) {events : List (ClusterEvent Client)}
    (hevents : SparedBy x own key events (own.run x w).2) :
    let later := afterAll x events (own.run x w).2
    ∃ o ∈ later.cluster.objects, key.AppliedTo x.domain own.label own.source.owner? o ∧
      (key ∈ (other.run x later).2.deleted →
        other.source.IsActive ∧ other.Selects x o ∧ key ∉ (other.run x later).2.applied) ∧
      (∀ b, (other.run x later).1 = .ok b → other.source.IsActive → other.Selects x o →
        key ∉ (other.run x later).2.applied → key ∈ (other.run x later).2.deleted) ∧
      ('=' ∉ x.domain.name.toList → (other.Selects x o ↔ other.label = own.label)) := by
  intro later
  obtain ⟨hlater, o, ho, happlied⟩ := held_afterAll (wellKept_run hw)
    (exists_appliedTo hw hown hkey) hevents
  exact ⟨o, ho, happlied, labelled_of_mem_deleted hlater ho happlied.names,
    fun b hok hactive hlabelled hnot =>
      mem_deleted_of_labelled hlater ho happlied.names hok hactive hlabelled hnot,
    fun hdomain => happlied.isLabelled_iff hdomain _⟩

/-! ### Namesakes -/

/-- Systems with one template, for services. -/
def Surroundings.withTemplate : Surroundings where
  cluster := ⟨[.ofEntries [("apiVersion", .str monitorApiVersion), ("kind", .str "Template"),
    ("metadata", .ofEntries [("name", .str "check"), ("namespace", .str "prod")]),
    ("spec", .ofEntries [("type", .str "CentreonService"),
      ("template", .str "host: central\nname: web\ntemplate: generic\n")])]]⟩
  platform := ⟨[], []⟩

/-- A pass over a source in one namespace, in which no request fails. An ingress lists the template
and other sources list none. -/
def SourcePass.sample (kind : SourceKind) (name : String) : SourcePass Unit where
  source :=
    { kind := kind
      metadata :=
        { name := some name, ns := some "prod", uid := some ("uid-" ++ kind.type.kind)
          annotations := if kind = .ingress then
            some (.ofList [(Domain.default.templatesAnnotation, "[\x7b\"name\":\"check\"\x7d]")])
          else none }
      content := .ofEntries [("type", .str SourceObject.certificateSecretType)] }
  faults := ⟨fun _ _ => none, fun _ _ => none⟩
  registry := .single

namespace SourcePass

lemma wellKept_withTemplate : Surroundings.withTemplate.cluster.WellKept := by
  refine ⟨List.nodup_singleton _, fun o ho k hk => ?_⟩
  obtain rfl := List.mem_singleton.1 ho
  cases k <;> exact absurd hk (by decide +kernel)

/-- The child of an ingress is safe from a secret of another name. -/
theorem deletes_iff_labelled_other_name :
    let applied := ((sample .ingress "web").run .plain .withTemplate).2
    let key := ChildKind.service.key "prod" "check"
    key ∈ applied.applied ∧ key ∉ ((sample .secret "shop").run .plain applied).2.deleted := by
  obtain ⟨hok, hkey⟩ : ((sample .ingress "web").run .plain .withTemplate).1 =
        .ok (.requeue 3600) ∧ ChildKind.service.key "prod" "check" ∈
      ((sample .ingress "web").run .plain .withTemplate).2.applied := by decide +kernel
  have hnothing : ClusterEvent.SparedBy .plain (sample .ingress "web")
      (ChildKind.service.key "prod" "check") []
      ((sample .ingress "web").run .plain .withTemplate).2 := trivial
  obtain ⟨o, -, -, hselects, -, hlabel⟩ := deletes_iff_labelled wellKept_withTemplate
    (sample .ingress "web") (sample .secret "shop") hok hkey hnothing
  refine ⟨hkey, fun hdeleted => ?_⟩
  have hsame : (sample .secret "shop").label = (sample .ingress "web").label :=
    (hlabel (by decide)).1 (hselects hdeleted).2.1
  exact absurd hsame (by decide +kernel)

/-- A secret of the name of an ingress has the same label, so a pass over it deletes the child of
the ingress. -/
theorem deletes_namesake_child :
    let applied := ((sample .ingress "web").run .plain .withTemplate).2
    let key := ChildKind.service.key "prod" "check"
    ((sample .ingress "web").run .plain .withTemplate).1 = .ok (.requeue 3600) ∧
      key ∈ applied.applied ∧
      (applied.cluster.find? "CentreonService" "prod" "check").map (fun o =>
          (o.field "metadata").field "ownerReferences" ==
            .arr ((sample .ingress "web").source.owner?.toList.map OwnerReference.toJson)) =
        some true ∧
      (sample .ingress "web").source.owner?.isSome ∧
      key ∈ ((sample .secret "web").run .plain applied).2.deleted := by
  decide +kernel

end SourcePass

end MonitorSync
