import MonitorSync.Proofs.Kube.Server
import MonitorSync.Proofs.Source.Isolation
set_option autoImplicit false

/-!
# Passes over sources converge

A pass over a source that succeeds leaves the server with exactly the children that the templates of
the source give, and the next pass finds nothing to tell.

## Main definitions

* `ClusterObject.HeldAs` — a child as a server holds it.
* `ChildSet.Brought` — how far the children on a server were brought in line.
* `InLine` — a server holds just the expected children of a source.
* `RenderedFor` — an object is what a template gives for a source.

## Main results

* `ChildSet.Brought.apply`, `ChildSet.Brought.delete` — a request brings one child further in line.
* `ChildSet.Brought.inLine` — where all are done, the server is in line.
* `SourceObject.pass_converges` — passes over sources converge.
-/

namespace MonitorSync

open InMemoryCluster

/-! ## Children on a server -/

/-- A child as a server holds it: with its specification and its labels, and perhaps with more. -/
structure ClusterObject.HeldAs (child : ClusterObject) (o : Json) : Prop where
  spec : (o.field "spec").contains child.spec
  labels : ∀ labels, child.metadata.labels = some labels → ∀ key value,
    labels.get? key = some value → Carries key value o

section Written

variable {domain : Domain} {label : String} {owner : Option OwnerReference} {k : ChildKind}
  {ns name : String} {o : Json} {child : ClusterObject}

/-- The written form of a child that is ready to be applied. -/
lemma ClusterObject.Stamped.isChild_toApply (h : child.Stamped domain label k ns name) :
    IsChild k ns name (child.toApply owner).toJson := by
  obtain ⟨hversion, hkind, hmetadata⟩ :=
    ClusterObject.get?_toJson (o := child.toApply owner) h.types h.content
  obtain ⟨hname, hns, -⟩ := (child.toApply owner).metadata.get?_toJson
  obtain ⟨m, hm, hinc⟩ : (child.toApply owner).metadata.toJson.Ordered := Json.ordered_ofEntries
  rw [hm] at hname hns hmetadata
  refine ⟨?_, hkind, m, hmetadata, hinc, hname name h.name, hns ns h.ns⟩
  rw [hversion]
  cases k <;> rfl

/-- **What is kept is held.** A server that keeps what is applied of a child holds the child. -/
lemma ClusterObject.Stamped.heldAs (h : child.Stamped domain label k ns name)
    (hkeeps : Keeps (child.toApply owner).toJson o) : child.HeldAs o := by
  obtain ⟨-, -, hmetadata⟩ :=
    ClusterObject.get?_toJson (o := child.toApply owner) h.types h.content
  obtain ⟨-, -, hlabels, -⟩ := (child.toApply owner).metadata.get?_toJson
  refine ⟨hkeeps.spec ?_, fun labels hl key value hvalue => hkeeps.labels ?_⟩
  · rw [ClusterObject.field_spec_toJson (o := child.toApply owner) h.increasing]
    exact h.spec
  · rw [Carries, Json.field_eq hmetadata, Json.field_eq (hlabels labels hl), get?_textMap, hvalue]
    rfl

end Written

/-! ## Bringing children in line -/

namespace ChildSet

/-- How far a pass has come on a server that held `c` before: the server holds the expected children
of the keys in `done`, and of the other objects those that it held, without those of `gone`. -/
structure Brought (set : ChildSet) (c : InMemoryCluster) (done gone : List ClusterObject)
    (c' : InMemoryCluster) : Prop where
  kept : c'.WellKept
  held : ∀ child ∈ set.expected, child.childKey ∈ done.map ClusterObject.childKey →
    ∃ o ∈ c'.objects, child.childKey.Names o ∧ child.HeldAs o
  others : ∀ o, (∀ child ∈ done, ¬ child.childKey.Names o) →
    (o ∈ c'.objects ↔ o ∈ c.objects ∧ ∀ child ∈ gone, ¬ child.childKey.Names o)

namespace Brought

variable {set : ChildSet} {c c' : InMemoryCluster} {done gone : List ClusterObject}
  {child : ClusterObject} {k : ChildKind} {ns name : String} {o : Json}

/-- A pass starts with nothing done. -/
lemma start (hc : c.WellKept) : Brought set c [] [] c where
  kept := hc
  held := by simp
  others := by simp

/-- **Applying.** What is put under the key of an expected child brings that child in line. -/
theorem apply (h : Brought set c done gone c')
    (hnodup : (set.expected.map ClusterObject.childKey).Nodup) (hexpected : child ∈ set.expected)
    (hkey : child.childKey = k.key ns name) (ho : IsChild k ns name o) (hheld : child.HeldAs o) :
    Brought set c (done ++ [child]) gone (c'.put k.name ns name o) := by
  have hnames (t : Json) : child.childKey.Names t ↔ address t = (some k.name, ns, name) := by
    rw [hkey, ChildKind.names_key_iff]
  have hmem (t : Json) : t ∈ (c'.put k.name ns name o).objects ↔
      t = o ∨ t ∈ c'.objects ∧ address t ≠ (some k.name, ns, name) := mem_put h.kept.addressed
  refine ⟨h.kept.put ho.address_eq ho.isKept, fun x hx hdone => ?_, fun t ht => ?_⟩
  · by_cases hsame : x = child
    · subst hsame
      exact ⟨o, (hmem o).2 (.inl rfl), (hnames o).2 ho.address_eq, hheld⟩
    · have hkeys : x.childKey ≠ child.childKey := fun heq =>
        hsame (List.inj_on_of_nodup_map hnodup hx hexpected heq)
      obtain ⟨t, ht, hxt, hheld⟩ := h.held x hx (by simpa [hkeys] using hdone)
      refine ⟨t, (hmem t).2 (.inr ⟨ht, fun ha => hkeys ?_⟩), hxt, hheld⟩
      exact hxt.unique ((hnames t).2 ha)
  · rw [List.forall_mem_append, List.forall_mem_singleton, hnames] at ht
    rw [hmem, ← h.others t ht.1]
    constructor
    · rintro (rfl | ⟨hmem, -⟩)
      · exact absurd ho.address_eq ht.2
      · exact hmem
    · exact fun hmem => .inr ⟨hmem, ht.2⟩

/-- **Deleting.** Taking away what has the key of an orphan leaves the expected children. -/
theorem delete (h : Brought set c done gone c') (horphan : child ∈ set.orphans)
    (hkey : child.childKey = k.key ns name) :
    Brought set c done (gone ++ [child]) (c'.update k.name ns name fun _ => none) := by
  have hnames (t : Json) : child.childKey.Names t ↔ address t = (some k.name, ns, name) := by
    rw [hkey, ChildKind.names_key_iff]
  have hmem (t : Json) : t ∈ (c'.update k.name ns name fun _ => none).objects ↔
      t ∈ c'.objects ∧ ¬ child.childKey.Names t := by
    rw [mem_update h.kept.addressed, hnames]
    simp
  refine ⟨h.kept.update (fun o t h => by cases h), fun x hx hdone => ?_, fun t ht => ?_⟩
  · obtain ⟨t, ht, hxt, hheld⟩ := h.held x hx hdone
    refine ⟨t, (hmem t).2 ⟨ht, fun hname => (mem_orphans_iff.1 horphan).2 ?_⟩, hxt, hheld⟩
    rw [hname.unique hxt]
    exact List.mem_map_of_mem hx
  · rw [hmem, h.others t ht, List.forall_mem_append, List.forall_mem_singleton, and_assoc]

/-- Objects of other kinds stay as they are. -/
lemma find?_eq (h : Brought set c done gone c') (hc : c.Addressed) {kind : String}
    (hkind : ∀ k : ChildKind, k.name ≠ kind) : c'.find? kind ns name = c.find? kind ns name := by
  refine Option.ext fun o => ?_
  rw [h.kept.addressed.find?_eq_some_iff, hc.find?_eq_some_iff]
  refine and_congr_left fun ha => ?_
  have hunnamed (key : ChildKey) : ¬ key.Names o := by
    rintro ⟨k, ns', name', -, ha'⟩
    rw [ha'] at ha
    exact hkind k (Option.some.inj (congrArg Prod.fst ha))
  rw [h.others o fun child _ => hunnamed child.childKey]
  exact and_iff_left fun child _ => hunnamed child.childKey

end Brought

end ChildSet

/-! ## Servers in line -/

/-- A server holds the expected children of a source, and no other object carries its label. -/
structure InLine (domain : Domain) (label : String) (children : List ClusterObject)
    (c : InMemoryCluster) : Prop where
  kept : c.WellKept
  carries_iff : ∀ key : ChildKey,
    (∃ o ∈ c.objects, key.Names o ∧ Carries domain.parentLabel label o) ↔
      key ∈ children.map ClusterObject.childKey
  held : ∀ child ∈ children, ∃ o ∈ c.objects, child.childKey.Names o ∧ child.HeldAs o

section InLine

variable {tools : Mustache.Tools} {domain : Domain} {source : Placeholders} {set : ChildSet}
  {c c' : InMemoryCluster} {server : ApiServer domain} {child : ClusterObject}

/-- The selector of a source selects what carries its label. -/
lemma ApiServer.selects_childSelector (server : ApiServer domain) (source : Placeholders)
    (o : Json) : server.selects (childSelector domain source) o ↔
      Carries domain.parentLabel source.reference.label o :=
  server.selects_iff _ o

/-- **In line.** Where all expected children are applied and all orphans deleted, the server is in
line: what carries the label and is not expected would have been an orphan. -/
theorem ChildSet.Brought.inLine (h : set.Brought c set.expected set.orphans c')
    (hset : set.Resolved server.toListing tools domain source c) :
    InLine domain source.reference.label set.expected c' := by
  have hheld : ∀ child ∈ set.expected, ∃ o ∈ c'.objects, child.childKey.Names o ∧
      child.HeldAs o := fun child hchild => h.held child hchild (List.mem_map_of_mem hchild)
  refine ⟨h.kept, fun key => ⟨?_, fun hkey => ?_⟩, hheld⟩
  · rintro ⟨o, ho, hname, hcarries⟩
    by_contra hexpected
    have hunnamed : ∀ child ∈ set.expected, ¬ child.childKey.Names o := fun child hchild hnames =>
      hexpected (hname.unique hnames ▸ List.mem_map_of_mem hchild)
    obtain ⟨hold, hgone⟩ := (h.others o hunnamed).1 ho
    obtain ⟨orphan, horphan, rfl⟩ := hset.mem_orphans hold hname
      ((server.selects_childSelector source o).2 hcarries) hexpected
    exact hgone orphan horphan hname
  · obtain ⟨child, hchild, rfl⟩ := List.mem_map.1 hkey
    obtain ⟨o, ho, hname, hheldAs⟩ := hheld child hchild
    obtain ⟨k, ns, name, hstamped⟩ := hset.stamped hchild
    obtain ⟨labels, hlabels, -, hlabel⟩ := hstamped.labels
    exact ⟨o, ho, hname, hheldAs.labels labels hlabels _ _ hlabel⟩

namespace InLine

variable (h : InLine domain source.reference.label set.expected c)
  (hset : set.Resolved server.toListing tools domain source c)

include h hset

/-- On a server that is in line, nothing is an orphan. -/
lemma orphans_eq_nil : set.orphans = [] := by
  refine List.eq_nil_iff_forall_not_mem.2 fun o ho => ?_
  obtain ⟨v, hv, hname, hselected⟩ := hset.selected_of_mem_orphans ho
  exact (ChildSet.mem_orphans_iff.1 ho).2
    ((h.carries_iff _).1 ⟨v, hv, hname, (server.selects_childSelector source v).1 hselected⟩)

/-- On a server that is in line, applying an expected child changes nothing. -/
lemma childChange?_eq_none (hchild : child ∈ set.expected) :
    childChange? set.current child = none := by
  obtain ⟨o, ho, hname, hheld⟩ := h.held child hchild
  rw [childChange?]
  rcases hlast : lastOfKey? child.childKey set.current with _ | present
  · obtain ⟨v, hv, hnamed, hcarries⟩ :=
      (h.carries_iff child.childKey).2 (List.mem_map_of_mem hchild)
    obtain ⟨present, hpresent, hkey⟩ := List.mem_map.1 (hset.complete v hv _ hnamed
      ((server.selects_childSelector source v).2 hcarries))
    exact absurd (decide_eq_true hkey)
      (List.find?_eq_none.1 hlast present (List.mem_reverse.2 hpresent))
  · rw [lastOfKey?] at hlast
    have hkey : present.childKey = child.childKey := by simpa using List.find?_some hlast
    obtain ⟨v, hv, hnamed, hspec, -⟩ :=
      hset.found present (List.mem_reverse.1 (List.mem_of_find?_eq_some hlast))
    rw [hkey] at hnamed
    obtain rfl : v = o :=
      List.inj_on_of_nodup_map h.kept.addressed hv ho (hnamed.address_eq hname)
    dsimp only
    rw [hspec, if_pos hheld.spec]

end InLine

end InLine

/-! ## The parts of a pass -/

section Parts

open ApiServer

variable {Client : Type} {tools : Mustache.Tools} {domain : Domain} {source : Placeholders}
  {set : ChildSet} {c : InMemoryCluster} {done gone : List ClusterObject}
  {server : ApiServer domain} {child : ClusterObject} {s : SourceObject} {base : List ApiRequest}

/-- An event leaves the children on a server as they are. -/
private lemma triple_publish_brought (r : ObjectReference) (e : ChangeEvent) :
    Operator.Triple server.answer (fun w => set.Brought c done gone w.cluster)
      (Operator.publish r e : Operator Client Unit)
      (fun _ w => set.Brought c done gone w.cluster) (fun _ => True) := by
  refine .request (fun _ _ _ => trivial) (fun w reply h _ => ?_) fun _ _ _ _ => trivial
  rw [server.cluster_answer_createEvent]
  exact h

/-- **Both loops.** A pass that knows the children of its source brings all of them in line. -/
private lemma triple_brought (s : SourceObject)
    (hset : set.Resolved server.toListing tools domain source c) (a : Action) :
    Operator.Triple server.answer (fun w => set.Brought c [] [] w.cluster)
      (s.bringInLine source set a : Operator Client Action)
      (fun _ w => set.Brought c set.expected set.orphans w.cluster) (fun _ => True) := by
  have hnodup := nodup_map_expectedChildren hset.expected
  refine SourceObject.triple_bringInLine
    (fun done gone (w : State) => set.Brought c done gone w.cluster)
    (fun done child hchild => ?_) (fun gone child hchild => ?_) a
  · obtain ⟨k, ns, name, hstamped⟩ := hset.stamped hchild
    refine triple_applyExpected hstamped.childKey_eq ?_ (fun _ _ => trivial)
      fun _ => triple_publish_brought
    refine .request (fun _ _ _ => trivial) (fun w reply h hreply => ?_) fun _ _ _ _ => trivial
    obtain ⟨hstored, hkeeps⟩ := server.stored_keeps w.requests (w.cluster.find? k.name ns name)
      _ k ns name hstamped.isChild_toApply
    rw [server.cluster_answer_apply hreply]
    exact h.apply hnodup hchild hstamped.childKey_eq hstored (hstamped.heldAs hkeeps)
  · obtain ⟨v, -, ⟨k, ns, name, hkey, -⟩, -⟩ := hset.selected_of_mem_orphans hchild
    refine triple_deleteOrphan hkey (fun _ _ => trivial) (fun w h => ⟨fun hdone => ?_, trivial⟩)
      triple_publish_brought
    rw [server.cluster_answer_delete hdone]
    exact h.delete hchild hkey

/-- **Quiet passes.** A pass over a server that is in line deletes nothing and publishes no
event. -/
private lemma triple_quiet (s : SourceObject)
    (h : InLine domain source.reference.label set.expected c)
    (hset : set.Resolved server.toListing tools domain source c) (a : Action) :
    Operator.Triple server.answer (State.QuietSince base)
      (s.bringInLine source set a : Operator Client Action)
      (fun _ => State.QuietSince base) (State.QuietSince base) := by
  refine SourceObject.triple_bringInLine (fun _ _ => State.QuietSince base)
    (fun done child hchild => ?_) (fun gone child hchild => ?_) a
  · obtain ⟨k, ns, name, hstamped⟩ := hset.stamped hchild
    have happly (w : State) (hw : w.QuietSince base) (body : Json) :
        (server.answer (.api (.apply k.type ns name operatorName true body) :
          OperatorCall Client) w).2.QuietSince base :=
      hw.next (server.answer_cases rfl).1 (show "apply" ∉ ["delete", "create"] by decide)
    exact triple_applyExpected hstamped.childKey_eq
      (.request (fun _ hw _ => hw) (fun w _ hw _ => happly w hw _) fun w _ hw _ => happly w hw _)
      (fun _ hw => hw) fun hchange => absurd (h.childChange?_eq_none hset hchild) hchange
  · rw [h.orphans_eq_nil hset] at hchild
    cases hchild

end Parts

/-! ## Passes -/

/-- An object is what a template gives for a source: it has the specification that was rendered, and
the labels for the template, for the source, and of the source. -/
structure RenderedFor (domain : Domain) (source : Placeholders) (r : Reference)
    (rendered : ClusterObject) (o : Json) : Prop where
  spec : (o.field "spec").contains rendered.spec
  template : Carries domain.templateLabel r.label o
  parent : Carries domain.parentLabel source.reference.label o
  labels : ∀ key value, source.labels.get? key = some value → key ≠ domain.templateLabel →
    key ≠ domain.parentLabel → Carries key value o

/-- The two labels of a domain differ. -/
lemma Domain.parentLabel_ne_templateLabel (d : Domain) : d.parentLabel ≠ d.templateLabel := by
  intro h
  have hlist := congrArg String.toList h
  simp [parentLabel, templateLabel] at hlist

/-- What holds a stamped child is what its template gives. -/
lemma ClusterObject.HeldAs.renderedFor {domain : Domain} {source : Placeholders} {r : Reference}
    {rendered : ClusterObject} {o : Json} (hlabels : source.labels.Increasing)
    (h : (stamp domain source r rendered).HeldAs o) : RenderedFor domain source r rendered o := by
  have hcarries := h.labels _ rfl
  have hne := domain.parentLabel_ne_templateLabel
  refine ⟨h.spec, hcarries _ _ ?_, hcarries _ _ ?_, fun key value hvalue htemplate hparent =>
    hcarries _ _ ?_⟩
  · rw [KeyMap.get?_insert, if_neg hne, KeyMap.get?_insert, if_pos rfl]
  · rw [KeyMap.get?_insert, if_pos rfl]
  · rw [KeyMap.get?_insert, if_neg hparent.symm, KeyMap.get?_insert, if_neg htemplate.symm,
      KeyMap.extend, KeyMap.get?_extendList, KeyMap.lookup_reverse hlabels.nodup]
    rw [KeyMap.get?] at hvalue
    rw [hvalue]
    rfl

namespace SourceObject

open ApiServer

/-- The labels of a source that is read are in order. -/
lemma increasing_labels_of_ofJson? {kind : SourceKind} {v : Json} {s : SourceObject}
    (h : ofJson? kind v = some s) : s.placeholders.labels.Increasing := by
  have hmetadata : s.metadata = {} ∨ ∃ d, Metadata.ofDatum? d = some s.metadata := by
    rw [ofJson?] at h
    split at h
    · obtain ⟨o, hread, h⟩ := Option.bind_eq_some_iff.1 h
      cases h
      exact (ClusterObject.metadata_of_ofJson? hread).imp And.right fun ⟨m, _, hm⟩ => ⟨_, hm⟩
    · split at h
      · cases h
      · obtain ⟨content, -, h⟩ := Option.bind_eq_some_iff.1 h
        dsimp only at h
        split at h
        · cases h
          exact .inl rfl
        · cases h
          exact .inl rfl
        · obtain ⟨metadata, hmetadata, h⟩ := Option.bind_eq_some_iff.1 h
          cases h
          exact .inr ⟨_, hmetadata⟩
  change (s.metadata.labels.getD .empty).Increasing
  rcases hmetadata with hempty | ⟨d, hread⟩
  · rw [hempty]
    exact List.Pairwise.nil
  · rcases hlabels : s.metadata.labels with _ | labels
    · exact List.Pairwise.nil
    · exact Metadata.increasing_labels_of_ofDatum? hread hlabels

variable {Client : Type} {x : OperatorContext Client} {kind : SourceKind} {v : Json}
  {s : SourceObject} {registry registry' : Registry Client} {w w' : State} {a : Action}

/-- A pass over an active source that succeeds leaves the server in line with the children that the
templates of the source give, and these stay the same. -/
private lemma inLine_of_pass (server : ApiServer x.domain) (hactive : s.IsActive)
    (hw : w.cluster.WellKept) (hrun : Operator.exec server.answer (s.pass x) registry w =
      ((.ok a, registry'), w')) :
    ∃ children, expectedChildren x.tools x.domain s.placeholders w.cluster = .ok children ∧
      expectedChildren x.tools x.domain s.placeholders w'.cluster = .ok children ∧
      InLine x.domain s.placeholders.reference.label children w'.cluster := by
  rw [pass_of_isActive hactive] at hrun
  rcases exec_reconcile server.readsFrom hw ⟨rfl, .refl w⟩ hrun with
    ⟨⟨e, he⟩, -⟩ | ⟨set, w₁, ⟨hw₁, -⟩, hset, hrun⟩
  · cases he
  · have hbrought := (triple_brought s hset _).ok (by rw [hw₁]; exact .start hw) hrun
    refine ⟨set.expected, hset.expected, ?_, hbrought.inLine hset⟩
    rw [← hset.expected]
    exact expectedChildren_congr fun ns name =>
      hbrought.find?_eq hw.addressed fun k => by cases k <;> decide

/-- A pass over an active source is quiet on a server that is in line. -/
private lemma quiet_of_inLine (server : ApiServer x.domain) (hactive : s.IsActive)
    {children : List ClusterObject}
    (hchildren : expectedChildren x.tools x.domain s.placeholders w.cluster = .ok children)
    (h : InLine x.domain s.placeholders.reference.label children w.cluster)
    (registry : Registry Client) :
    (Operator.exec server.answer (s.pass x) registry w).2.QuietSince w.requests := by
  rw [pass_of_isActive hactive]
  rcases hrun : Operator.exec server.answer (s.reconcile x s.placeholders) registry w
    with ⟨⟨result, registry'⟩, w'⟩
  rcases exec_reconcile server.readsFrom h.kept ⟨rfl, .refl w⟩ hrun with
    ⟨-, -, hquiet⟩ | ⟨set, w₁, ⟨hw₁, hquiet⟩, hset, hrun⟩
  · exact hquiet
  · cases hchildren.symm.trans hset.expected
    have hloops : Operator.Triple (@answer x.domain server Client) (State.QuietSince w.requests)
        (s.bringInLine s.placeholders set (.requeue x.options.requeueSeconds))
        (fun _ => State.QuietSince w.requests) (State.QuietSince w.requests) :=
      triple_quiet s h hset _
    rcases result with e | a
    · exact hloops.error hquiet hrun
    · exact hloops.ok hquiet hrun

/-- **Passes over sources converge.** Take a source that is read from a server, that is not to be
deleted and for which templates are rendered, and a server that keeps its objects in order. If a
pass over the source succeeds, then the objects that carry the label of the source are exactly those
of the keys of the expected children, each of which is there once. Each of them is what a template
that the source lists gives for it. A second pass with nothing changed in between deletes nothing
and publishes no event, whether it succeeds or not.

**Proof sketch.** What carries the label and is not expected is an orphan, so it is deleted. What is
applied is kept with its labels and with its specification, so that it is found by the selector the
next time, and no change is seen in it. -/
theorem pass_converges (server : ApiServer x.domain) (hread : ofJson? kind v = some s)
    (hactive : s.IsActive) (hw : w.cluster.WellKept)
    (hrun : Operator.exec server.answer (s.pass x) registry w = ((.ok a, registry'), w')) :
    ∃ children, expectedChildren x.tools x.domain s.placeholders w.cluster = .ok children ∧
      (children.map ClusterObject.childKey).Nodup ∧ w'.cluster.WellKept ∧
      (∀ key : ChildKey, (∃ o ∈ w'.cluster.objects, key.Names o ∧
          Carries x.domain.parentLabel s.placeholders.reference.label o) ↔
        key ∈ children.map ClusterObject.childKey) ∧
      (∀ child ∈ children, ∃ o ∈ w'.cluster.objects, child.childKey.Names o ∧
        (∀ o' ∈ w'.cluster.objects, child.childKey.Names o' → o' = o) ∧
        ∃ references, templateReferences x.domain s.placeholders.annotations s.placeholders.ns =
            .ok references ∧
          ∃ r ∈ references, ∃ template rendered, w.cluster.template? r = .ok (some template) ∧
            template.render x.tools s.placeholders = .ok rendered ∧
            child = stamp x.domain s.placeholders r rendered ∧
            RenderedFor x.domain s.placeholders r rendered o) ∧
      ∀ registry : Registry Client,
        (Operator.exec server.answer (s.pass x) registry w').2.QuietSince w'.requests := by
  obtain ⟨children, hchildren, hafter, hinLine⟩ := inLine_of_pass server hactive hw hrun
  refine ⟨children, hchildren, nodup_map_expectedChildren hchildren, hinLine.kept,
    hinLine.carries_iff, fun child hchild => ?_, quiet_of_inLine server hactive hafter hinLine⟩
  obtain ⟨o, ho, hname, hheld⟩ := hinLine.held child hchild
  obtain ⟨references, hreferences, r, hr, template, rendered, htemplate, hrender, rfl⟩ :=
    exists_of_mem_expectedChildren hchildren hchild
  refine ⟨o, ho, hname, fun o' ho' hname' => ?_, references, hreferences, r, hr, template, rendered,
    htemplate, hrender, rfl, hheld.renderedFor (increasing_labels_of_ofJson? hread)⟩
  exact List.inj_on_of_nodup_map hinLine.kept.addressed ho' ho (hname'.address_eq hname)

/-- An ingress that lists a template, with a label of its own. -/
def annotatedIngress : Json := .ofEntries [
  ("apiVersion", .str "networking.k8s.io/v1"), ("kind", .str "Ingress"),
  ("metadata", .ofEntries [
    ("annotations", .ofEntries
      [(Domain.default.templatesAnnotation, .str "[\x7b\"name\":\"check\"\x7d]")]),
    ("labels", .ofEntries [("team", .str "edge")]), ("name", .str "web"),
    ("namespace", .str "prod")])]

/-- A server that switches active checks on where a service does not say. -/
def checkingServer : ApiServer .default :=
  .defaulting .default (by decide) "activeCheckEnabled" (.bool true)

/-- An ingress with one template on a server with a default: after a pass the child of the template
alone carries the label of the ingress, with the label that the ingress has, and the next pass is
quiet. -/
theorem pass_converges_annotated :
    ∃ s w', ofJson? .ingress annotatedIngress = some s ∧
      (Operator.exec checkingServer.answer (s.pass .plain) .single
        ⟨Surroundings.withTemplate.cluster, []⟩).2 = w' ∧
      (∀ key : ChildKey, (∃ o ∈ w'.cluster.objects, key.Names o ∧
          Carries Domain.default.parentLabel "prod.web" o) ↔
        key = ChildKind.service.key "prod" "check") ∧
      (∃ o ∈ w'.cluster.objects, (ChildKind.service.key "prod" "check").Names o ∧
        Carries "team" "edge" o) ∧
      (Operator.exec checkingServer.answer (s.pass .plain) .single w').2.QuietSince
        w'.requests := by
  have hruns : (ofJson? .ingress annotatedIngress).any fun s => decide (
      (s.metadata.deletionTimestamp = none ∧ s.isSource = true) ∧
      s.placeholders.reference.label = "prod.web" ∧
      s.placeholders.labels.get? "team" = some "edge" ∧
      (expectedChildren {} .default s.placeholders Surroundings.withTemplate.cluster).toOption.map
        (List.map ClusterObject.childKey) = some [ChildKind.service.key "prod" "check"] ∧
      (Operator.exec checkingServer.answer (s.pass .plain) .single
        ⟨Surroundings.withTemplate.cluster, []⟩).1.1 = .ok (.requeue 3600)) := by decide +kernel
  rcases hread : ofJson? .ingress annotatedIngress with _ | s
  · rw [hread] at hruns
    cases hruns
  rw [hread, Option.any_some, decide_eq_true_eq] at hruns
  obtain ⟨hactive, hlabel, hteam, hkeys, hok⟩ := hruns
  rcases hrun : Operator.exec checkingServer.answer (s.pass .plain) .single
    ⟨Surroundings.withTemplate.cluster, []⟩ with ⟨⟨result, registry⟩, w'⟩
  obtain rfl : result = .ok (.requeue 3600) := by rw [← hok, hrun]
  obtain ⟨children, hchildren, -, -, hcarries, hheld, hquiet⟩ := pass_converges
    (x := .plain) checkingServer hread hactive SourcePass.wellKept_withTemplate hrun
  rw [hlabel] at hcarries
  have hkeys' : children.map ClusterObject.childKey = [ChildKind.service.key "prod" "check"] := by
    rw [show expectedChildren {} Domain.default s.placeholders Surroundings.withTemplate.cluster =
      .ok children from hchildren] at hkeys
    exact Option.some.inj hkeys
  refine ⟨s, w', rfl, congrArg Prod.snd hrun, fun key => ?_, ?_, hquiet .single⟩
  · rw [← List.mem_singleton, ← hkeys']
    exact hcarries key
  · obtain ⟨child, hchild, hkey⟩ := List.mem_map.1 (hkeys' ▸ List.mem_singleton_self _ :
      ChildKind.service.key "prod" "check" ∈ children.map ClusterObject.childKey)
    obtain ⟨o, ho, hname, -, -, -, r, -, template, rendered, -, -, -, hrendered⟩ :=
      hheld child hchild
    rw [hkey] at hname
    exact ⟨o, ho, hname, hrendered.labels "team" "edge" hteam (by decide) (by decide)⟩

end SourceObject

end MonitorSync
