import MonitorSync.Proofs.Operator.Trace
import MonitorSync.Proofs.Source.Isolation
import MonitorSync.Proofs.Source.Steps
set_option autoImplicit false

/-!
# The order of what a pass over a source does

A pass over a source reads, then applies, then deletes, and ends at the first failure. So it deletes
nothing unless it could read everything and apply everything that it read. This holds against any
API server, which may answer as it likes and otherwise at every request.

## Main definitions

* `FatalFor` — what ends the search for the children of a source.
* `TellsTypes` — a server that tells the types of objects.
* `withTypes` — a server that keeps back what is not of the type that was asked for.

## Main results

* `resolveChildren_fails_iff` — why the search for the children of a source fails.
* `tellsTypes_withTypes` — a server that keeps the rest back tells types.
* `SourceObject.pass_deletes_last` — a pass deletes only what is not expected, and only after it has
  applied all that is.
-/

namespace MonitorSync

variable {Client σ α β : Type}

/-! ## Searches that fail -/

/-- An exchange with the store after which the children of a source are not known: the call failed,
or it told of a template that cannot be rendered for the source. -/
def FatalFor (tools : Mustache.Tools) (source : Placeholders)
    (e : Exchange StoreCall.Answer) : Prop :=
  (∃ failure, e.answer = .error failure) ∨
    ∃ ns name template failure, e = ⟨.getTemplate ns name, .ok (some template)⟩ ∧
      template.render tools source = .error failure

/-- Work on the store that fails exactly if one of its calls is fatal. -/
structure FailsOnFatal (tools : Mustache.Tools) (source : Placeholders) (work : StoreWork α) :
    Prop where
  iff {τ : Type} (answer : (q : StoreCall) → τ → q.Answer × τ) (s : τ) :
    (∃ failure, (Program.exec answer work s).1 = .error failure) ↔
      ∃ e ∈ Program.exchanges answer work s, FatalFor tools source e

namespace FailsOnFatal

variable {tools : Mustache.Tools} {source : Placeholders} {domain : Domain}

protected theorem pure (a : α) : FailsOnFatal tools source (Pure.pure a : StoreWork α) := by
  refine ⟨fun answer s => ?_⟩
  simp

/-- A call for children is fatal if it fails. -/
theorem call {q : StoreCall} (hq : ∀ ns name, q ≠ .getTemplate ns name) :
    FailsOnFatal tools source (StoreWork.call q) := by
  refine ⟨fun answer s => ?_⟩
  have hexchanges : Program.exchanges answer (StoreWork.call q) s = [⟨q, (answer q s).1⟩] := rfl
  have hexec : (Program.exec answer (StoreWork.call q) s).1 = (answer q s).1 := rfl
  rw [hexchanges, hexec]
  constructor
  · intro h
    exact ⟨_, List.mem_singleton_self _, .inl h⟩
  · rintro ⟨e, he, hfatal⟩
    obtain rfl := List.mem_singleton.1 he
    rcases hfatal with h | ⟨ns, name, _, _, heq, -⟩
    · exact h
    · exact absurd (congrArg Exchange.call heq) (hq ns name)

/-- Work goes on after what was not fatal. -/
theorem bind {x : StoreWork α} {f : α → StoreWork β} (hx : FailsOnFatal tools source x)
    (hf : ∀ a, FailsOnFatal tools source (f a)) : FailsOnFatal tools source (x >>= f) := by
  refine ⟨fun answer s => ?_⟩
  have hfirst := hx.iff answer s
  rw [Program.exec_bind, Program.exchanges_bind]
  rcases hr : Program.exec answer x s with ⟨failure | a, t⟩
  · rw [hr] at hfirst
    have hfatal := hfirst.1 ⟨failure, rfl⟩
    dsimp only
    rw [List.append_nil]
    exact iff_of_true ⟨failure, rfl⟩ hfatal
  · rw [hr] at hfirst
    have hnone : ¬ ∃ e ∈ Program.exchanges answer x s, FatalFor tools source e := by
      rw [← hfirst]
      simp
    dsimp only
    rw [(hf a).iff answer t]
    simp only [List.mem_append, or_and_right, exists_or, hnone, false_or]

theorem mapM {f : α → StoreWork β} (hf : ∀ a, FailsOnFatal tools source (f a)) (xs : List α) :
    FailsOnFatal tools source (xs.mapM f) := by
  induction xs with
  | nil => exact .pure []
  | cons x xs ih =>
    rw [List.mapM_cons]
    exact (hf x).bind fun b => ih.bind fun bs => .pure _

/-- A call that is not fatal leaves it to the others. -/
private lemma mem_cons_iff_of_not {e : Exchange StoreCall.Answer}
    {es : List (Exchange StoreCall.Answer)} (he : ¬ FatalFor tools source e) :
    (∃ d ∈ [e] ++ es, FatalFor tools source d) ↔ ∃ d ∈ es, FatalFor tools source d := by
  simp [he]

/-- A template that is told of is fatal if it cannot be rendered. -/
theorem template {ns name : String} {g : Option Template → StoreWork α}
    {f : Template → ClusterObject → StoreWork α} (hnone : FailsOnFatal tools source (g none))
    (hsome : ∀ template, g (some template) =
      (ExceptT.mk (Pure.pure (template.render tools source)) >>= f template))
    (hf : ∀ template rendered, FailsOnFatal tools source (f template rendered)) :
    FailsOnFatal tools source (StoreWork.call (.getTemplate ns name) >>= g) := by
  refine ⟨fun answer s => ?_⟩
  have hexchanges : Program.exchanges answer (StoreWork.call (.getTemplate ns name)) s =
      [⟨.getTemplate ns name, (answer (.getTemplate ns name) s).1⟩] := rfl
  have hexec : Program.exec answer (StoreWork.call (.getTemplate ns name)) s =
      answer (.getTemplate ns name) s := rfl
  rw [Program.exec_bind, Program.exchanges_bind, hexchanges, hexec]
  rcases answer (.getTemplate ns name) s with ⟨failure | _ | template, t⟩
  · exact iff_of_true ⟨failure, rfl⟩ ⟨_, List.mem_cons_self, .inl ⟨failure, rfl⟩⟩
  · refine (hnone.iff answer t).trans (mem_cons_iff_of_not ?_).symm
    rintro (⟨_, h⟩ | ⟨_, _, _, _, h, -⟩) <;> cases h
  · dsimp only
    rw [hsome]
    rcases hrender : template.render tools source with failure | rendered
    · exact iff_of_true ⟨failure, rfl⟩
        ⟨_, List.mem_cons_self, .inr ⟨ns, name, template, failure, rfl, hrender⟩⟩
    · -- a template that can be rendered is not fatal itself, so the rest decides
      refine ((hf template rendered).iff answer t).trans (mem_cons_iff_of_not ?_).symm
      rintro (⟨_, h⟩ | ⟨_, _, _, _, h, hfails⟩)
      · cases h
      · cases h
        rw [hrender] at hfails
        cases hfails

theorem resolveReference (r : Reference) :
    FailsOnFatal tools source (resolveReference tools domain source r) := by
  refine FailsOnFatal.template (.pure _) (fun _ => rfl) fun template rendered => ?_
  dsimp only
  split
  · exact .pure _
  · exact (FailsOnFatal.call fun _ _ h => by cases h).bind fun _ => .pure _

end FailsOnFatal

/-- **Why children are not found.** The search for the children of a source fails exactly if the
annotation that lists its templates cannot be read, if a call to the store fails, or if a template
that the store told of cannot be rendered. -/
theorem resolveChildren_fails_iff (tools : Mustache.Tools) (domain : Domain) (source : Placeholders)
    (answer : (q : StoreCall) → σ → q.Answer × σ) (s : σ) :
    (∃ failure, (Program.exec answer (resolveChildren tools domain source) s).1 = .error failure) ↔
      (∃ failure, templateReferences domain source.annotations source.ns = .error failure) ∨
      ∃ e ∈ Program.exchanges answer (resolveChildren tools domain source) s,
        FatalFor tools source e := by
  rw [resolveChildren]
  rcases hreferences : templateReferences domain source.annotations source.ns
    with failure | references
  · exact iff_of_true ⟨failure, rfl⟩ (.inl ⟨failure, rfl⟩)
  · have hreference (r : Reference) :
        FailsOnFatal tools source (resolveReference tools domain source r) := .resolveReference r
    have hlist (k : ChildKind) :
        FailsOnFatal tools source
          (StoreWork.call (.listChildren k (childSelector domain source))) :=
      .call fun _ _ h => by cases h
    have hsearch := ((FailsOnFatal.mapM hreference references).bind fun found =>
      (FailsOnFatal.mapM hlist ChildKind.all).bind fun listed =>
        .pure (⟨dedupChildren (found.flatMap (·.expected)),
          dedupChildren (found.flatMap (·.current) ++ listed.flatten)⟩ : ChildSet)).iff answer s
    refine hsearch.trans ⟨.inr, ?_⟩
    rintro (⟨failure, h⟩ | h)
    · cases h
    · exact h

/-! ## What is found -/

/-- An object says that it is of the group and the kind of a type. -/
def Json.IsOfType (v : Json) (t : ObjectType) : Prop :=
  ∃ version, v.get? "apiVersion" = some (.str version) ∧
    (⟨version, t.kind⟩ : ObjectType).group = t.group ∧ v.get? "kind" = some (.str t.kind)

/-- A server tells of an object the type under which it was asked for; in lists it may leave types
out. -/
structure TellsTypes (answer : (c : OperatorCall Client) → σ → c.Answer × σ) : Prop where
  get {t : ObjectType} {ns name : String} {s : σ} {v : Json}
    (h : (answer (.api (.get t ns name)) s).1 = .ok v) : v.IsOfType t
  list {t : ObjectType} {selector : String} {s : σ} {items : List Json}
    (h : (answer (.api (.list t selector)) s).1 = .ok items) :
    ∀ v ∈ items, v.IsOfType t ∨ v.get? "apiVersion" = none

/-- A value under a key is a text exactly if it is read as that text. -/
private lemma bind_toText?_eq_some_iff {v : Option Json} {s : String} :
    v.bind Json.toText? = some s ↔ v = some (.str s) := by
  rcases v with _ | v
  · simp
  · cases v <;> simp [Json.toText?]

/-- Whether an object says that it is of a type can be computed. -/
instance (v : Json) (t : ObjectType) : Decidable (v.IsOfType t) :=
  decidable_of_iff
    ((∃ version ∈ (v.get? "apiVersion").bind Json.toText?,
      (⟨version, t.kind⟩ : ObjectType).group = t.group) ∧
        (v.get? "kind").bind Json.toText? = some t.kind) <| by
    simp only [Option.mem_def, bind_toText?_eq_some_iff, Json.IsOfType, exists_and_right,
      ← and_assoc]

/-- The answers of a system that keeps back what is not of the type that was asked for. -/
def withTypes (answer : (c : OperatorCall Client) → σ → c.Answer × σ) :
    (c : OperatorCall Client) → σ → c.Answer × σ
  | .api (.get t ns name), s =>
    let (reply, s') := answer (.api (.get t ns name)) s
    (reply.bind fun v => if v.IsOfType t then .ok v else .error .notFound, s')
  | .api (.list t selector), s =>
    let (reply, s') := answer (.api (.list t selector)) s
    (reply.map fun items =>
      items.filter fun v => v.IsOfType t ∨ (v.get? "apiVersion").isNone, s')
  | c, s => answer c s

/-- **Servers that tell types.** A system that keeps back what is not of the type that was asked for
tells types, whatever it holds. -/
lemma tellsTypes_withTypes (answer : (c : OperatorCall Client) → σ → c.Answer × σ) :
    TellsTypes (withTypes answer) := by
  refine ⟨fun {t ns name s v} h => ?_, fun {t selector s items} h v hv => ?_⟩
  · have hkept : ∀ reply : Except ApiFault Json,
        (reply.bind fun v => if v.IsOfType t then .ok v else .error .notFound) = .ok v →
          v.IsOfType t := by
      rintro (fault | v') hreply
      · cases hreply
      · dsimp only [Except.bind] at hreply
        split at hreply
        · next htype =>
          cases hreply
          exact htype
        · cases hreply
    exact hkept _ h
  · have hkept : ∀ reply : Except ApiFault (List Json),
        (reply.map fun items =>
          items.filter fun v => v.IsOfType t ∨ (v.get? "apiVersion").isNone) = .ok items →
          v.IsOfType t ∨ v.get? "apiVersion" = none := by
      rintro (fault | items') hreply
      · cases hreply
      · cases hreply
        simpa using (List.mem_filter.1 hv).2
    exact hkept _ h

/-- The key of a child is that of one of the kinds of children. -/
def ClusterObject.HasKnownKey (o : ClusterObject) : Prop :=
  ∃ k ns name, o.childKey = ChildKind.key k ns name

section Found

variable {answer : (c : OperatorCall Client) → σ → c.Answer × σ} {tools : Mustache.Tools}
  {domain : Domain} {source : Placeholders} {s t : σ}

/-- A child of the type of a kind has a key of the kind. -/
private lemma ClusterObject.hasKnownKey_of_types {o : ClusterObject} {k : ChildKind}
    {version : String}
    (hgroup : (⟨version, k.type.kind⟩ : ObjectType).group = k.type.group)
    (ho : o.types = some ⟨version, k.type.kind⟩) : o.HasKnownKey := by
  refine ⟨k, o.metadata.nsOrEmpty, o.metadata.anyName, ?_⟩
  rw [childKey, ho, ChildKind.key, Option.elim_some, Option.elim_some, hgroup]
  rfl

/-- A child that is read of an object of the type of its kind is known. -/
private lemma ClusterObject.hasKnownKey_of_ofJson? {v : Json} {o : ClusterObject} {k : ChildKind}
    (hv : v.IsOfType k.type) (ho : ofJson? v = some o) : o.HasKnownKey := by
  obtain ⟨version, hversion, hgroup, hkind⟩ := hv
  exact hasKnownKey_of_types hgroup (types_of_ofJson? ho hversion hkind).1

/-- An object that was looked for and found was told of. -/
private lemma exists_of_run_askOptional {k : ObjectType} {ns name : String} {v : Json}
    (h : Program.run answer (Operator.askOptional k ns name) s = (.ok (some v), t)) :
    (answer (.api (.get k ns name)) s).1 = .ok v := by
  rw [Operator.askOptional, Program.run_bind, Operator.run_ask] at h
  by_cases hname : (ApiRequest.get k ns name).name? = some ""
  · rw [if_pos hname] at h
    have hfound : (ApiFault.notSent "A non-empty name is required").isNotFound = false := rfl
    simp [hfound] at h
  · rw [if_neg hname] at h
    rcases hanswer : answer (.api (.get k ns name)) s with ⟨fault | v', u⟩
    · rw [hanswer] at h
      dsimp only at h
      split at h <;> cases h
    · rw [hanswer] at h
      cases h
      rfl

/-- A child that is found by its name is known. -/
private lemma TellsTypes.hasKnownKey_of_getChild (htypes : TellsTypes answer) {k : ChildKind}
    {ns name : String} {o : ClusterObject}
    (h : Operator.storeAnswer answer (.getChild k ns name) s = (.ok (some o), t)) :
    o.HasKnownKey := by
  rw [Operator.storeAnswer, Operator.storeCall, Program.run_bind] at h
  rcases hask : Program.run answer (Operator.askOptional k.type ns name) s
    with ⟨fault | (_ | v), u⟩
  · rw [hask] at h
    cases h
  · rw [hask] at h
    cases h
  · rw [hask] at h
    have hread : (Operator.readReply ClusterObject.ofJson? v).map some = .ok (some o) :=
      congrArg Prod.fst h
    rw [Operator.readReply] at hread
    split at hread
    · next o' ho =>
      cases hread
      exact ClusterObject.hasKnownKey_of_ofJson?
        (htypes.get (exists_of_run_askOptional hask)) ho
    · cases hread

/-- A child that is listed is known. -/
private lemma TellsTypes.hasKnownKey_of_listChildren (htypes : TellsTypes answer) {k : ChildKind}
    {selector : String} {items : List ClusterObject}
    (h : Operator.storeAnswer answer (.listChildren k selector) s = (.ok items, t)) :
    ∀ o ∈ items, o.HasKnownKey := by
  rw [Operator.storeAnswer, Operator.storeCall, Program.run_bind, Operator.run_ask,
    if_neg (by rintro ⟨⟩)] at h
  rcases hlist : answer (.api (.list k.type selector)) s with ⟨fault | vs, u⟩
  · rw [hlist] at h
    cases h
  · rw [hlist] at h
    have hread : vs.mapM (Operator.readChild k) = .ok items := congrArg Prod.fst h
    intro o ho
    obtain ⟨v, hv, hchild⟩ := exists_of_forall₂_right (mapM_eq_ok_iff.1 hread) o ho
    obtain ⟨o', ho', rfl⟩ := exists_of_readChild hchild
    rcases htypes.list (congrArg Prod.fst hlist) v hv with htype | huntyped
    · obtain ⟨version, hversion, hgroup, hkind⟩ := htype
      refine ClusterObject.hasKnownKey_of_types hgroup ?_
      rw [(ClusterObject.types_of_ofJson? ho' hversion hkind).1]
      rfl
    · have hgroup : (⟨k.type.apiVersion, k.type.kind⟩ : ObjectType).group = k.type.group := rfl
      refine ClusterObject.hasKnownKey_of_types hgroup ?_
      rw [ClusterObject.types_of_ofJson?_untyped ho' huntyped]
      rfl

variable (answer) in
/-- What is said of the children that were found. -/
private structure KnownChildren (set : ChildSet) : Prop where
  expected : ∀ child ∈ set.expected, child.HasKnownKey
  current : TellsTypes answer → ∀ o ∈ set.current, o.HasKnownKey

/-- The children of one template are known. -/
private lemma knownChildren_of_resolveReference {r : Reference} {set : ChildSet}
    (h : Program.exec (Operator.storeAnswer answer) (resolveReference tools domain source r) s =
      (.ok set, t)) : KnownChildren answer set := by
  obtain ⟨template, s₁, -, h⟩ := Program.exec_bind_ok h
  rcases template with _ | template
  · cases h
    exact ⟨by simp, by simp⟩
  · obtain ⟨rendered, s₂, hpure, h⟩ := Program.exec_bind_ok h
    have hrender : template.render tools source = .ok rendered := congrArg Prod.fst hpure
    obtain ⟨k, hk⟩ := Template.rendered_of_render hrender
    obtain ⟨ns, name, hstamped⟩ := hk.stamp domain source r
    have hknown : (stamp domain source r rendered).HasKnownKey :=
      ⟨k, ns, name, hstamped.childKey_eq⟩
    dsimp only at h
    rw [hstamped.childKey_eq] at h
    simp only [ChildKind.key, ChildKind.ofName?_name] at h
    obtain ⟨present, s₃, hpresent, h⟩ := Program.exec_bind_ok h
    cases h
    refine ⟨by simpa using hknown, fun htypes o ho => ?_⟩
    rcases present with _ | o'
    · cases ho
    · obtain rfl : o = o' := by simpa using ho
      exact htypes.hasKnownKey_of_getChild hpresent

/-- **Known children.** All expected children have keys of kinds of children, and so have those that
were found if the server tells types. -/
private lemma knownChildren_of_resolveChildren {set : ChildSet}
    (h : Program.exec (Operator.storeAnswer answer) (resolveChildren tools domain source) s =
      (.ok set, t)) : KnownChildren answer set := by
  obtain ⟨references, s₁, -, h⟩ := Program.exec_bind_ok h
  obtain ⟨found, s₂, hrendering, h⟩ := Program.exec_bind_ok h
  obtain ⟨-, hfound⟩ := Program.exec_mapM_ok (I := fun _ => True)
    (P := fun _ set => KnownChildren answer set)
    (fun _ hstep => ⟨trivial, knownChildren_of_resolveReference hstep⟩) trivial hrendering
  obtain ⟨listed, s₃, hlisting, h⟩ := Program.exec_bind_ok h
  obtain ⟨-, hlisted⟩ := Program.exec_mapM_ok (I := fun _ => True)
    (P := fun _ items => TellsTypes answer → ∀ o ∈ items, ClusterObject.HasKnownKey o)
    (fun {k s items t} _ (hstep : Program.exec (Operator.storeAnswer answer) (StoreWork.call
      (.listChildren k (childSelector domain source))) s = (.ok items, t)) =>
        ⟨trivial, fun htypes => htypes.hasKnownKey_of_listChildren hstep⟩) trivial hlisting
  cases h
  refine ⟨fun child hchild => ?_, fun htypes o ho => ?_⟩
  · obtain ⟨part, hpart, hchild⟩ := List.mem_flatMap.1 (mem_of_mem_dedupChildren hchild)
    obtain ⟨r, -, hknown⟩ := exists_of_forall₂_right hfound part hpart
    exact hknown.expected child hchild
  · rcases List.mem_append.1 (mem_of_mem_dedupChildren ho) with ho | ho
    · obtain ⟨part, hpart, ho⟩ := List.mem_flatMap.1 ho
      obtain ⟨r, -, hknown⟩ := exists_of_forall₂_right hfound part hpart
      exact hknown.current htypes o ho
    · obtain ⟨items, hitems, ho⟩ := List.mem_flatten.1 ho
      obtain ⟨k, -, hknown⟩ := exists_of_forall₂_right hlisted items hitems
      exact hknown htypes o ho

end Found

/-! ## Steps -/

section Steps

variable {answer : (c : OperatorCall Client) → σ → c.Answer × σ} {child : ClusterObject}
  {o : SourceObject} {p : Placeholders} {current : List ClusterObject} {r r' : Registry Client}
  {s t : σ} {e : OperatorExchange Client}

/-- A request that succeeds was made and answered. -/
private lemma mem_exchanges_of_request_ok {q : ApiRequest} {reply : q.Reply}
    (h : Operator.exec answer (Operator.request q) r s = ((.ok reply, r'), t)) :
    ⟨.api q, .ok reply⟩ ∈ Operator.exchanges answer (Operator.request q) r s := by
  have hnamed : q.name? ≠ some "" := by
    intro hname
    rw [Operator.request, Operator.exec_bind, Operator.exec_lift, Operator.run_ask,
      if_pos hname] at h
    cases h
  obtain ⟨-, hanswer⟩ := Operator.exec_request_ok h
  rw [Operator.exchanges_request, Operator.trace_ask, if_neg hnamed, hanswer]
  exact List.mem_singleton_self _

/-- Publishing applies and deletes nothing. -/
private lemma harmless_of_mem_publish {regarding : ObjectReference} {event : ChangeEvent}
    (h : e ∈ Operator.exchanges answer (Operator.publish regarding event) r s) : e.Harmless := by
  rw [Operator.publish, Operator.exchanges_request] at h
  obtain rfl := Operator.eq_of_mem_trace_ask h
  exact ⟨rfl, rfl⟩

/-- Applying a child deletes nothing. -/
private lemma deleted?_of_mem_applyExpected
    (h : e ∈ Operator.exchanges answer (o.applyExpected p current child) r s) :
    e.deleted? = none := by
  have happly {r : Registry Client} {s : σ}
      (h : e ∈ Operator.exchanges answer (applyChild child o.owner?) r s) : e.deleted? = none := by
    rw [applyChild] at h
    dsimp only at h
    split at h
    · cases h
    · rw [Operator.exchanges_bind, Operator.exchanges_request] at h
      rcases List.mem_append.1 h with h | h
      · obtain rfl := Operator.eq_of_mem_trace_ask h
        rfl
      · split at h
        · split at h <;> cases h
        · cases h
  rw [SourceObject.applyExpected, Operator.exchanges_bind] at h
  rcases List.mem_append.1 h with h | h
  · exact happly h
  · split at h
    · dsimp only at h
      split at h
      · exact (harmless_of_mem_publish h).2
      · exact (harmless_of_mem_publish h).2
      · cases h
    · cases h

/-- A child of a known key that is applied without a failure was applied. -/
private lemma exists_applied_of_applyExpected_ok (hchild : child.HasKnownKey)
    (h : Operator.exec answer (o.applyExpected p current child) r s = ((.ok (), r'), t)) :
    ∃ a ∈ Operator.exchanges answer (o.applyExpected p current child) r s,
      a.applied? = some child.childKey ∧ a.Succeeded := by
  obtain ⟨k, ns, name, hkey⟩ := hchild
  obtain ⟨reference, r₁, s₁, hreference, -⟩ := Operator.exec_bind_ok h
  have hsub : Operator.exchanges answer (applyChild child o.owner?) r s ⊆
      Operator.exchanges answer (o.applyExpected p current child) r s := by
    rw [SourceObject.applyExpected, Operator.exchanges_bind]
    exact List.subset_append_left _ _
  rw [applyChild, hkey] at hreference hsub
  simp only [ChildKind.key, ChildKind.ofName?_name] at hreference hsub
  obtain ⟨reply, r₂, s₂, hrequest, -⟩ := Operator.exec_bind_ok hreference
  have hmem := mem_exchanges_of_request_ok hrequest
  refine ⟨⟨.api (.apply k.type ns name operatorName true (child.toApply o.owner?).toJson),
    .ok reply⟩, hsub ?_, ?_, reply, rfl⟩
  · rw [Operator.exchanges_bind]
    exact List.mem_append_left _ hmem
  · rw [hkey]
    rfl

/-- What is deleted for an orphan has its kind, namespace and name. -/
private lemma deleted?_of_mem_deleteOrphan
    (h : e ∈ Operator.exchanges answer (o.deleteOrphan p child) r s) {key : ChildKey}
    (hkey : e.deleted? = some key) :
    ∃ k : ChildKind, child.childKey.kind = k.name ∧
      key = k.key child.childKey.ns child.childKey.name := by
  have hdelete {r : Registry Client} {s : σ}
      (h : e ∈ Operator.exchanges answer (deleteChild child) r s) :
      ∃ k : ChildKind, child.childKey.kind = k.name ∧
        key = k.key child.childKey.ns child.childKey.name := by
    rw [deleteChild] at h
    split at h
    · cases h
    · next k hk =>
      rw [Operator.exchanges_bind, Operator.exchanges_lift, Operator.exec_lift] at h
      rcases List.mem_append.1 h with h | h
      · obtain rfl := Operator.eq_of_mem_trace_ask h
        exact ⟨k, ChildKind.name_of_ofName? hk, (Option.some.inj hkey).symm⟩
      · revert h
        rcases (Program.run answer (Operator.ask _) s).1 with fault | reply
        · dsimp only
          split <;> intro h <;> cases h
        · intro h
          cases h
  rw [SourceObject.deleteOrphan, Operator.exchanges_bind] at h
  rcases List.mem_append.1 h with h | h
  · exact hdelete h
  · split at h
    · rw [(harmless_of_mem_publish h).2] at hkey
      cases hkey
    · cases h

end Steps

/-! ## Passes -/

namespace SourceObject

variable {answer : (c : OperatorCall Client) → σ → c.Answer × σ} {x : OperatorContext Client}
  {o : SourceObject} {p : Placeholders} {set : ChildSet} {r r' : Registry Client} {s : σ}
  {e : OperatorExchange Client}

/-- A pass makes the calls of its search for children, and goes on only if that succeeds. -/
private lemma exchanges_reconcile (answer : (c : OperatorCall Client) → σ → c.Answer × σ)
    (x : OperatorContext Client) (o : SourceObject) (p : Placeholders) (r : Registry Client)
    (s : σ) :
    Operator.exchanges answer (o.reconcile x p) r s =
      Operator.exchanges answer (Operator.onStore (resolveChildren x.tools x.domain p)) r s ++
        match Program.exec (Operator.storeAnswer answer) (resolveChildren x.tools x.domain p) s with
        | (.ok set, t) => Operator.exchanges answer
            (o.bringInLine p set (.requeue x.options.requeueSeconds)) r t
        | (.error _, _) => [] := by
  rw [reconcile, Operator.exchanges_bind, Operator.exec_onStore]
  rcases Program.exec (Operator.storeAnswer answer) (resolveChildren x.tools x.domain p) s
    with ⟨_ | set, t⟩ <;> rfl

/-- What is not in the first part of a list comes after all of it. -/
private lemma exists_of_append_eq {α : Type} {xs ys before after : List α} {e : α}
    (h : xs ++ ys = before ++ e :: after) (he : e ∉ xs) :
    ∃ between, before = xs ++ between ∧ ys = between ++ e :: after := by
  rcases List.append_eq_append_iff.1 h with ⟨between, hbefore, hys⟩ | ⟨rest, hxs, hys⟩
  · exact ⟨between, hbefore, hys⟩
  · rcases rest with _ | ⟨d, rest⟩
    · rw [List.append_nil] at hxs
      exact ⟨[], by rw [hxs, List.append_nil], hys.symm⟩
    · obtain ⟨rfl, -⟩ := List.cons.inj hys
      exact absurd (by simp [hxs]) he

/-- **Applying before deleting.** Once a pass knows the children of its source, it deletes orphans
only, and only after it has applied all that is expected. -/
private lemma applied_of_deleted_bringInLine (hknown : ∀ child ∈ set.expected, child.HasKnownKey)
    {a : Action} {before after : List (OperatorExchange Client)} {key : ChildKey}
    (hcalls : Operator.exchanges answer (o.bringInLine p set a) r s = before ++ e :: after)
    (hkey : e.deleted? = some key) :
    (∀ child ∈ set.expected, ∃ d ∈ before, d.applied? = some child.childKey ∧ d.Succeeded) ∧
      ∃ orphan ∈ set.orphans, ∃ k : ChildKind, orphan.childKey.kind = k.name ∧
        key = k.key orphan.childKey.ns orphan.childKey.name := by
  have hnotApplying {t : σ} {r : Registry Client} :
      e ∉ Operator.exchanges answer (set.expected.forM (o.applyExpected p set.current)) r t := by
    intro he
    obtain ⟨child, -, r₁, s₁, hstep⟩ := Operator.mem_exchanges_forM he
    rw [deleted?_of_mem_applyExpected hstep] at hkey
    cases hkey
  rw [bringInLine, Operator.exchanges_bind] at hcalls
  rcases happly : Operator.exec answer (set.expected.forM (o.applyExpected p set.current)) r s
    with ⟨⟨failure | _, r₁⟩, s₁⟩
  · rw [happly] at hcalls
    dsimp only at hcalls
    rw [List.append_nil] at hcalls
    exact absurd (by rw [hcalls]; simp) hnotApplying
  · rw [happly] at hcalls
    dsimp only at hcalls
    rw [Operator.exchanges_bind_pure] at hcalls
    -- what deletes is none of the calls of the first loop
    obtain ⟨between, rfl, hdeleting⟩ := exists_of_append_eq hcalls hnotApplying
    refine ⟨fun child hchild => ?_, ?_⟩
    · obtain ⟨r₂, r₃, s₂, s₃, hstep, hsub⟩ :=
        Operator.exchanges_subset_of_forM_ok happly child hchild
      obtain ⟨d, hd, happlied⟩ := exists_applied_of_applyExpected_ok (hknown child hchild) hstep
      exact ⟨d, List.mem_append_left _ (hsub hd), happlied⟩
    · have hmem : e ∈ between ++ e :: after := by simp
      rw [← hdeleting] at hmem
      obtain ⟨orphan, horphan, r₂, s₂, hstep⟩ := Operator.mem_exchanges_forM hmem
      exact ⟨orphan, horphan, deleted?_of_mem_deleteOrphan hstep hkey⟩

/-- A pass that does not find the children of its source only reads. -/
private lemma harmless_of_search_fails
    (hfails : ∃ failure, (Program.exec (Operator.storeAnswer answer)
      (resolveChildren x.tools x.domain p) s).1 = .error failure)
    (he : e ∈ Operator.exchanges answer (o.reconcile x p) r s) : e.Harmless := by
  obtain ⟨failure, hfails⟩ := hfails
  rw [exchanges_reconcile] at he
  rcases List.mem_append.1 he with he | he
  · exact Operator.harmless_of_mem_onStore answer he
  · split at he
    · next set t hfound =>
      rw [hfound] at hfails
      cases hfails
    · cases he

/-- Whatever a pass deletes, it found the children of its source before, and applied what is
expected. -/
private lemma applied_of_deleted_reconcile {before after : List (OperatorExchange Client)}
    {key : ChildKey}
    (hcalls : Operator.exchanges answer (o.reconcile x p) r s = before ++ e :: after)
    (hkey : e.deleted? = some key) :
    ∃ set, (Program.exec (Operator.storeAnswer answer)
        (resolveChildren x.tools x.domain p) s).1 = .ok set ∧
      KnownChildren answer set ∧
      (∀ child ∈ set.expected, ∃ d ∈ before, d.applied? = some child.childKey ∧ d.Succeeded) ∧
      ∃ orphan ∈ set.orphans, ∃ k : ChildKind, orphan.childKey.kind = k.name ∧
        key = k.key orphan.childKey.ns orphan.childKey.name := by
  have hnotReading : e ∉ Operator.exchanges answer
      (Operator.onStore (resolveChildren x.tools x.domain p)) r s := by
    intro he
    rw [(Operator.harmless_of_mem_onStore answer he).2] at hkey
    cases hkey
  rw [exchanges_reconcile] at hcalls
  obtain ⟨between, rfl, hrest⟩ := exists_of_append_eq hcalls hnotReading
  split at hrest
  · next set t hfound =>
    have hknown := knownChildren_of_resolveChildren hfound
    obtain ⟨happlied, horphan⟩ := applied_of_deleted_bringInLine hknown.expected hrest hkey
    refine ⟨set, by rw [hfound], hknown, fun child hchild => ?_, horphan⟩
    obtain ⟨d, hd, happly⟩ := happlied child hchild
    exact ⟨d, List.mem_append_right _ hd, happly⟩
  · simp at hrest

/-- **Nothing is deleted on partial knowledge.** Take any source and any API server, which may
answer as it likes and fail at any request. The search for the children of the source fails exactly
if the annotation that lists its templates cannot be read, if a call to the store fails, or if a
template that the store told of cannot be rendered to a child; and if it fails, then a pass over the
source applies and deletes nothing. Before anything is deleted, every expected child was applied
successfully. What is deleted has the kind, namespace and name of a child that was found and whose
key is not expected; so its own key is not expected, if the server tells the types of objects.

**Proof sketch.** A pass is a search, a loop that applies and a loop that deletes, and it ends at
the first failure. The calls of the search read, and those of the first loop apply or publish; so a
call that deletes is one of the second loop, which is only reached if the first one succeeded, and
that applies all that is expected. -/
theorem pass_deletes_last (answer : (c : OperatorCall Client) → σ → c.Answer × σ)
    (x : OperatorContext Client) (o : SourceObject) (r : Registry Client) (s : σ) :
    let calls := Operator.exchanges answer (o.pass x) r s
    let search := resolveChildren x.tools x.domain o.placeholders
    let found := (Program.exec (Operator.storeAnswer answer) search s).1
    ((∃ failure, found = .error failure) ↔
      (∃ failure, templateReferences x.domain o.placeholders.annotations o.placeholders.ns =
        .error failure) ∨
      ∃ e ∈ Program.exchanges (Operator.storeAnswer answer) search s,
        FatalFor x.tools o.placeholders e) ∧
    ((∃ failure, found = .error failure) → ∀ e ∈ calls, e.Harmless) ∧
    ∀ before e after key, calls = before ++ e :: after → e.deleted? = some key →
      ∃ set, found = .ok set ∧
        (∀ child ∈ set.expected, ∃ d ∈ before, d.applied? = some child.childKey ∧ d.Succeeded) ∧
        (∃ orphan ∈ set.current, orphan.childKey ∉ set.expected.map ClusterObject.childKey ∧
          ∃ k : ChildKind, orphan.childKey.kind = k.name ∧
            key = k.key orphan.childKey.ns orphan.childKey.name) ∧
        (TellsTypes answer → key ∉ set.expected.map ClusterObject.childKey) := by
  dsimp only
  refine ⟨resolveChildren_fails_iff _ _ _ _ _, fun hfails e he => ?_,
    fun before e after key hcalls hkey => ?_⟩
  · by_cases hactive : o.IsActive
    · rw [pass_of_isActive hactive] at he
      exact harmless_of_search_fails hfails he
    · rw [pass_of_not_isActive hactive] at he
      cases he
  · by_cases hactive : o.IsActive
    · rw [pass_of_isActive hactive] at hcalls
      obtain ⟨set, hfound, hknown, happlied, orphan, horphan, k, hkind, hdeleted⟩ :=
        applied_of_deleted_reconcile hcalls hkey
      obtain ⟨hcurrent, hnot⟩ := ChildSet.mem_orphans_iff.1 horphan
      refine ⟨set, hfound, happlied, ⟨orphan, hcurrent, hnot, k, hkind, hdeleted⟩,
        fun htypes => ?_⟩
      -- the key of a request is that of the child if this is known
      obtain ⟨k', ns, name, horphanKey⟩ := hknown.current htypes orphan hcurrent
      rw [horphanKey] at hkind hdeleted hnot
      obtain rfl : k' = k := ChildKind.name_injective hkind
      rw [hdeleted]
      exact hnot
    · rw [pass_of_not_isActive hactive] at hcalls
      simp at hcalls

/-- Systems with one template, and a child of another one that is listed no more. -/
def withLeftover : Surroundings :=
  { Surroundings.withTemplate with
    cluster := ⟨Surroundings.withTemplate.cluster.objects ++ [.ofEntries [
      ("apiVersion", .str monitorApiVersion), ("kind", .str "CentreonService"),
      ("metadata", .ofEntries [
        ("labels", .ofEntries [(Domain.default.parentLabel, .str "prod.web")]),
        ("name", .str "old"), ("namespace", .str "prod")]),
      ("spec", .ofEntries [("host", .str "central")])]]⟩ }

/-- Systems on which nothing fails. -/
def calm : (c : OperatorCall Unit) → Surroundings → c.Answer × Surroundings :=
  Surroundings.answer ⟨fun _ _ => none, fun _ _ => none⟩

/-- On systems that tell types, a pass deletes the child that is left over, whose key is not
expected, and has applied the expected one before. -/
theorem pass_deletes_last_leftover :
    let source := (SourcePass.sample .ingress "web").source
    let calls := Operator.exchanges (withTypes calm) (source.pass .plain) .single withLeftover
    let found := (Program.exec (Operator.storeAnswer (withTypes calm))
      (resolveChildren {} OperatorContext.plain.domain source.placeholders) withLeftover).1
    TellsTypes (withTypes calm) ∧ ∃ before e after set, calls = before ++ e :: after ∧
      e.deleted? = some (ChildKind.service.key "prod" "old") ∧ found = .ok set ∧
      ChildKind.service.key "prod" "old" ∉ set.expected.map ClusterObject.childKey ∧
      ∃ d ∈ before, d.applied? = some (ChildKind.service.key "prod" "check") ∧ d.Succeeded := by
  intro source calls found
  have hdeletes : ChildKind.service.key "prod" "old" ∈ calls.filterMap (·.deleted?) := by
    decide +kernel
  obtain ⟨e, he, hkey⟩ := List.mem_filterMap.1 hdeletes
  obtain ⟨before, after, hcalls⟩ := List.append_of_mem he
  obtain ⟨-, -, hlast⟩ := pass_deletes_last (withTypes calm) .plain source .single withLeftover
  obtain ⟨set, hfound, happlied, -, hnot⟩ := hlast before e after _ hcalls hkey
  have hexpected : found.toOption.map (fun set => set.expected.map ClusterObject.childKey) =
      some [ChildKind.service.key "prod" "check"] := by decide +kernel
  rw [show found = .ok set from hfound] at hexpected
  have hkeys : set.expected.map ClusterObject.childKey = [ChildKind.service.key "prod" "check"] :=
    Option.some.inj hexpected
  obtain ⟨child, hchild, hname⟩ := List.mem_map.1 (hkeys ▸ List.mem_singleton_self _ :
    ChildKind.service.key "prod" "check" ∈ set.expected.map ClusterObject.childKey)
  have htypes : TellsTypes (withTypes calm) := tellsTypes_withTypes calm
  exact ⟨htypes, before, e, after, set, hcalls, hkey, hfound, hnot htypes,
    hname ▸ happlied child hchild⟩

end SourceObject

end MonitorSync
