import MonitorSync.Proofs.Effect.Interleaving
import MonitorSync.Proofs.Remote.Scope
import MonitorSync.Proofs.Service.Pass
set_option autoImplicit false

/-!
# Independent services

A pass over a service touches services under at most four identities: the hosts and names of the
last known and of the wanted identity, in all combinations. Passes that touch no identity in common
may run at the same time.

## Main definitions

* `ServiceSpec.touched` — the identities that a pass may touch.
* `RemoteCall.Honest` — a service that is told of has the identity that was asked for.
* `InMemoryPlatform.SameContent` — platforms that hold the same, up to the order of services.

## Main results

* `ServiceSpec.within_sync` — a pass keeps to the identities that it may touch.
* `ServiceSpec.independent_passes_commute` — interleaved passes that touch no identity in common do
  what they do one after the other.
-/

namespace MonitorSync

open InMemoryPlatform

/-! ## What a pass touches -/

/-- A service that is told of has the identity that was asked for. -/
def RemoteCall.Honest : (c : RemoteCall) → c.Answer → Prop
  | .getService host name, reply => ∀ s, reply = .ok (some s) → s.identity = (host, name)
  | _, _ => True

/-- An ideal platform is honest. -/
lemma InMemoryPlatform.honest_idealAnswer (c : RemoteCall) (p : InMemoryPlatform) :
    c.Honest (idealAnswer c p).1 := by
  cases c with
  | getService host name =>
    intro s hs
    exact (isService_iff s).1 (List.find?_some (Except.ok.inj hs))
  | _ => trivial

/-- The identities that a pass over the service last known as `host` and `name` may touch. -/
def ServiceSpec.touched (spec : ServiceSpec) (host name : String) : List (String × String) :=
  [(host, name), (host, spec.name), (spec.host, name), (spec.host, spec.name)]

/-- Whether a pass may touch an identity. -/
def ServiceSpec.touches (spec : ServiceSpec) (host name : String) (i : String × String) : Bool :=
  i ∈ spec.touched host name

/-- Work on a platform that keeps to the services in a scope. -/
abbrev KeepsTo {α : Type} (scope : String × String → Bool) (post : α → Prop) (work : Remote α) :
    Prop :=
  Program.WorkWithin (RemoteCall.StaysIn scope) RemoteCall.Honest post work

section Scope

variable {scope : String × String → Bool} {c : RemoteCall} {calls : List RemoteCall}

lemma KeepsTo.perform (h : c.StaysIn scope) : KeepsTo scope (fun _ => True) (Remote.perform c) := by
  have hcall : KeepsTo scope (fun _ => True) (Remote.call c) :=
    (Program.Within.call h).mono fun _ _ _ _ => trivial
  exact hcall.bind fun _ _ => .pure trivial

lemma KeepsTo.performAll (h : ∀ c ∈ calls, c.StaysIn scope) :
    KeepsTo scope (fun _ => True) (Remote.performAll calls) := by
  induction calls with
  | nil => exact .pure trivial
  | cons c calls ih =>
    rw [Remote.performAll_cons]
    exact (KeepsTo.perform (h c List.mem_cons_self)).bind fun _ _ =>
      ih fun d hd => h d (List.mem_cons_of_mem _ hd)

/-- The calls of the plan between two services keep to the hosts and names of both.

**Proof sketch.** A plan renames to the wanted name and moves to the wanted host, if at all; in
between the service has the name of one and the host of one of the two. -/
lemma ServicePlan.staysIn_of_mem_calls {actual expected : RemoteService} {ignored : List String}
    (hscope : ∀ h n, (h = actual.host ∨ h = expected.host) →
      (n = actual.name ∨ n = expected.name) → scope (h, n))
    (hc : c ∈ (between actual expected ignored).calls actual.host actual.name) :
    c.StaysIn scope := by
  obtain ⟨plan, hplan⟩ : ∃ plan, plan = between actual expected ignored := ⟨_, rfl⟩
  have hrename : ∀ value ∈ plan.params.get? serviceRenameParam, value = expected.name := by
    intro value hvalue
    have hget : (changedParams serviceScalars actual expected ignored).get? serviceRenameParam =
        if ignored.contains "name" || actual.name = expected.name then none
        else some expected.name :=
      get?_changedParams (s := ⟨"name", serviceRenameParam, RemoteService.name⟩) (by decide)
        List.mem_cons_self
    rw [hplan, between, hget, Option.mem_def, Option.ite_none_left_eq_some] at hvalue
    exact (Option.some.inj hvalue.2).symm
  have hmove : ∀ value ∈ plan.host, value = expected.host := by
    intro value hvalue
    simp only [hplan, between, Option.mem_def, Option.ite_none_left_eq_some] at hvalue
    exact (Option.some.inj hvalue.2.2).symm
  have hname : (plan.params.get? serviceRenameParam).getD actual.name = actual.name ∨
      (plan.params.get? serviceRenameParam).getD actual.name = expected.name := by
    rcases hget : plan.params.get? serviceRenameParam with _ | value
    · exact .inl rfl
    · exact .inr (hrename value hget)
  have hhost : plan.host.getD actual.host = actual.host ∨
      plan.host.getD actual.host = expected.host := by
    rcases hget : plan.host with _ | value
    · exact .inl rfl
    · exact .inr (hmove value hget)
  rw [← hplan] at hc
  simp only [calls, scalarCalls, listCalls, callUnlessEmpty, List.mem_append, List.mem_map,
    List.mem_ite_nil_left, List.mem_singleton, Option.mem_toList] at hc
  rcases hc with ((⟨value, hvalue, rfl⟩ | ⟨e, he, rfl⟩) | ⟨value, hvalue, rfl⟩) |
    (((((⟨_, rfl⟩ | ⟨_, rfl⟩) | ⟨_, rfl⟩) | ⟨_, rfl⟩) | ⟨_, _, rfl⟩) | ⟨_, _, rfl⟩)
  · refine ⟨⟨_, rfl, hscope _ _ (.inl rfl) (.inl rfl)⟩, ?_⟩
    rintro _ ⟨⟩
    exact hscope _ _ (.inl rfl) (.inr (hrename value hvalue))
  · refine ⟨⟨_, rfl, hscope _ _ (.inl rfl) hname⟩, fun i hi => ?_⟩
    have hother : e.1 ≠ serviceRenameParam := by simpa using (List.mem_filter.1 he).2
    rw [RemoteCall.gives?, if_neg hother] at hi
    cases hi
  · refine ⟨⟨_, rfl, hscope _ _ (.inl rfl) hname⟩, ?_⟩
    rintro _ ⟨⟩
    exact hscope _ _ (.inr (hmove value hvalue)) hname
  all_goals exact .of_about rfl rfl (hscope _ _ hhost hname)

/-- Guarded work keeps to what the work keeps to. -/
private lemma KeepsTo.guard {allowed : Bool} {work : Remote Unit}
    (h : KeepsTo scope (fun _ => True) work) :
    KeepsTo scope (fun _ => True) (Policy.guard allowed work) := by
  rw [Policy.guard]
  split
  · exact h.bind fun _ _ => .pure trivial
  · exact .pure trivial

/-- Settling keeps to what it may do keeps to. -/
private lemma KeepsTo.settle {Plan : Type} {policy : Policy} {create : Remote Unit}
    {found : Option (Plan × Bool × Remote Unit)} (hcreate : KeepsTo scope (fun _ => True) create)
    (hchange : ∀ f ∈ found, KeepsTo scope (fun _ => True) f.2.2) :
    KeepsTo scope (fun _ => True) (MonitorSync.settle policy create found) := by
  rcases found with _ | ⟨plan, isDiff, change⟩
  · refine (KeepsTo.guard hcreate).bind fun g _ => ?_
    rcases g <;> exact .pure trivial
  · rw [MonitorSync.settle]
    split
    · exact .pure trivial
    · refine (KeepsTo.guard (hchange _ rfl)).bind fun g _ => ?_
      rcases g <;> exact .pure trivial

/-- A service that is looked up has the identity that was asked for. -/
private lemma KeepsTo.getService {host name : String} (h : scope (host, name)) :
    KeepsTo scope (fun found => ∀ s ∈ found, s.identity = (host, name))
      (Remote.call (.getService host name)) := by
  have hstays : (RemoteCall.getService host name).StaysIn scope := .of_about rfl rfl h
  refine (Program.Within.call hstays).mono fun reply hreply found hfound s hs => ?_
  exact hreply s (hfound.trans (congrArg Except.ok hs))

/-- Looking a service up keeps to its last and its wanted identity, and finds one of these. -/
private lemma KeepsTo.findService {host name : String} {expected : RemoteService}
    (hlast : scope (host, name)) (hwanted : scope expected.identity) :
    KeepsTo scope (fun found => ∀ s ∈ found, s.identity = (host, name) ∨
      s.identity = expected.identity) (findService host name expected) := by
  rw [findService_eq, MonitorSync.lookUp]
  refine (KeepsTo.getService hlast).bind fun found hfound => ?_
  rcases found with _ | s
  · dsimp only
    split
    · refine .pure fun s hs => ?_
      cases hs
    · exact (KeepsTo.getService hwanted).mono fun reply hreply found hfound s hs =>
        .inr (hreply found hfound s hs)
  · refine .pure fun t ht => .inl ?_
    obtain rfl : s = t := Option.some.inj ht
    exact hfound s rfl

end Scope

namespace ServiceSpec

variable {spec : ServiceSpec} {host name : String}

/-- A host and a name of the last known or the wanted identity are touched. -/
private lemma touches_of (spec : ServiceSpec) {h n : String} (hh : h = host ∨ h = spec.host)
    (hn : n = name ∨ n = spec.name) : spec.touches host name (h, n) := by
  rcases hh with rfl | rfl <;> rcases hn with rfl | rfl <;> simp [touches, touched]

/-- **Footprints.** A pass asks for, adds, changes and gives only identities that it may touch.

**Proof sketch.** The service that is found has the last known or the wanted identity, and all calls
of a plan keep to the hosts and names of these two. -/
theorem within_sync (spec : ServiceSpec) (host name : String) (policy : Policy) :
    KeepsTo (spec.touches host name) (fun _ => True) (spec.sync host name policy) := by
  rw [sync_eq]
  have hlast : spec.touches host name (host, name) := touches_of spec (.inl rfl) (.inl rfl)
  have hwanted : spec.touches host name spec.toRemote.identity :=
    touches_of spec (.inr rfl) (.inr rfl)
  refine (KeepsTo.findService hlast hwanted).bind fun found hfound =>
    KeepsTo.settle ?_ fun f hf => ?_
  · rw [RemoteService.create_eq]
    have hadd : (RemoteCall.addService spec.toRemote.host spec.toRemote.name
        spec.toRemote.template).StaysIn (spec.touches host name) := .of_about rfl rfl hwanted
    refine (KeepsTo.perform hadd).bind fun _ _ => KeepsTo.performAll fun c hc => ?_
    change c ∈ (ServicePlan.between spec.toRemote.added spec.toRemote []).calls
      spec.toRemote.added.host spec.toRemote.added.name at hc
    refine ServicePlan.staysIn_of_mem_calls (fun h n hh hn => ?_) hc
    exact touches_of spec (.inr (hh.elim id id)) (.inr (hn.elim id id))
  · obtain ⟨actual, hactual, rfl⟩ := Option.map_eq_some_iff.1 hf
    refine KeepsTo.performAll fun c hc => ServicePlan.staysIn_of_mem_calls (fun h n hh hn => ?_) hc
    rcases hfound actual hactual with hid | hid
    · obtain ⟨rfl, rfl⟩ := Prod.mk.inj hid
      exact touches_of spec hh hn
    · obtain ⟨hhost, hname⟩ := Prod.mk.inj hid
      rw [hhost] at hh
      rw [hname] at hn
      exact touches_of spec (.inr (hh.elim id id)) (.inr (hn.elim id id))

end ServiceSpec

/-! ## Platforms that hold the same -/

namespace InMemoryPlatform

/-- Two platforms hold the same: the same services under every host and name, in whatever order, and
the same groups. -/
structure SameContent (p q : InMemoryPlatform) : Prop where
  services : p.services.Perm q.services
  lookups : ∀ host name, p.service? host name = q.service? host name
  groups : p.groups = q.groups

/-- Platforms that look the same in scopes that cover everything hold the same. -/
lemma sameContent_of_scopes {p q : InMemoryPlatform} (hgroups : p.groups = q.groups)
    (h : ∀ i, ∃ scope : String × String → Bool, scope i ∧ p.servicesIn scope = q.servicesIn scope) :
    SameContent p q := by
  refine ⟨List.perm_iff_count.2 fun s => ?_, fun host name => ?_, hgroups⟩
  · obtain ⟨scope, hscope, hsame⟩ := h s.identity
    have hcount (l : List RemoteService) :
        (l.filter fun t => scope t.identity).count s = l.count s := List.count_filter hscope
    rw [← hcount p.services, ← hcount q.services]
    exact congrArg (List.count s) hsame
  · obtain ⟨scope, hscope, hsame⟩ := h (host, name)
    have hp : service? ⟨p.servicesIn scope, []⟩ host name = p.service? host name :=
      service?_servicesIn hscope
    have hq : service? ⟨q.servicesIn scope, []⟩ host name = q.service? host name :=
      service?_servicesIn hscope
    rw [← hp, hsame, hq]

end InMemoryPlatform

/-! ## Two passes -/

namespace ServiceSpec

variable {spec₁ spec₂ : ServiceSpec} {host₁ name₁ host₂ name₂ : String} {policy₁ policy₂ : Policy}
  {p q : InMemoryPlatform} {o₁ o₂ : Except Failure (Outcome ServicePlan)}

/-- The identities that neither of two passes touches. -/
private def beside (scope₁ scope₂ : String × String → Bool) (i : String × String) : Bool :=
  !scope₁ i && !scope₂ i

/-- A pass runs next to another one as if it were alone. -/
private lemma alone_of_interleaving
    (hdisjoint : (spec₁.touched host₁ name₁).Disjoint (spec₂.touched host₂ name₂))
    (h : Program.Interleaving idealAnswer (spec₁.sync host₁ name₁ policy₁).run
      (spec₂.sync host₂ name₂ policy₂).run p o₁ o₂ q) :
    o₁ = (Program.exec idealAnswer (spec₁.sync host₁ name₁ policy₁) p).1 ∧
      q.servicesIn (spec₁.touches host₁ name₁) =
        (Program.exec idealAnswer (spec₁.sync host₁ name₁ policy₁) p).2.servicesIn
          (spec₁.touches host₁ name₁) := by
  have hapart : ∀ i, spec₂.touches host₂ name₂ i → ¬ spec₁.touches host₁ name₁ i := by
    intro i h₂ h₁
    exact hdisjoint (of_decide_eq_true h₁) (of_decide_eq_true h₂)
  refine h.eq_run_left (fun s u => s.servicesIn (spec₁.touches host₁ name₁) =
    u.servicesIn (spec₁.touches host₁ name₁)) honest_idealAnswer (fun c s u hc hagree => ?_)
    (fun c s u hc hagree => ?_) (within_sync spec₁ host₁ name₁ policy₁)
    (within_sync spec₂ host₂ name₂ policy₂) rfl
  · obtain ⟨hreply, hservices⟩ := idealAnswer_servicesIn (p := s) [] hc
    obtain ⟨hreply', hservices'⟩ := idealAnswer_servicesIn (p := u) [] hc
    rw [hagree] at hreply hservices
    exact ⟨hreply.symm.trans hreply', hservices.symm.trans hservices'⟩
  · exact (servicesIn_idealAnswer_of_disjoint hc hapart).1.trans hagree

/-- Two passes leave alone what neither of them touches. -/
private lemma kept_of_interleaving {other : String × String → Bool}
    (hother₁ : ∀ i, spec₁.touches host₁ name₁ i → ¬ other i)
    (hother₂ : ∀ i, spec₂.touches host₂ name₂ i → ¬ other i)
    (h : Program.Interleaving idealAnswer (spec₁.sync host₁ name₁ policy₁).run
      (spec₂.sync host₂ name₂ policy₂).run p o₁ o₂ q) :
    q.servicesIn other = p.servicesIn other ∧ q.groups = p.groups := by
  have hkept : ∀ scope : String × String → Bool, (∀ i, scope i → ¬ other i) →
      ∀ (c : RemoteCall) (s : InMemoryPlatform), c.StaysIn scope →
        s.servicesIn other = p.servicesIn other ∧ s.groups = p.groups →
        (idealAnswer c s).2.servicesIn other = p.servicesIn other ∧
          (idealAnswer c s).2.groups = p.groups := by
    intro scope hapart c s hc hs
    obtain ⟨hservices, hgroups⟩ := servicesIn_idealAnswer_of_disjoint (p := s) hc hapart
    exact ⟨hservices.trans hs.1, hgroups.trans hs.2⟩
  exact h.invariant (I := fun s => s.servicesIn other = p.servicesIn other ∧ s.groups = p.groups)
    honest_idealAnswer (hkept _ hother₁) (hkept _ hother₂)
    (within_sync spec₁ host₁ name₁ policy₁) (within_sync spec₂ host₂ name₂ policy₂) ⟨rfl, rfl⟩

/-- What an interleaving of two passes gives is told from the passes run alone. -/
private lemma outcome_of_interleaving
    (hdisjoint : (spec₁.touched host₁ name₁).Disjoint (spec₂.touched host₂ name₂))
    (h : Program.Interleaving idealAnswer (spec₁.sync host₁ name₁ policy₁).run
      (spec₂.sync host₂ name₂ policy₂).run p o₁ o₂ q) :
    let alone₁ := Program.exec idealAnswer (spec₁.sync host₁ name₁ policy₁) p
    let alone₂ := Program.exec idealAnswer (spec₂.sync host₂ name₂ policy₂) p
    (o₁ = alone₁.1 ∧ o₂ = alone₂.1) ∧ q.groups = p.groups ∧
      q.servicesIn (spec₁.touches host₁ name₁) = alone₁.2.servicesIn (spec₁.touches host₁ name₁) ∧
      q.servicesIn (spec₂.touches host₂ name₂) = alone₂.2.servicesIn (spec₂.touches host₂ name₂) ∧
      q.servicesIn (beside (spec₁.touches host₁ name₁) (spec₂.touches host₂ name₂)) =
        p.servicesIn (beside (spec₁.touches host₁ name₁) (spec₂.touches host₂ name₂)) := by
  dsimp only
  obtain ⟨h₁, hservices₁⟩ := alone_of_interleaving hdisjoint h
  obtain ⟨h₂, hservices₂⟩ := alone_of_interleaving (List.disjoint_comm.1 hdisjoint) h.symm
  have hbeside₁ : ∀ i, spec₁.touches host₁ name₁ i →
      ¬ beside (spec₁.touches host₁ name₁) (spec₂.touches host₂ name₂) i :=
    fun i hi => by simp [beside, hi]
  have hbeside₂ : ∀ i, spec₂.touches host₂ name₂ i →
      ¬ beside (spec₁.touches host₁ name₁) (spec₂.touches host₂ name₂) i :=
    fun i hi => by simp [beside, hi]
  obtain ⟨hbeside, hgroups⟩ := kept_of_interleaving hbeside₁ hbeside₂ h
  exact ⟨⟨h₁, h₂⟩, hgroups, hservices₁, hservices₂, hbeside⟩

/-- Two interleavings of the same passes leave the same content. -/
private lemma sameContent_of_interleavings
    {o₁' o₂' : Except Failure (Outcome ServicePlan)} {q' : InMemoryPlatform}
    (hdisjoint : (spec₁.touched host₁ name₁).Disjoint (spec₂.touched host₂ name₂))
    (h : Program.Interleaving idealAnswer (spec₁.sync host₁ name₁ policy₁).run
      (spec₂.sync host₂ name₂ policy₂).run p o₁ o₂ q)
    (h' : Program.Interleaving idealAnswer (spec₁.sync host₁ name₁ policy₁).run
      (spec₂.sync host₂ name₂ policy₂).run p o₁' o₂' q') : SameContent q q' := by
  obtain ⟨-, hgroups, hservices₁, hservices₂, hbeside⟩ := outcome_of_interleaving hdisjoint h
  obtain ⟨-, hgroups', hservices₁', hservices₂', hbeside'⟩ := outcome_of_interleaving hdisjoint h'
  refine sameContent_of_scopes (hgroups.trans hgroups'.symm) fun i => ?_
  by_cases hi₁ : spec₁.touches host₁ name₁ i
  · exact ⟨_, hi₁, hservices₁.trans hservices₁'.symm⟩
  · by_cases hi₂ : spec₂.touches host₂ name₂ i
    · exact ⟨_, hi₂, hservices₂.trans hservices₂'.symm⟩
    · exact ⟨_, by simp [beside, hi₁, hi₂], hbeside.trans hbeside'.symm⟩

/-- **Independent services commute.** Take two passes over services on an ideal platform, each with
its own last known identity, specification and policy, that may touch no identity in common. In
whatever order their calls are made, both passes give what they give when run alone, and the
platform holds in the end what it holds after one pass and then the other, whichever comes first.

**Proof sketch.** Each pass keeps to the identities that it may touch. A call that does so is
answered from the services under these, and changes no others; so next to a pass alone, its calls
are answered alike, and those of the other pass make no difference. -/
theorem independent_passes_commute
    (hdisjoint : (spec₁.touched host₁ name₁).Disjoint (spec₂.touched host₂ name₂))
    (h : Program.Interleaving idealAnswer (spec₁.sync host₁ name₁ policy₁).run
      (spec₂.sync host₂ name₂ policy₂).run p o₁ o₂ q) :
    let pass₁ := Program.exec idealAnswer (spec₁.sync host₁ name₁ policy₁)
    let pass₂ := Program.exec idealAnswer (spec₂.sync host₂ name₂ policy₂)
    (o₁ = (pass₁ p).1 ∧ o₂ = (pass₂ p).1) ∧
      SameContent q (pass₂ (pass₁ p).2).2 ∧ SameContent q (pass₁ (pass₂ p).2).2 := by
  dsimp only
  refine ⟨(outcome_of_interleaving hdisjoint h).1, ?_, ?_⟩
  · exact sameContent_of_interleavings hdisjoint h (.sequence _ _ _ _)
  · exact sameContent_of_interleavings hdisjoint h (Program.Interleaving.sequence _ _ _ _).symm

/-- A service named anew on one host, and a service of the same name on another host. -/
private def renamed (host : String) : ServiceSpec :=
  { host, name := "new", template := "generic" }

/-- A rename on one host and the creation of a service on another one, which runs between the lookup
of the first pass and the rest of it. -/
theorem independent_passes_commute_two_hosts :
    let pass₁ := (renamed "h").sync "h" "old" .permissive
    let pass₂ := (renamed "g").sync "g" "new" .permissive
    let p : InMemoryPlatform := ⟨[{ host := "h", name := "old" }], []⟩
    ((renamed "h").touched "h" "old").Disjoint ((renamed "g").touched "g" "new") ∧
      ∃ o₁ o₂ q, Program.Interleaving idealAnswer pass₁.run pass₂.run p o₁ o₂ q ∧
        (o₁ = (Program.exec idealAnswer pass₁ p).1 ∧ o₂ = (Program.exec idealAnswer pass₂ p).1) ∧
        SameContent q (Program.exec idealAnswer pass₂ (Program.exec idealAnswer pass₁ p).2).2 ∧
        SameContent q (Program.exec idealAnswer pass₁ (Program.exec idealAnswer pass₂ p).2).2 := by
  intro pass₁ pass₂ p
  have hdisjoint : ((renamed "h").touched "h" "old").Disjoint
      ((renamed "g").touched "g" "new") := by
    simp [touched, renamed, List.disjoint_left]
  obtain ⟨o₁, o₂, q, h⟩ : ∃ o₁ o₂ q,
      Program.Interleaving idealAnswer pass₁.run pass₂.run p o₁ o₂ q :=
    ⟨_, _, _, .left (Program.Interleaving.sequence _ _ _ _).symm⟩
  exact ⟨hdisjoint, o₁, o₂, q, h, independent_passes_commute hdisjoint h⟩

end ServiceSpec

end MonitorSync
