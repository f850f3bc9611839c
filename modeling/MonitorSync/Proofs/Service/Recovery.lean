import MonitorSync.Proofs.Service.Pass
import MonitorSync.Service.Status
set_option autoImplicit false

/-!
# Recovery of a service from passes that stop

A pass may stop after the service was renamed and before it was moved, with a status that still
holds the identity from before. The next pass looks the service up under that identity and under
the wanted one.

## Main definitions

* `MonitoredService.retry` — passes over a service until one succeeds.
* `MonitoredService.OnItsWay` — the identities that the service of a resource may have.

## Main results

* `MonitoredService.retry_recovers_iff` — however passes stop, the next one that does not brings the
  service in line and leaves all others alone, exactly if the host or the name stays and the wanted
  macros have different names.
* `MonitoredService.retry_rename_and_move` — a service that is renamed and moved may be left behind
  under its new name on its old host, with a second one added.
-/

namespace MonitorSync

open InMemoryPlatform

namespace MonitoredService

/-! ## Passes -/

/-- A pass at some time, with the failures of its calls. -/
structure Attempt where
  now : Instant
  /-- The failure of the call of a number, if it shall fail. -/
  failing : Nat → RemoteCall → Option Failure

/-- A pass in which no call fails. -/
def Attempt.clean (now : Instant) : Attempt := ⟨now, fun _ _ => none⟩

/-- Such a pass is answered as on an ideal platform. -/
lemma Attempt.reliable_clean (now : Instant) (c : RemoteCall) :
    Reliable (Run.idealAnswer (Attempt.clean now).failing) Run.platform c := fun _ => rfl

/-- A pass over a service on an ideal platform with failing calls. -/
def idealPass (s : MonitoredService) (failing : Nat → RemoteCall → Option Failure)
    (p : InMemoryPlatform) : Except Failure (Outcome ServicePlan) × InMemoryPlatform :=
  let (result, r) := Program.exec (Run.idealAnswer failing)
    (s.spec.sync s.identity.1 s.identity.2 s.spec.policy) ⟨[], p⟩
  (result, r.platform)

/-- Passes over a service until one succeeds, each with the status that the one before left: the
platform after that pass. -/
def retry : List Attempt → MonitoredService → InMemoryPlatform → Option InMemoryPlatform
  | [], _, _ => none
  | attempt :: rest, s, p =>
    match s.idealPass attempt.failing p with
    | (.ok _, q) => some q
    | (.error e, q) =>
      retry rest { s with status := some (s.statusOnFailure attempt.now e.message) } q

/-- The identities that the service of a resource may have: the last one known, the wanted one, and
the wanted name on the last host known. -/
def OnItsWay (s : MonitoredService) (i : String × String) : Prop :=
  i = s.identity ∨ i = (s.identity.1, s.spec.name) ∨ i = (s.spec.host, s.spec.name)

variable {s : MonitoredService} {k : Slot RemoteService} {gs : List RemoteGroup}
  {x : RemoteService} {failing : Nat → RemoteCall → Option Failure}

/-- A pass that fails leaves the identity of a service. -/
lemma identity_statusOnFailure (s : MonitoredService) (now : Instant) (reason : String) :
    MonitoredService.identity { s with status := some (s.statusOnFailure now reason) } =
      s.identity := by
  rcases s with ⟨metadata, spec, _ | ⟨_ | host, _ | name, conditions⟩⟩ <;> rfl

/-! ## One pass -/

section Pass

variable (hpolicy : s.spec.policy = .permissive)
  (hfree : ∀ i, s.OnItsWay i → k.Free RemoteService.identity i)
  (hx : x.identity = s.identity ∨ x.identity = (s.spec.host, s.spec.name))

/-- The identities on the way of a plan are on the way of the service. -/
private lemma OnItsWay.of_passes
    (hx : x.identity = s.identity ∨ x.identity = (s.spec.host, s.spec.name)) {i : String × String}
    (h : (ServicePlan.between x s.spec.toRemote []).Passes x i) : s.OnItsWay i := by
  rcases ServicePlan.passes_between_iff.1 h with rfl | rfl | rfl
  · exact hx.imp_right .inr
  · rcases hx with hx | hx
    · have hhost : x.host = s.identity.1 := congrArg Prod.fst hx
      exact .inr (.inl (congrArg (Prod.mk · s.spec.name) hhost))
    · have hhost : x.host = s.spec.host := congrArg Prod.fst hx
      exact .inr (.inr (congrArg (Prod.mk · s.spec.name) hhost))
  · exact .inr (.inr rfl)

variable (gs) in
include hfree hx in
/-- The service is found under its last or its wanted identity. -/
private lemma located_self :
    located ⟨k.fill x, gs⟩ s.identity.1 s.identity.2 s.spec.toRemote = some x :=
  InMemoryPlatform.located_fill (hfree _ (.inl rfl)) (hfree _ (.inr (.inr rfl))) hx

variable (gs failing) in
include hpolicy hfree hx in
/-- **Wherever a pass stops.** It leaves the service somewhere on its way and all others alone. -/
private lemma idealPass_fill (hn : (macroNames x.macros).Nodup) :
    ∃ y, (s.idealPass failing ⟨k.fill x, gs⟩).2 = ⟨k.fill y, gs⟩ ∧ s.OnItsWay y.identity ∧
      (macroNames y.macros).Nodup := by
  have hloc := located_self gs hfree hx
  have hway : s.OnItsWay x.identity := hx.imp_right .inr
  obtain ⟨y, hy, hpasses, hmacros⟩ := (Run.faulty_idealAnswer failing).exec_sync_of_located
    s.spec.policy ⟨[], ⟨k.fill x, gs⟩⟩ rfl (hfree _ hway) hloc
  rw [hpolicy] at hpasses
  exact ⟨y, hy, .of_passes hx hpasses, hmacros hn⟩

include hpolicy hfree hx in
/-- **A pass that succeeds.** It found the service in line with the specification, or made it so. -/
private lemma idealPass_ok (hp : Keyed ⟨k.fill x, gs⟩) {o : Outcome ServicePlan}
    {q : InMemoryPlatform} (h : s.idealPass failing ⟨k.fill x, gs⟩ = (.ok o, q)) :
    ∃ t, q = ⟨k.fill t, gs⟩ ∧
      (t = x ∧ (ServicePlan.between x s.spec.toRemote []).isDiff = false ∨
        (ServicePlan.between x s.spec.toRemote []).Achieved x t) := by
  have hloc := located_self gs hfree hx
  rw [idealPass] at h
  rcases hr : Program.exec (Run.idealAnswer failing)
    (s.spec.sync s.identity.1 s.identity.2 s.spec.policy) ⟨[], ⟨k.fill x, gs⟩⟩ with ⟨result, r⟩
  rw [hr] at h
  cases h
  have hideal := (strict_sync _ _ _ _).ideal (Run.faulty_idealAnswer failing) hr
  have hsynced := ServiceSpec.synced_of_exec hp hideal
  generalize r.platform = q at hsynced ⊢
  cases hsynced with
  | created hfound => exact absurd (hloc.symm.trans hfound) (by simp)
  | unchanged hfound hdiff =>
    obtain rfl := Option.some.inj (hloc.symm.trans hfound)
    rw [hpolicy] at hdiff
    exact ⟨x, rfl, .inl ⟨rfl, hdiff⟩⟩
  | updated hfound _ hk _ hresult =>
    obtain rfl := Option.some.inj (hloc.symm.trans hfound)
    rw [hpolicy] at hresult
    obtain rfl := Slot.eq_of_fill_eq hk (hfree _ (hx.imp_right .inr))
    exact ⟨_, rfl, .inr hresult⟩
  | skipped hforbidden => simp [hpolicy, Policy.permissive] at hforbidden

variable (gs) in
include hpolicy hfree hx in
/-- A pass in which no call fails succeeds. -/
private lemma idealPass_clean (now : Instant) :
    ∃ o q, s.idealPass (Attempt.clean now).failing ⟨k.fill x, gs⟩ = (.ok o, q) := by
  have hloc := located_self gs hfree hx
  obtain ⟨o, q, h⟩ := ServiceSpec.exec_sync_of_free s.spec.policy hloc fun i hi =>
    hfree i (.of_passes hx (by rwa [hpolicy] at hi))
  have hr := exec_of_reliable (Attempt.reliable_clean now)
    (s.spec.sync s.identity.1 s.identity.2 s.spec.policy) ⟨[], ⟨k.fill x, gs⟩⟩
  refine ⟨o, q, ?_⟩
  exact hr.symm.trans h

end Pass

/-! ## All passes -/

section Passes

variable {a : RemoteService} (hpolicy : s.spec.policy = .permissive)
  (hfree : ∀ i, s.OnItsWay i → k.Free RemoteService.identity i)

/-- The service on a platform at the end of passes that brought it in line. -/
def InLine (s : MonitoredService) (t : RemoteService) : Prop :=
  t.identity = (s.spec.host, s.spec.name) ∧
    (ServicePlan.between t s.spec.toRemote []).isDiff = false

include hpolicy hfree in
/-- A pass that succeeded brought the service in line, if the wanted macros have different names. -/
private lemma inLine_of_idealPass
    (hx : x.identity = s.identity ∨ x.identity = (s.spec.host, s.spec.name))
    (hn : (macroNames x.macros).Nodup) (hmacros : (macroNames s.spec.toRemote.macros).Nodup)
    (hp : Keyed ⟨k.fill x, gs⟩) {o : Outcome ServicePlan} {q : InMemoryPlatform}
    (h : s.idealPass failing ⟨k.fill x, gs⟩ = (.ok o, q)) :
    ∃ t, q = ⟨k.fill t, gs⟩ ∧ s.InLine t := by
  obtain ⟨t, rfl, ⟨rfl, hdiff⟩ | hresult⟩ := idealPass_ok hpolicy hfree hx hp h
  · refine ⟨t, rfl, ?_, hdiff⟩
    obtain ⟨hscalars, hhost, -⟩ := ServicePlan.isDiff_between_eq_false_iff.1 hdiff
    have hname := hscalars ⟨"name", serviceRenameParam, RemoteService.name⟩ List.mem_cons_self
    exact Prod.ext (hhost.resolve_left (by simp)) (hname.resolve_left (by simp))
  · exact ⟨t, rfl, Prod.ext hresult.host_eq hresult.name_eq, hresult.isDiff_eq_false hn hmacros⟩

include hpolicy hfree in
/-- **Recovery.** If the host or the name stays, then passes that stop leave the service where the
next one finds it, and the first that succeeds brings it in line.

**Proof sketch.** Induction on the passes. The service starts where it is found; a pass that stops
leaves it on its way, and if the host or the name stays, then all of the way is the last identity
known and the wanted one. The last pass succeeds, since no call fails and all of the way is free. -/
private lemma exists_retry (hstays : s.identity.1 = s.spec.host ∨ s.identity.2 = s.spec.name)
    (hmacros : (macroNames s.spec.toRemote.macros).Nodup) (attempts : List Attempt)
    (now : Instant) (hx : x.identity = s.identity ∨ x.identity = (s.spec.host, s.spec.name))
    (hn : (macroNames x.macros).Nodup) (hp : Keyed ⟨k.fill x, gs⟩) :
    ∃ t, retry (attempts ++ [.clean now]) s ⟨k.fill x, gs⟩ = some ⟨k.fill t, gs⟩ ∧ s.InLine t := by
  induction attempts generalizing s x with
  | nil =>
    obtain ⟨o, q, hpass⟩ := idealPass_clean gs hpolicy hfree hx now
    obtain ⟨t, rfl, ht⟩ := inLine_of_idealPass hpolicy hfree hx hn hmacros hp hpass
    exact ⟨t, by rw [List.nil_append, retry, hpass], ht⟩
  | cons attempt attempts ih =>
    rw [List.cons_append, retry]
    rcases hpass : s.idealPass attempt.failing ⟨k.fill x, gs⟩ with ⟨e | o, q⟩
    · obtain ⟨y, hy, hway, hn'⟩ := idealPass_fill gs attempt.failing hpolicy hfree hx hn
      rw [hpass] at hy
      obtain rfl : q = ⟨k.fill y, gs⟩ := hy
      have hid := identity_statusOnFailure s attempt.now e.message
      have hy : y.identity = s.identity ∨ y.identity = (s.spec.host, s.spec.name) := by
        rcases hway with h | h | h
        · exact .inl h
        · rcases hstays with hhost | hname
          · exact .inr (by rw [h, hhost])
          · exact .inl (by rw [h, ← hname])
        · exact .inr h
      refine ih hpolicy (fun i hi => hfree i ?_) (by rwa [hid]) hmacros (by rwa [hid]) hn'
        ⟨Slot.nodup_fill.2 ⟨(Slot.nodup_fill.1 hp.services).1, hfree _ hway⟩, hp.groups⟩
      rwa [OnItsWay, hid] at hi
    · obtain ⟨t, rfl, ht⟩ := inLine_of_idealPass hpolicy hfree hx hn hmacros hp hpass
      exact ⟨t, rfl, ht⟩

/-! ### What stands in the way -/

/-- A pass in which the calls that move services fail. -/
def Attempt.moveFails (now : Instant) (e : Failure) : Attempt where
  now := now
  failing _ c :=
    match c with
    | .setServiceHost .. => some e
    | _ => none

variable (gs) in
include hfree in
/-- Where the move fails, the calls of a plan end with the service under its new name on its old
host. -/
private lemma exec_calls_moveFails (ha : a.identity = s.identity)
    (hhost : a.host ≠ s.spec.host) (now : Instant) (e : Failure) {r : Run}
    (hr : r.platform = ⟨k.fill a, gs⟩) :
    ∃ y t, Program.exec (Run.idealAnswer (Attempt.moveFails now e).failing) (Remote.performAll
      ((ServicePlan.between a s.spec.toRemote []).calls a.host a.name)) r = (.error e, t) ∧
        t.platform = ⟨k.fill y, gs⟩ ∧ y.identity = (a.host, s.spec.name) := by
  obtain ⟨plan, hplan⟩ : ∃ plan, plan = ServicePlan.between a s.spec.toRemote [] := ⟨_, rfl⟩
  obtain ⟨y, hy, hid⟩ := ServicePlan.exists_changeAll?_scalarCalls k gs a s.spec.toRemote
  have hmove : plan.host = some s.spec.host := by
    have hdiffer : a.host ≠ s.spec.toRemote.host := hhost
    rw [hplan]
    simp only [ServicePlan.between, if_neg hdiffer]
    rfl
  rw [← hplan] at hy ⊢
  have hcalls : plan.calls a.host a.name =
      scalarCalls (.setServiceParam a.host) serviceRenameParam plan.params a.name ++
        .setServiceHost a.host ((plan.params.get? serviceRenameParam).getD a.name) s.spec.host ::
          plan.listCalls s.spec.host ((plan.params.get? serviceRenameParam).getD a.name) := by
    simp only [ServicePlan.calls, hmove, Option.toList_some, List.map_cons, List.map_nil,
      Option.getD_some, List.append_assoc, List.cons_append, List.nil_append]
  obtain ⟨t, ht, hfill⟩ := Stage.performAll_ok (S := serviceStage k gs) (s := r)
    (Run.faulty_idealAnswer (Attempt.moveFails now e).failing) (hfree _ (.inl ha)) hr hy
    (fun c hc => by
      obtain ⟨value, -, rfl⟩ | ⟨entry, -, rfl⟩ := by
        simpa only [scalarCalls, List.mem_append, List.mem_map] using hc
      all_goals exact fun _ => rfl)
    (fun before c w hb hw => by
      have hprefix : before ++ [c] <+: plan.calls a.host a.name :=
        hb.trans (hcalls ▸ List.prefix_append _ _)
      rw [hplan] at hprefix
      exact hfree _ (.of_passes (.inl ha) (ServicePlan.passes_of_changeAll?
        ServicePlan.increasing_params_between
        (fun _ => ServicePlan.params_between_subset) hprefix hw)))
  rw [hcalls, Remote.performAll_append, Program.exec_bind, ht, Remote.performAll_cons]
  simp only [Program.exec_bind, exec_perform]
  exact ⟨y, _, rfl, hfill, hid⟩

variable (gs) in
include hpolicy hfree in
/-- A pass that fails at the move leaves the service under its new name on its old host. -/
private lemma idealPass_moveFails (ha : a.identity = s.identity)
    (hhost : s.identity.1 ≠ s.spec.host) (now : Instant) (e : Failure) :
    ∃ y, s.idealPass (Attempt.moveFails now e).failing ⟨k.fill a, gs⟩ =
      (.error e, ⟨k.fill y, gs⟩) ∧ y.identity = (s.identity.1, s.spec.name) := by
  have hid : a.host = s.identity.1 := congrArg Prod.fst ha
  have hdiff : ¬ (ServicePlan.between a s.spec.toRemote []).isDiff = false := by
    rw [ServicePlan.isDiff_between_eq_false_iff]
    rintro ⟨-, h, -⟩
    exact hhost (hid ▸ h.resolve_left (by simp))
  rw [idealPass, ServiceSpec.sync_eq, Program.exec_bind]
  obtain ⟨r, hr, ⟨hbad, -⟩ | hexec⟩ :=
    (Run.faulty_idealAnswer (Attempt.moveFails now e).failing).reads_findService s.identity.1
      s.identity.2 s.spec.toRemote (fun ⟨_, _, hbad⟩ => hbad fun _ => rfl) ⟨[], ⟨k.fill a, gs⟩⟩
  · exact hbad.elim
  · obtain ⟨y, t, hcalls, hfill, hy⟩ :=
      exec_calls_moveFails gs hfree ha (hid ▸ hhost) now e hr
    refine ⟨y, ?_, hid ▸ hy⟩
    rw [hexec]
    dsimp only
    have hexclude : s.spec.policy.excludeFields = [] := hpolicy ▸ rfl
    have hallowed : ¬ s.spec.policy.noUpdate = true := by simp [hpolicy, Policy.permissive]
    rw [located_self gs hfree (.inl ha), Option.map_some, ServiceSpec.change, exec_settle_some,
      hexclude, if_neg hdiff, if_neg hallowed, hcalls, ← hfill]
    rfl

variable (gs) in
include hpolicy hfree in
/-- A service that is renamed and moved is left behind if the move fails, and a second one is
added. -/
private lemma exists_retry_left_behind (ha : a.identity = s.identity)
    (hhost : s.identity.1 ≠ s.spec.host) (hname : s.identity.2 ≠ s.spec.name) (now : Instant)
    (e : Failure) :
    ∃ y t, retry [.moveFails now e, .clean now] s ⟨k.fill a, gs⟩ = some ⟨k.fill y ++ [t], gs⟩ := by
  obtain ⟨y, hpass, hy⟩ := idealPass_moveFails gs hpolicy hfree ha hhost now e
  obtain ⟨s', hs'⟩ : ∃ s' : MonitoredService,
    s' = { s with status := some (s.statusOnFailure now e.message) } := ⟨_, rfl⟩
  have hid : s'.identity = s.identity := hs' ▸ identity_statusOnFailure s now e.message
  have hspec : s'.spec = s.spec := hs' ▸ rfl
  -- neither lookup finds the service
  have hnone : located ⟨k.fill y, gs⟩ s.identity.1 s.identity.2 s.spec.toRemote = none :=
    located_fill_eq_none (hfree _ (.inl rfl)) (hfree _ (.inr (.inr rfl)))
      (fun h => hname (congrArg Prod.snd (h.symm.trans hy)))
      (fun h => hhost (congrArg Prod.fst (hy.symm.trans h)))
  obtain ⟨t, hcreate, -⟩ := ServiceSpec.exec_create (Option.or_eq_none_iff.1 hnone).2
  have hclean : s'.idealPass (Attempt.clean now).failing ⟨k.fill y, gs⟩ =
      (.ok .created, ⟨k.fill y ++ [t], gs⟩) := by
    have hr := exec_of_reliable (Attempt.reliable_clean now)
      (s.spec.sync s.identity.1 s.identity.2 s.spec.policy) ⟨[], ⟨k.fill y, gs⟩⟩
    rw [idealPass, hid, hspec]
    refine hr.symm.trans ?_
    rw [ServiceSpec.sync_eq, Program.exec_bind, exec_findService, hnone]
    dsimp only
    rw [Option.map_none, exec_settle_none, hpolicy, hcreate]
    rfl
  refine ⟨y, t, ?_⟩
  rw [retry, show s.idealPass (Attempt.moveFails now e).failing _ = _ from hpass]
  change retry [.clean now] { s with status := some (s.statusOnFailure now e.message) } _ = _
  rw [← hs', retry, hclean]

end Passes

/-- **When a service recovers.** Take a service that may be created, updated and deleted and of
which no field is excluded, on an ideal platform that holds it under the last identity known, where
the other identities on its way are free. However many passes over it stop, at whatever calls: the
first that succeeds leaves the service in line with the specification, and all others as they were —
provided that the service is not both renamed and moved, and that the wanted macros have different
names. Where one of the two does not hold, there are passes after which it is not so.

**Proof sketch.** A pass that stops leaves the service on its way, and the next finds it unless it
has its new name on its old host. A pass that finds it and succeeds leaves no difference, for plans
converge. Conversely, let the move fail: then the next pass finds the service nowhere and adds
another one. And macros of one name always differ from those of a platform, where each name has
one. -/
theorem retry_recovers_iff {a : RemoteService} (hpolicy : s.spec.policy = .permissive)
    (hp : Keyed ⟨k.fill a, gs⟩) (ha : a.identity = s.identity)
    (hfree : ∀ i, s.OnItsWay i → k.Free RemoteService.identity i)
    (hn : (macroNames a.macros).Nodup) :
    (∀ attempts now, ∃ t, retry (attempts ++ [.clean now]) s ⟨k.fill a, gs⟩ =
      some ⟨k.fill t, gs⟩ ∧ s.InLine t) ↔
    (s.identity.1 = s.spec.host ∨ s.identity.2 = s.spec.name) ∧
      (macroNames s.spec.toRemote.macros).Nodup := by
  constructor
  · intro h
    refine ⟨?_, ?_⟩
    · by_contra hboth
      obtain ⟨hhost, hname⟩ := not_or.1 hboth
      obtain ⟨y, u, hleft⟩ := exists_retry_left_behind gs hpolicy hfree ha hhost hname
        ⟨0, 0⟩ (.timeout "")
      obtain ⟨t, ht, -⟩ := h [.moveFails ⟨0, 0⟩ (.timeout "")] ⟨0, 0⟩
      have hservices := congrArg services (Option.some.inj (hleft.symm.trans ht))
      have hlength := congrArg List.length hservices
      simp at hlength
    · obtain ⟨t, ht, -, hdiff⟩ := h [] ⟨0, 0⟩
      obtain ⟨o, q, hpass⟩ := idealPass_clean gs hpolicy hfree (.inl ha) ⟨0, 0⟩
      obtain ⟨u, rfl, hu⟩ := idealPass_ok hpolicy hfree (.inl ha) hp hpass
      have hq : retry ([] ++ [.clean ⟨0, 0⟩]) s ⟨k.fill a, gs⟩ = some ⟨k.fill u, gs⟩ := by
        rw [List.nil_append, retry, hpass]
      have hservices := congrArg services (Option.some.inj (hq.symm.trans ht))
      obtain rfl : u = t := k.fill_injective hservices
      refine ServicePlan.nodup_of_isDiff_eq_false ?_ hdiff
      rcases hu with ⟨rfl, -⟩ | hu
      · exact hn
      · rw [hu.macros]
        exact nodup_deleteMacros (nodup_setMacros hn)
  · rintro ⟨hstays, hmacros⟩ attempts now
    exact exists_retry hpolicy hfree hstays hmacros attempts now (.inl ha) hn hp

/-- A service last known as `b` on host `a` that shall be on host `c` under the name `d`. -/
def knownAs (a b c d : String) : MonitoredService where
  metadata := { name := some "web", ns := some "prod" }
  spec := { host := c, name := d, template := "generic", macros := ⟨[("port", "80")]⟩ }
  status := some ⟨some a, some b, []⟩

/-- A service that is only renamed recovers. -/
theorem retry_recovers_iff_rename :
    Keyed ⟨[{ host := "h", name := "old" }], []⟩ ∧
      (RemoteService.identity { host := "h", name := "old" } =
        (knownAs "h" "old" "h" "new").identity) ∧
      ∀ attempts now, ∃ t, retry (attempts ++ [.clean now]) (knownAs "h" "old" "h" "new")
        ⟨[{ host := "h", name := "old" }], []⟩ = some ⟨[t], []⟩ ∧
          (knownAs "h" "old" "h" "new").InLine t := by
  have hp : Keyed ⟨[{ host := "h", name := "old" }], []⟩ := ⟨by decide, by decide⟩
  exact ⟨hp, rfl, (retry_recovers_iff (k := ⟨[], []⟩) rfl hp rfl
    (fun _ _ _ ht => absurd ht (by simp [Slot.others])) (by decide)).2
      ⟨.inl rfl, by decide +kernel⟩⟩

/-- A service that is renamed and moved is left behind under its new name on its old host when the
move fails, and the next pass adds a second one. -/
theorem retry_rename_and_move :
    (retry [.moveFails ⟨0, 0⟩ (.timeout ""), .clean ⟨0, 0⟩] (knownAs "h" "old" "g" "new")
      ⟨[{ host := "h", name := "old" }], []⟩).map (fun p => p.services.map (·.identity)) =
        some [("h", "new"), ("g", "new")] := by
  decide +kernel

end MonitoredService

end MonitorSync
