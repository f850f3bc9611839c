import MonitorSync.Proofs.Group.Pass
import MonitorSync.Proofs.Json
import MonitorSync.Proofs.Operator.Managed
import MonitorSync.Proofs.Service.Pass
set_option autoImplicit false

/-!
# The identity that a status records

A pass that succeeds records the wanted identity in the status, and the next pass looks there for
the service. Where the policy leaves the host or the name alone, the service may have another one.

## Main definitions

* `Followed` — an element that a pass found or added, as it stands after the pass.
* `MonitoredService.recorded`, `MonitoredGroup.recorded` — what the status says after a pass.
* `ServiceSpec.KeepsTrack`, `GroupSpec.KeepsTrack` — no ignored part of the identity differs.

## Main results

* `recorded_iff_keepsTrack` — the recorded identity is that of the service, and the next pass adds
  none, exactly if no ignored part of the identity differs.
* `recorded_host_of_ignored` — a service whose host is ignored is recorded where it is not.
-/

namespace MonitorSync

open InMemoryPlatform

/-! ## What is recorded -/

/-- The status that was written last, if any was. -/
def lastStatus? : List ApiRequest → Option Json
  | [] => none
  | .patchStatus _ _ _ body :: _ => body.get? "status"
  | _ :: earlier => lastStatus? earlier

/-- The host and name in the status of a service after some requests: in the one written last, or
else in the one from before. -/
def MonitoredService.recorded (s : MonitoredService) (requests : List ApiRequest) :
    Option (String × String) :=
  match lastStatus? requests with
  | some status => do
    let host ← (← status.get? "host").toText?
    let name ← (← status.get? "name").toText?
    return (host, name)
  | none => do
    let status ← s.status
    return (← status.host, ← status.name)

/-- The name in the status of a group after some requests. -/
def MonitoredGroup.recorded (g : MonitoredGroup) (requests : List ApiRequest) : Option String :=
  match lastStatus? requests with
  | some status => do (← status.get? "name").toText?
  | none => do (← g.status).name

/-- The identity in the written form of a status. -/
lemma ServiceStatus.get?_toJson (status : ServiceStatus) :
    status.toJson.get? "host" = some (.text? status.host) ∧
      status.toJson.get? "name" = some (.text? status.name) := by
  simp only [toJson, Json.get?_ofEntries]
  exact ⟨rfl, rfl⟩

/-- The name in the written form of a status. -/
private lemma GroupStatus.get?_toJson (status : GroupStatus) :
    status.toJson.get? "name" = some (.text? status.name) := by
  simp only [toJson, Json.get?_ofEntries]
  rfl

section Recorded

variable {Client : Type} {b : Behaviour} {r r' : Registry Client} {w w' : IdealSurroundings}
  {requests : List ApiRequest}

/-- Requests that create events write no status. -/
private lemma lastStatus?_of_event {requests earlier : List ApiRequest}
    (h : requests = earlier ∨ ∃ ns body, requests = .createEvent ns body :: earlier) :
    lastStatus? requests = lastStatus? earlier := by
  rcases h with rfl | ⟨_, _, rfl⟩ <;> rfl

/-- A status that was written is that in the last request; else it is that from before. -/
private lemma lastStatus?_of_updateStatus {Spec Status : Type} [DecidableEq Status]
    {t : ObjectType} {toJson : Status → Json} {resource : Resource Spec Status} {status : Status}
    (hw : w.requests = [])
    (h : Operator.exec b.answer (Operator.updateStatus t toJson resource status) r w =
      ((.ok (), r'), w'))
    (hevent : requests = w'.requests ∨ ∃ ns body, requests = .createEvent ns body :: w'.requests) :
    lastStatus? requests = none ∧ resource.status = some status ∨
      lastStatus? requests = some (toJson status) := by
  rw [lastStatus?_of_event hevent]
  rcases requests_of_updateStatus_ok h with ⟨hsame, hr⟩ | ⟨ns, name, hr⟩
  · exact .inl ⟨by rw [hr, hw]; rfl, hsame⟩
  · exact .inr (by rw [hr]; rfl)

/-- A pass over a service that is applied records the wanted identity. -/
private lemma MonitoredService.recorded_of_updateStatus {s : MonitoredService} {now : Instant}
    {message : String} (hw : w.requests = [])
    (h : Operator.exec b.answer (s.updateStatus (s.statusOnSuccess now message true)) r w =
      ((.ok (), r'), w'))
    (hevent : requests = w'.requests ∨ ∃ ns body, requests = .createEvent ns body :: w'.requests) :
    s.recorded requests = some (s.spec.host, s.spec.name) := by
  rw [recorded]
  rcases lastStatus?_of_updateStatus hw h hevent with ⟨hlast, hsame⟩ | hlast
  · rw [hlast, hsame]
    rfl
  · rw [hlast]
    dsimp only
    rw [(ServiceStatus.get?_toJson _).1, (ServiceStatus.get?_toJson _).2]
    rfl

/-- A pass over a group that is applied records the wanted name. -/
private lemma MonitoredGroup.recorded_of_updateStatus {g : MonitoredGroup} {now : Instant}
    {message : String} (hw : w.requests = [])
    (h : Operator.exec b.answer (g.updateStatus (g.statusOnSuccess now message true)) r w =
      ((.ok (), r'), w'))
    (hevent : requests = w'.requests ∨ ∃ ns body, requests = .createEvent ns body :: w'.requests) :
    g.recorded requests = some g.spec.name := by
  rw [recorded]
  rcases lastStatus?_of_updateStatus hw h hevent with ⟨hlast, hsame⟩ | hlast
  · rw [hlast, hsame]
    rfl
  · rw [hlast]
    dsimp only
    rw [GroupStatus.get?_toJson]
    rfl

end Recorded

/-! ## What was found or added -/

/-- An element that a pass found or added, as it stands after the pass: the one found is at its
place among the same others, and one that was added is the last. -/
inductive Followed {τ : Type} (found : Option τ) (before after : List τ) : τ → Prop where
  | found {k : Slot τ} {x y : τ} (hfound : found = some x) (hbefore : before = k.fill x)
      (hafter : after = k.fill y) : Followed found before after y
  | added {y : τ} (hfound : found = none) (hafter : after = before ++ [y]) :
      Followed found before after y

/-- What was followed is one among others. -/
lemma Followed.exists_slot {τ : Type} {found : Option τ} {before after : List τ} {y : τ}
    (h : Followed found before after y) : ∃ k : Slot τ, after = k.fill y := by
  cases h with
  | found _ _ hafter => exact ⟨_, hafter⟩
  | added _ hafter => exact ⟨⟨before, []⟩, hafter⟩

/-- What is as wanted unless it is ignored, is as wanted exactly if it was or is not ignored. -/
private lemma unless_ignored_iff {ignored : Bool} {old new wanted : String}
    (h : new = if ignored then old else wanted) : new = wanted ↔ (ignored → old = wanted) := by
  cases ignored <;> simp [h]

/-- What does not differ is as wanted unless it is ignored. -/
private lemma eq_unless_ignored {ignored : Bool} {old wanted : String}
    (h : ignored ∨ old = wanted) : old = if ignored then old else wanted := by
  cases ignored
  · simpa using h
  · rfl

namespace ServiceSpec

variable {spec : ServiceSpec} {host name : String} {policy : Policy} {p q : InMemoryPlatform}
  {o : Outcome ServicePlan}

/-- No ignored part of the identity of the service that was found, if any, differs from what is
wanted. -/
def KeepsTrack (spec : ServiceSpec) (policy : Policy) (found : Option RemoteService) : Prop :=
  ∀ a ∈ found, (policy.excludeFields.contains "host" → a.host = spec.host) ∧
    (policy.excludeFields.contains "name" → a.name = spec.name)

private lemma identity_iff_keepsTrack {a t : RemoteService}
    (hhost : t.host = if policy.excludeFields.contains "host" then a.host else spec.host)
    (hname : t.name = if policy.excludeFields.contains "name" then a.name else spec.name) :
    t.identity = (spec.host, spec.name) ↔ spec.KeepsTrack policy (some a) := by
  rw [RemoteService.identity, Prod.mk.injEq, unless_ignored_iff hhost, unless_ignored_iff hname]
  simp only [KeepsTrack, Option.mem_def, Option.some.injEq, forall_eq']

/-- **What a pass does to the identity.** The service that it found or added has the wanted identity
afterwards exactly if no ignored part differed. -/
theorem Synced.exists_followed (h : spec.Synced host name policy p o q) (hp : p.Keyed)
    (happlied : o.isApplied) :
    ∃ t, Followed (p.located host name spec.toRemote) p.services q.services t ∧
      (t.identity = (spec.host, spec.name) ↔
        spec.KeepsTrack policy (p.located host name spec.toRemote)) := by
  cases h with
  | created hfound _ hresult =>
    refine ⟨_, .added hfound rfl, iff_of_true (Prod.ext hresult.host_eq hresult.name_eq) ?_⟩
    rw [hfound]
    rintro a ⟨⟩
  | @unchanged actual hfound hdiff =>
    obtain ⟨k, hk, -⟩ := exists_slot_of_located hp hfound
    obtain ⟨hscalars, hhost, -⟩ := ServicePlan.isDiff_between_eq_false_iff.1 hdiff
    have hname := hscalars ⟨"name", serviceRenameParam, RemoteService.name⟩ List.mem_cons_self
    refine ⟨actual, .found hfound hk hk, ?_⟩
    rw [hfound]
    exact identity_iff_keepsTrack (eq_unless_ignored hhost) (eq_unless_ignored hname)
  | updated hfound _ hk _ hresult =>
    refine ⟨_, .found hfound hk rfl, ?_⟩
    rw [hfound]
    exact identity_iff_keepsTrack hresult.host_eq hresult.name_eq
  | skipped => cases happlied

end ServiceSpec

namespace GroupSpec

variable {spec : GroupSpec} {name : String} {policy : Policy} {p q : InMemoryPlatform}
  {o : Outcome GroupPlan}

/-- The name of the group that was found, if any, does not differ from the wanted one or is not
ignored. -/
def KeepsTrack (spec : GroupSpec) (policy : Policy) (found : Option RemoteGroup) : Prop :=
  ∀ a ∈ found, policy.excludeFields.contains "name" → a.name = spec.name

private lemma name_iff_keepsTrack {a t : RemoteGroup}
    (hname : t.name = if policy.excludeFields.contains "name" then a.name else spec.name) :
    t.name = spec.name ↔ spec.KeepsTrack policy (some a) := by
  rw [unless_ignored_iff hname]
  simp only [KeepsTrack, Option.mem_def, Option.some.injEq, forall_eq']

/-- **What a pass does to the name.** The group that it found or added has the wanted name
afterwards exactly if that did not differ or is not ignored. -/
theorem Synced.exists_followed (h : spec.Synced name policy p o q) (hp : p.Keyed)
    (happlied : o.isApplied) :
    ∃ t, Followed (p.locatedGroup name spec.toRemote) p.groups q.groups t ∧
      (t.name = spec.name ↔ spec.KeepsTrack policy (p.locatedGroup name spec.toRemote)) := by
  cases h with
  | created hfound hresult =>
    refine ⟨_, .added hfound rfl, iff_of_true hresult.name_eq ?_⟩
    rw [hfound]
    rintro a ⟨⟩
  | @unchanged actual hfound hdiff =>
    obtain ⟨k, hk, -⟩ := exists_slot_of_located hp hfound
    have hempty : (changedParams groupScalars actual spec.toRemote policy.excludeFields).isEmpty :=
      by simpa [GroupPlan.isDiff, GroupPlan.between] using hdiff
    have hname := isEmpty_changedParams_iff.1 hempty ⟨"name", groupRenameParam, RemoteGroup.name⟩
      List.mem_cons_self
    refine ⟨actual, .found hfound hk hk, ?_⟩
    rw [hfound]
    exact name_iff_keepsTrack (eq_unless_ignored hname)
  | updated hfound hk _ hresult =>
    refine ⟨_, .found hfound hk rfl, ?_⟩
    rw [hfound]
    exact name_iff_keepsTrack hresult.name_eq
  | skipped => cases happlied

end GroupSpec

/-! ## The next pass -/

section Next

variable {Client : Type} {b : Behaviour} {x : OperatorContext Client} {registry : Registry Client}
  {q : InMemoryPlatform}

/-- A service whose status records an identity is known by it. -/
lemma MonitoredService.identity_of_recorded {s : MonitoredService}
    (h : s.recorded [] = some (s.spec.host, s.spec.name)) :
    s.identity = (s.spec.host, s.spec.name) := by
  rcases s with ⟨metadata, spec, _ | ⟨_ | host, _ | name, conditions⟩⟩
  all_goals try cases h
  have hrecorded : (host, name) = (spec.host, spec.name) := Option.some.inj h
  rw [identity]
  dsimp only
  split
  · exact hrecorded
  · rfl

/-- A group whose status records a name is known by it. -/
lemma MonitoredGroup.remoteName_of_recorded {g : MonitoredGroup}
    (h : g.recorded [] = some g.spec.name) : g.remoteName = g.spec.name := by
  rcases g with ⟨metadata, spec, _ | ⟨_ | name, conditions⟩⟩
  all_goals try cases h
  have hrecorded : name = spec.name := Option.some.inj h
  rw [remoteName]
  dsimp only
  split
  · rfl
  · exact hrecorded

/-- A pass over a service that is found where it is wanted adds none. -/
lemma MonitoredService.length_services_reconcile {s : MonitoredService} (hq : q.Keyed)
    {k : Slot RemoteService} {t : RemoteService} (hk : q.services = k.fill t)
    (ht : t.identity = (s.spec.host, s.spec.name))
    (hs : s.identity = (s.spec.host, s.spec.name)) :
    (b.run (s.reconcile x) registry q).2.2.services.length = q.services.length := by
  rw [reconcile_eq]
  rcases Managed.platform_reconcile (s.discreet_managed b x) x registry q
    with h | h
  · rw [h]
  · have hfree := (Slot.nodup_fill.1 (hk ▸ hq.services)).2
    have hq' : q = ⟨k.fill t, q.groups⟩ := by rw [← hk]
    have hfound : located q s.identity.1 s.identity.2 s.spec.toRemote = some t := by
      have hwanted : k.Free RemoteService.identity (s.spec.host, s.spec.name) := ht ▸ hfree
      rw [hq', hs]
      exact InMemoryPlatform.located_fill hwanted hwanted (.inl ht)
    obtain ⟨y, hy, -⟩ := (Run.faulty_idealAnswer b.failing).exec_sync_of_located
      s.spec.policy ⟨[], q⟩ hq' hfree hfound
    rw [h, hk]
    refine (congrArg (fun r => r.services.length) hy).trans ?_
    simp

/-- A pass over a group that is found where it is wanted adds none. -/
lemma MonitoredGroup.length_groups_reconcile {g : MonitoredGroup} (hq : q.Keyed)
    {j : Slot RemoteGroup} {t : RemoteGroup} (hj : q.groups = j.fill t) (ht : t.name = g.spec.name)
    (hg : g.remoteName = g.spec.name) :
    (b.run (g.reconcile x) registry q).2.2.groups.length = q.groups.length := by
  rw [reconcile_eq]
  rcases Managed.platform_reconcile (g.discreet_managed b x) x registry q
    with h | h
  · rw [h]
  · have hfree := (Slot.nodup_fill.1 (hj ▸ hq.groups)).2
    have hq' : q = ⟨q.services, j.fill t⟩ := by rw [← hj]
    have hfound : locatedGroup q g.remoteName g.spec.toRemote = some t := by
      rw [hq', hg, locatedGroup, ← ht, group?_fill hfree, Option.some_or]
    obtain ⟨y, hy⟩ := (Run.faulty_idealAnswer b.failing).exec_groupSync_of_located
      g.spec.policy ⟨[], q⟩ hq' hfree hfound
    rw [h, hj]
    refine (congrArg (fun r => r.groups.length) hy).trans ?_
    simp

end Next

/-! ## Passes that are applied -/

section Applied

variable {Client : Type} {b : Behaviour} {x : OperatorContext Client} {registry : Registry Client}
  {p q : InMemoryPlatform} {action : Action} {requests : List ApiRequest}

/-- A pass over a service that is applied. -/
private lemma MonitoredService.exists_followed {s : MonitoredService} {o : Outcome ServicePlan}
    (hp : p.Keyed) (hvalid : s.spec.validationError? = none)
    (hsync : (b.run s.synchronize registry p).1 = .ok (.ok o)) (happlied : o.isApplied)
    (h : b.run (s.reconcile x) registry p = (.ok action, requests, q)) :
    q.Keyed ∧ s.recorded requests = some (s.spec.host, s.spec.name) ∧
      ∃ t, Followed (p.located s.identity.1 s.identity.2 s.spec.toRemote) p.services q.services t ∧
        (t.identity = (s.spec.host, s.spec.name) ↔
          s.spec.KeepsTrack s.spec.policy
            (p.located s.identity.1 s.identity.2 s.spec.toRemote)) := by
  rw [reconcile_eq] at h
  rw [synchronize_eq x] at hsync
  obtain ⟨⟨calls, hwork⟩, r, w₁, w₂, hw, hwrite, hevent⟩ :=
    Managed.run_reconcile_ok (s.discreet_managed b x) hvalid hsync h
  have hideal := (strict_sync _ _ _ _).ideal (Run.faulty_idealAnswer b.failing) hwork
  have hq := (Run.faulty_idealAnswer b.failing).keyed (s := ⟨[], p⟩) hp
    (s.spec.sync s.identity.1 s.identity.2 s.spec.policy)
  rw [show Program.exec _ (s.spec.sync s.identity.1 s.identity.2 s.spec.policy) _ = _ from hwork]
    at hq
  refine ⟨hq, ?_, (ServiceSpec.synced_of_exec hp hideal).exists_followed hp happlied⟩
  simp only [managed, happlied] at hwrite
  exact recorded_of_updateStatus hw hwrite hevent

/-- A pass over a group that is applied. -/
private lemma MonitoredGroup.exists_followed {g : MonitoredGroup} {o : Outcome GroupPlan}
    (hp : p.Keyed) (hvalid : g.spec.validationError? = none)
    (hsync : (b.run g.synchronize registry p).1 = .ok (.ok o)) (happlied : o.isApplied)
    (h : b.run (g.reconcile x) registry p = (.ok action, requests, q)) :
    q.Keyed ∧ g.recorded requests = some g.spec.name ∧
      ∃ t, Followed (p.locatedGroup g.remoteName g.spec.toRemote) p.groups q.groups t ∧
        (t.name = g.spec.name ↔
          g.spec.KeepsTrack g.spec.policy (p.locatedGroup g.remoteName g.spec.toRemote)) := by
  rw [reconcile_eq] at h
  rw [synchronize_eq x] at hsync
  obtain ⟨⟨calls, hwork⟩, r, w₁, w₂, hw, hwrite, hevent⟩ :=
    Managed.run_reconcile_ok (g.discreet_managed b x) hvalid hsync h
  have hideal := (strict_groupSync _ _ _).ideal (Run.faulty_idealAnswer b.failing) hwork
  have hq := (Run.faulty_idealAnswer b.failing).keyed (s := ⟨[], p⟩) hp
    (g.spec.sync g.remoteName g.spec.policy)
  rw [show Program.exec _ (g.spec.sync g.remoteName g.spec.policy) _ = _ from hwork] at hq
  refine ⟨hq, ?_, (GroupSpec.synced_of_exec hp hideal).exists_followed hp happlied⟩
  simp only [managed, happlied] at hwrite
  exact recorded_of_updateStatus hw hwrite hevent

/-- **When the recorded identity is real.** Take a pass over a service that succeeds with an outcome
that is applied, on an ideal platform where any call may fail, beside an API server that may answer
anything. The identity that the status holds after it is that of the service that was found or
added, and no later pass with that status adds another one, exactly if the service was added or no
part of its identity that the policy ignores differs from what is wanted. The same holds for groups.

**Proof sketch.** What is recorded is the wanted identity. The service has it after the pass unless
its plan left an ignored part alone. If it has, then the next pass finds it in the first place, and
a pass over a service that is found leaves the number of services as it is, wherever it stops. -/
theorem recorded_iff_keepsTrack (hp : p.Keyed) :
    (∀ (s : MonitoredService) (o : Outcome ServicePlan), s.spec.validationError? = none →
      (b.run s.synchronize registry p).1 = .ok (.ok o) → o.isApplied →
      b.run (s.reconcile x) registry p = (.ok action, requests, q) →
      ∃ t, Followed (p.located s.identity.1 s.identity.2 s.spec.toRemote) p.services q.services t ∧
        ((s.recorded requests = some t.identity ∧
          ∀ next : MonitoredService, next.spec = s.spec → next.recorded [] = s.recorded requests →
            ∀ (b' : Behaviour) (x' : OperatorContext Client) (registry' : Registry Client),
              (b'.run (next.reconcile x') registry' q).2.2.services.length =
                q.services.length) ↔
        s.spec.KeepsTrack s.spec.policy
          (p.located s.identity.1 s.identity.2 s.spec.toRemote))) ∧
    (∀ (g : MonitoredGroup) (o : Outcome GroupPlan), g.spec.validationError? = none →
      (b.run g.synchronize registry p).1 = .ok (.ok o) → o.isApplied →
      b.run (g.reconcile x) registry p = (.ok action, requests, q) →
      ∃ t, Followed (p.locatedGroup g.remoteName g.spec.toRemote) p.groups q.groups t ∧
        ((g.recorded requests = some t.name ∧
          ∀ next : MonitoredGroup, next.spec = g.spec → next.recorded [] = g.recorded requests →
            ∀ (b' : Behaviour) (x' : OperatorContext Client) (registry' : Registry Client),
              (b'.run (next.reconcile x') registry' q).2.2.groups.length = q.groups.length) ↔
        g.spec.KeepsTrack g.spec.policy (p.locatedGroup g.remoteName g.spec.toRemote))) := by
  constructor
  · intro s o hvalid hsync happlied h
    obtain ⟨hq, hrecorded, t, hfollowed, hid⟩ :=
      MonitoredService.exists_followed hp hvalid hsync happlied h
    refine ⟨t, hfollowed, fun hreal => ?_, fun htrack => ?_⟩
    · exact hid.1 (Option.some.inj (hrecorded.symm.trans hreal.1)).symm
    · have ht := hid.2 htrack
      refine ⟨hrecorded.trans (congrArg some ht.symm), fun next hspec hnext b' x' registry' => ?_⟩
      obtain ⟨k, hk⟩ := hfollowed.exists_slot
      rw [hrecorded, ← hspec] at hnext
      exact MonitoredService.length_services_reconcile hq hk (hspec ▸ ht)
        (MonitoredService.identity_of_recorded hnext)
  · intro g o hvalid hsync happlied h
    obtain ⟨hq, hrecorded, t, hfollowed, hid⟩ :=
      MonitoredGroup.exists_followed hp hvalid hsync happlied h
    refine ⟨t, hfollowed, fun hreal => ?_, fun htrack => ?_⟩
    · exact hid.1 (Option.some.inj (hrecorded.symm.trans hreal.1)).symm
    · have ht := hid.2 htrack
      refine ⟨hrecorded.trans (congrArg some ht.symm), fun next hspec hnext b' x' registry' => ?_⟩
      obtain ⟨j, hj⟩ := hfollowed.exists_slot
      rw [hrecorded, ← hspec] at hnext
      exact MonitoredGroup.length_groups_reconcile hq hj (hspec ▸ ht)
        (MonitoredGroup.remoteName_of_recorded hnext)

end Applied

/-! ### Two runs -/

/-- A service known on the host `old` that shall be on the host `new`, where some fields are
ignored. -/
def MonitoredService.moving (excludeFields : List String) : MonitoredService where
  metadata := { name := some "web", ns := some "prod" }
  spec :=
    { host := "new", name := "web", template := "generic"
      policy := { Policy.permissive with excludeFields := excludeFields } }
  status := some ⟨some "old", some "web", []⟩

/-- A group known as `old` that shall be called `new`. -/
def MonitoredGroup.renamed : MonitoredGroup where
  metadata := { name := some "web", ns := some "prod" }
  spec := { name := "new", description := "Web servers" }
  status := some ⟨some "old", []⟩

/-- A platform with one service, on the host `old`, and one group of that name. -/
def InMemoryPlatform.old : InMemoryPlatform :=
  ⟨[{ host := "old", name := "web" }], [{ name := "old" }]⟩

/-- A service that is moved and a group that is renamed are recorded where they are. -/
theorem recorded_iff_keepsTrack_moving :
    (∃ requests q t, Behaviour.calm.run ((MonitoredService.moving []).reconcile .plain) .single
        old = (.ok (.requeue 3600), requests, q) ∧
      Followed (some { host := "old", name := "web" }) old.services q.services t ∧
      (MonitoredService.moving []).recorded requests = some t.identity) ∧
    (∃ requests q t, Behaviour.calm.run (MonitoredGroup.renamed.reconcile .plain) .single old =
        (.ok (.requeue 3600), requests, q) ∧
      Followed (some { name := "old" }) old.groups q.groups t ∧
      MonitoredGroup.renamed.recorded requests = some t.name) := by
  have hp : old.Keyed := ⟨by decide, by decide⟩
  constructor
  · have hrun : Behaviour.calm.run ((MonitoredService.moving []).reconcile .plain) .single old =
        (.ok (.requeue 3600), _, _) := Prod.ext (by decide +kernel) rfl
    obtain ⟨t, hfollowed, hreal⟩ := (recorded_iff_keepsTrack hp).1 (MonitoredService.moving [])
      (.updated (.between { host := "old", name := "web" }
        (MonitoredService.moving []).spec.toRemote
        [])) rfl (by decide +kernel) rfl hrun
    refine ⟨_, _, t, hrun, hfollowed, (hreal.2 ?_).1⟩
    rintro a -
    exact ⟨nofun, nofun⟩
  · have hrun : Behaviour.calm.run (MonitoredGroup.renamed.reconcile .plain) .single old =
        (.ok (.requeue 3600), _, _) := Prod.ext (by decide +kernel) rfl
    obtain ⟨t, hfollowed, hreal⟩ := (recorded_iff_keepsTrack hp).2 MonitoredGroup.renamed
      (.updated (.between { name := "old" } MonitoredGroup.renamed.spec.toRemote [])) rfl
      (by decide +kernel) rfl hrun
    refine ⟨_, _, t, hrun, hfollowed, (hreal.2 ?_).1⟩
    rintro a - h
    exact nomatch h

/-- A service whose host is ignored stays where it is, and is recorded where it shall be. The next
pass adds a second one there. -/
theorem recorded_host_of_ignored :
    let s := MonitoredService.moving ["host"]
    let after := Behaviour.calm.run (s.reconcile .plain) .single old
    let next : MonitoredService := { s with status := some ⟨some "new", some "web", []⟩ }
    after.1 = .ok (.requeue 3600) ∧
      (Behaviour.calm.run s.synchronize .single old).1 = .ok (.ok (.updated
        (.between { host := "old", name := "web" } s.spec.toRemote ["host"]))) ∧
      s.recorded after.2.1 = some ("new", "web") ∧
      next.recorded [] = s.recorded after.2.1 ∧
      after.2.2.services.map RemoteService.identity = [("old", "web")] ∧
      (Behaviour.calm.run (next.reconcile .plain) .single after.2.2).2.2.services.map
        RemoteService.identity = [("old", "web"), ("new", "web")] := by
  decide +kernel

end MonitorSync
