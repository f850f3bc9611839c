import MonitorSync.Proofs.Child.Kind
import MonitorSync.Proofs.Operator.RecordedIdentity
import MonitorSync.Proofs.Operator.Status
import MonitorSync.Proofs.Operator.Trace
set_option autoImplicit false

/-!
# The stored identity

Passes over a service follow each other, with edits of its specification in between, and the status
that a pass writes is there in the next one. The host and the name in it are kept by passes that do
not bring the platform in line, and are set together by those that do. So they are those of the last
of these, whatever answers the passes.

## Main definitions

* `ServicePass` — a pass over a service, with the systems around it.
* `ServicePass.isApplied` — whether the platform is as wanted after a pass.
* `ServicePass.Stores` — what a pass leaves in the cluster.
* `ServicePass.History` — passes over a service that has no status at first.

## Main results

* `MonitoredService.statuses_reconcile` — the statuses that a pass writes.
* `ServicePass.Stores.recorded` — what a pass does to the stored identity.
* `ServicePass.History.identity_of_lastApplied` — the stored identity is that of the last pass that
  was applied.
-/

namespace MonitorSync

variable {Client σ : Type}

/-! ## Writing statuses -/

/-- The status that a call writes. -/
def OperatorExchange.status? (e : OperatorExchange Client) : Option Json :=
  match e.call with
  | .api (.patchStatus _ _ _ body) => body.get? "status"
  | _ => none

namespace Operator

variable {α β : Type} (answer : (c : OperatorCall Client) → σ → c.Answer × σ)

/-- The statuses that a pass writes, in order. -/
def statuses (pass : Operator Client α) (r : Registry Client) (w : σ) : List Json :=
  (exchanges answer pass r w).filterMap OperatorExchange.status?

@[simp] lemma statuses_pure (a : α) (r : Registry Client) (w : σ) :
    statuses answer (pure a : Operator Client α) r w = [] := rfl

@[simp] lemma statuses_throw (e : OperatorFailure) (r : Registry Client) (w : σ) :
    statuses answer (throw e : Operator Client α) r w = [] := rfl

@[simp] lemma statuses_registry (r : Registry Client) (w : σ) :
    statuses answer (getThe (Registry Client)) r w = [] := rfl

/-- A sequence writes what its first part writes, and what its second part writes if that is
reached. -/
lemma statuses_bind (x : Operator Client α) (f : α → Operator Client β) (r : Registry Client)
    (w : σ) :
    statuses answer (x >>= f) r w =
      statuses answer x r w ++
        match exec answer x r w with
        | ((.ok a, r'), t) => statuses answer (f a) r' t
        | ((.error _, _), _) => [] := by
  rw [statuses, exchanges_bind, List.filterMap_append]
  rcases exec answer x r w with ⟨⟨_ | a, r'⟩, t⟩ <;> rfl

/-- A sequence whose second part writes nothing. -/
lemma statuses_bind_of_quiet {x : Operator Client α} {f : α → Operator Client β}
    (hf : ∀ a r w, statuses answer (f a) r w = []) (r : Registry Client) (w : σ) :
    statuses answer (x >>= f) r w = statuses answer x r w := by
  rw [statuses_bind]
  rcases exec answer x r w with ⟨⟨_ | a, r'⟩, t⟩
  · exact List.append_nil _
  · exact (congrArg _ (hf a r' t)).trans (List.append_nil _)

/-- Work on a platform writes no status. -/
@[simp] lemma statuses_onPlatform (client : Client) (work : Remote α) (r : Registry Client)
    (w : σ) : statuses answer (onPlatform client work) r w = [] := by
  rw [statuses, onPlatform, exchanges_lift, List.filterMap_eq_nil_iff]
  intro e he
  obtain ⟨c, t, hcall⟩ := Program.mem_trace_translate answer _ _ he
  obtain rfl := List.mem_singleton.1 hcall
  rfl

/-- An event is no status. -/
@[simp] lemma statuses_publish (regarding : ObjectReference) (e : ChangeEvent)
    (r : Registry Client) (w : σ) : statuses answer (publish regarding e) r w = [] := by
  rw [statuses, publish, exchanges_request, trace_ask]
  rfl

/-- The status of an object with a name is written unless it stays as it is. -/
lemma statuses_updateStatus {Spec Status : Type} [DecidableEq Status] (t : ObjectType)
    (toJson : Status → Json) {resource : Resource Spec Status}
    (hnamed : resource.metadata.anyName ≠ "") (status : Status) (r : Registry Client) (w : σ) :
    statuses answer (updateStatus t toJson resource status) r w =
      if resource.status = some status then [] else [toJson status] := by
  rw [updateStatus]
  split_ifs
  · rfl
  · rw [statuses, exchanges_request, trace_ask]
    split_ifs with hunnamed
    · exact absurd (Option.some.inj hunnamed) hnamed
    · rfl

end Operator

/-! ## The identity in a status -/

/-- Statuses with the same written form hold the same host and name. -/
lemma ServiceStatus.identity_eq_of_toJson_eq {status other : ServiceStatus}
    (h : status.toJson = other.toJson) : status.host = other.host ∧ status.name = other.name := by
  have htext : Function.Injective Json.text? := by
    rintro (_ | a) (_ | b) hab <;> cases hab <;> rfl
  obtain ⟨hhost, hname⟩ := status.get?_toJson
  rw [h, other.get?_toJson.1, Option.some.injEq] at hhost
  rw [h, other.get?_toJson.2, Option.some.injEq] at hname
  exact ⟨(htext hhost).symm, (htext hname).symm⟩

/-- A service is known by what is wanted if no host is stored. -/
lemma MonitoredService.identity_of_no_host {s : MonitoredService}
    (h : s.status.bind ServiceStatus.host = none) : s.identity = (s.spec.host, s.spec.name) := by
  rcases s with ⟨metadata, spec, _ | ⟨_ | host, name, conditions⟩⟩
  · rfl
  · rfl
  · cases h

/-- A service is known by the stored host and name if a specification with these can be used. -/
lemma MonitoredService.identity_of_stored {s : MonitoredService} {spec : ServiceSpec}
    (hvalid : spec.validationError? = none)
    (hhost : s.status.bind ServiceStatus.host = some spec.host)
    (hname : s.status.bind ServiceStatus.name = some spec.name) :
    s.identity = (spec.host, spec.name) := by
  rcases s with ⟨metadata, wanted, _ | ⟨host, name, conditions⟩⟩
  · cases hhost
  · obtain rfl : host = some spec.host := hhost
    obtain rfl : name = some spec.name := hname
    have hset := ServiceSpec.validationError?_eq_none_iff.1 hvalid
    simp only [ServiceSpec.isValid, Bool.and_eq_true] at hset
    exact if_pos ((Bool.and_eq_true_iff).2 hset.1)

/-! ## What a pass writes -/

/-- Whether the platform is as wanted after a pass with some result. -/
def PassResult.isApplied : PassResult → Bool
  | succeeded _ applied => applied
  | failed _ => false

namespace MonitoredService

variable (answer : (c : OperatorCall Client) → σ → c.Answer × σ) (s : MonitoredService)

/-- A pass that is applied sets the host, and any other one keeps it. -/
lemma statusAfter_host (result : PassResult) (now : Instant) :
    (s.statusAfter result now).host =
      if result.isApplied then some s.spec.host else s.status.bind ServiceStatus.host := by
  rcases s with ⟨metadata, spec, _ | status⟩ <;>
    rcases result with ⟨message, _ | _⟩ | reason <;> rfl

/-- A pass that is applied sets the name, and any other one keeps it. -/
lemma statusAfter_name (result : PassResult) (now : Instant) :
    (s.statusAfter result now).name =
      if result.isApplied then some s.spec.name else s.status.bind ServiceStatus.name := by
  rcases s with ⟨metadata, spec, _ | status⟩ <;>
    rcases result with ⟨message, _ | _⟩ | reason <;> rfl

/-- Bringing the platform in line gives a result, and leaves the registry alone. -/
lemma exists_exec_synchronize (r : Registry Client) (w : σ) :
    ∃ result t, Operator.exec answer s.synchronize r w = ((.ok result, r), t) := by
  rw [synchronize, Operator.exec_bind, Operator.exec_registry]
  dsimp only
  rcases r.get s.platformRef with e | entry
  · exact ⟨_, _, rfl⟩
  · exact ⟨_, _, Operator.exec_onPlatform answer entry.client _ r w⟩

/-- Bringing the platform in line writes no status. -/
@[simp] lemma statuses_synchronize (r : Registry Client) (w : σ) :
    Operator.statuses answer s.synchronize r w = [] := by
  rw [synchronize, Operator.statuses_bind, Operator.exec_registry, Operator.statuses_registry,
    List.nil_append]
  dsimp only
  rcases r.get s.platformRef with e | entry
  · exact Operator.statuses_pure answer _ r w
  · exact Operator.statuses_onPlatform answer entry.client _ r w

/-- What a pass over the service comes to, as its status tells it. -/
def result (r : Registry Client) (w : σ) : PassResult :=
  match s.spec.validationError?, (Operator.exec answer s.synchronize r w).1.1 with
  | some reason, _ => .failed reason
  | none, .ok (.ok o) => .succeeded o.message o.isApplied
  | none, .ok (.error e) => .failed e.message
  -- Failures on the platform are results, so this does not happen.
  | none, .error e => .failed e.message

variable {answer s}

/-- A pass is applied if its specification can be used, and bringing the platform in line neither
fails nor is skipped. -/
lemma isApplied_result_iff {r : Registry Client} {w : σ} :
    (s.result answer r w).isApplied = true ↔
      s.spec.validationError? = none ∧
        ∃ o, (Operator.exec answer s.synchronize r w).1.1 = .ok (.ok o) ∧ o ≠ .skipped := by
  obtain ⟨outcome, t, hsync⟩ := s.exists_exec_synchronize answer r w
  rw [result, hsync]
  rcases s.spec.validationError? with _ | reason
  · rcases outcome with e | o
    · simp [PassResult.isApplied]
    · cases o <;> simp [PassResult.isApplied, Outcome.isApplied]
  · simp [PassResult.isApplied]

variable (answer) in
/-- **What a pass writes.** A pass over a service writes the status after its result, unless that is
there. An event that is lost changes nothing about it.

**Proof sketch.** There are three ways to a status: a specification that cannot be used, an outcome,
and a failure on the platform. Nothing else that the pass does writes one. -/
theorem statuses_reconcile (hnamed : s.metadata.anyName ≠ "") (x : OperatorContext Client)
    (r : Registry Client) (w : σ) :
    Operator.statuses answer (s.reconcile x) r w =
      if s.status = some (s.statusAfter (s.result answer r w) x.now) then []
      else [(s.statusAfter (s.result answer r w) x.now).toJson] := by
  have hwrite := fun status => Operator.statuses_updateStatus answer type ServiceStatus.toJson
    hnamed status
  rw [reconcile, result]
  rcases s.spec.validationError? with _ | reason
  · obtain ⟨outcome, t, hsync⟩ := s.exists_exec_synchronize answer r w
    rw [hsync]
    dsimp only
    rw [Operator.statuses_bind, hsync, statuses_synchronize, List.nil_append]
    rcases outcome with e | o
    · exact (Operator.statuses_bind_of_quiet answer (fun _ => Operator.statuses_throw answer _)
        r t).trans (hwrite _ r t)
    · refine (Operator.statuses_bind_of_quiet answer (fun _ r' t' => ?_) r t).trans (hwrite _ r t)
      -- What follows is at most an event, whether or not that is accepted.
      rcases s.eventOf? o with _ | e
      · rfl
      · exact (Operator.statuses_bind_of_quiet answer (fun _ => Operator.statuses_pure answer _)
          r' t').trans (Operator.statuses_publish answer _ e r' t')
  · exact (Operator.statuses_bind_of_quiet answer (fun _ => Operator.statuses_pure answer _)
      r w).trans (hwrite _ r w)

end MonitoredService

/-! ## Passes that follow each other -/

/-- A pass over a service, with what it is given and the systems around it. -/
structure ServicePass (Client σ : Type) where
  /-- The service as it stands in the cluster when the pass begins. -/
  service : MonitoredService
  context : OperatorContext Client
  registry : Registry Client
  /-- The systems that answer the calls of the pass. -/
  systems : σ

namespace ServicePass

variable (answer : (c : OperatorCall Client) → σ → c.Answer × σ)

/-- What a pass comes to. -/
def result (p : ServicePass Client σ) : PassResult :=
  p.service.result answer p.registry p.systems

/-- The platform is as wanted after a pass: that was neither given a specification that cannot be
used, nor failed on the platform, nor skipped by the policy. -/
def isApplied (p : ServicePass Client σ) : Bool := (p.result answer).isApplied

/-- The status after what a pass comes to. -/
def statusAfter (p : ServicePass Client σ) : ServiceStatus :=
  p.service.statusAfter (p.result answer) p.context.now

/-- The statuses that a pass writes, in order. -/
def statuses (p : ServicePass Client σ) : List Json :=
  Operator.statuses answer (p.service.reconcile p.context) p.registry p.systems

/-- The status in the cluster after a pass that stores what it writes. -/
inductive Stores (p : ServicePass Client σ) : Option ServiceStatus → Prop where
  /-- The status that was written last is there. -/
  | written {status : ServiceStatus}
      (hwritten : (p.statuses answer).getLast? = some status.toJson) : Stores p (some status)
  /-- The status from before the pass is still there. -/
  | kept (hsilent : p.statuses answer = []) : Stores p p.service.status

/-- Passes over a service without a status at first, newest first, and the status after them. Each
one finds the status that is stored, and any specification. -/
inductive History : List (ServicePass Client σ) → Option ServiceStatus → Prop where
  | start : History [] none
  | pass {p : ServicePass Client σ} {earlier : List (ServicePass Client σ)}
      {after : Option ServiceStatus} (hearlier : History earlier p.service.status)
      (hnamed : p.service.metadata.anyName ≠ "") (hstored : p.Stores answer after) :
      History (p :: earlier) after

variable {answer} {p : ServicePass Client σ} {passes : List (ServicePass Client σ)}
  {after : Option ServiceStatus}

/-- A pass writes the status after what it comes to, unless that is there. -/
lemma statuses_eq (hnamed : p.service.metadata.anyName ≠ "") :
    p.statuses answer =
      if p.service.status = some (p.statusAfter answer) then []
      else [(p.statusAfter answer).toJson] :=
  MonitoredService.statuses_reconcile answer hnamed p.context p.registry p.systems

/-- The status after what a pass comes to can be stored, so a history can always go on. -/
lemma stores_statusAfter (hnamed : p.service.metadata.anyName ≠ "") :
    p.Stores answer (some (p.statusAfter answer)) := by
  by_cases hsame : p.service.status = some (p.statusAfter answer)
  · rw [← hsame]
    exact .kept ((statuses_eq hnamed).trans (if_pos hsame))
  · refine .written ?_
    rw [statuses_eq hnamed, if_neg hsame]
    rfl

/-- What is stored holds the host and name of the status after what the pass comes to. -/
lemma Stores.identity_eq (hstored : p.Stores answer after)
    (hnamed : p.service.metadata.anyName ≠ "") :
    after.bind ServiceStatus.host = (p.statusAfter answer).host ∧
      after.bind ServiceStatus.name = (p.statusAfter answer).name := by
  have hstatuses : p.statuses answer = _ := statuses_eq hnamed
  cases hstored with
  | written hwritten =>
    rw [hstatuses] at hwritten
    split_ifs at hwritten
    · cases hwritten
    · exact ServiceStatus.identity_eq_of_toJson_eq (Option.some.inj hwritten).symm
  | kept hsilent =>
    rw [hstatuses, ite_eq_left_iff] at hsilent
    have hsame : p.service.status = some (p.statusAfter answer) :=
      of_not_not fun hdiffers => List.cons_ne_nil _ _ (hsilent hdiffers)
    rw [hsame]
    exact ⟨rfl, rfl⟩

/-- **One pass.** A pass that is applied stores the wanted host and name, and any other one keeps
those that are stored. -/
theorem Stores.recorded (hstored : p.Stores answer after)
    (hnamed : p.service.metadata.anyName ≠ "") :
    after.bind ServiceStatus.host =
        (if p.isApplied answer then some p.service.spec.host
          else p.service.status.bind ServiceStatus.host) ∧
      after.bind ServiceStatus.name =
        (if p.isApplied answer then some p.service.spec.name
          else p.service.status.bind ServiceStatus.name) := by
  obtain ⟨hhost, hname⟩ := hstored.identity_eq hnamed
  exact ⟨hhost.trans (p.service.statusAfter_host _ _), hname.trans (p.service.statusAfter_name _ _)⟩

variable (answer) in
/-- The last pass of some that was applied. -/
def lastApplied? (passes : List (ServicePass Client σ)) : Option (ServicePass Client σ) :=
  passes.find? (isApplied answer)

lemma lastApplied?_cons (p : ServicePass Client σ) (passes : List (ServicePass Client σ)) :
    lastApplied? answer (p :: passes) =
      if p.isApplied answer then some p else lastApplied? answer passes := by
  rw [lastApplied?, List.find?_cons]
  cases p.isApplied answer <;> rfl

/-- The stored host and name are those of the last pass that was applied. -/
lemma History.recorded (h : History answer passes after) :
    after.bind ServiceStatus.host = (lastApplied? answer passes).map (·.service.spec.host) ∧
      after.bind ServiceStatus.name = (lastApplied? answer passes).map (·.service.spec.name) := by
  induction h with
  | start => exact ⟨rfl, rfl⟩
  | @pass p earlier after _ hnamed hstored ih =>
    obtain ⟨hhost, hname⟩ := hstored.recorded hnamed
    rw [hhost, hname, ih.1, ih.2, lastApplied?_cons]
    split_ifs <;> exact ⟨rfl, rfl⟩

/-- **The stored identity.** After any passes over a service that had no status at first, the status
holds neither host nor name if no pass was applied, and else those that the last pass that was
applied wanted. The service is known by that pair if there is one, and by what is wanted now else.

**Proof sketch.** Induction on the passes: one that is applied stores both, any other one keeps
both. A pair that is stored was wanted by a specification that could be used, so neither part is
empty, and the service is known by it. -/
theorem History.identity_of_lastApplied (h : History answer passes after) :
    after.bind ServiceStatus.host = (lastApplied? answer passes).map (·.service.spec.host) ∧
    after.bind ServiceStatus.name = (lastApplied? answer passes).map (·.service.spec.name) ∧
    ∀ s : MonitoredService, s.status = after →
      s.identity = match lastApplied? answer passes with
        | some p => (p.service.spec.host, p.service.spec.name)
        | none => (s.spec.host, s.spec.name) := by
  obtain ⟨hhost, hname⟩ := h.recorded
  refine ⟨hhost, hname, fun s hs => ?_⟩
  subst hs
  rcases hlast : lastApplied? answer passes with _ | p
  · rw [hlast] at hhost
    exact s.identity_of_no_host hhost
  · rw [hlast] at hhost hname
    have happlied : p.isApplied answer = true := List.find?_some hlast
    have hvalid := (MonitoredService.isApplied_result_iff.1 happlied).1
    exact s.identity_of_stored hvalid hhost hname

/-- A pass over a service of some specification and status, beside an empty platform. -/
def sample (spec : ServiceSpec) (status : Option ServiceStatus) :
    ServicePass Unit IdealSurroundings :=
  ⟨⟨{ name := some "web", ns := some "prod" }, spec, status⟩, .plain, .single, ⟨⟨[], ⟨[], []⟩⟩, []⟩⟩

/-- A pass that creates the service `web` on the host `central`. -/
def created : ServicePass Unit IdealSurroundings :=
  sample { host := "central", name := "web", template := "generic" } none

/-- A pass after `created`, where the service shall be on another host and has no name. -/
def unusable : ServicePass Unit IdealSurroundings :=
  sample { host := "edge", name := "", template := "generic" }
    (some (created.statusAfter Behaviour.calm.answer))

/-- A pass after `unusable`, where the service has a name again but may not be created. -/
def forbidden : ServicePass Unit IdealSurroundings :=
  sample
    { host := "edge", name := "web", template := "generic"
      policy := { Policy.permissive with noCreate := true } }
    (some (unusable.statusAfter Behaviour.calm.answer))

/-- A service that was created stays known as it was by passes that are not applied. -/
theorem History.identity_of_lastApplied_created :
    ∃ after : ServiceStatus,
      History Behaviour.calm.answer [forbidden, unusable, created] (some after) ∧
        after.host = some "central" ∧ after.name = some "web" ∧
        MonitoredService.identity (forbidden.service.withStatus after) = ("central", "web") := by
  have hfirst : History Behaviour.calm.answer [created]
      (some (created.statusAfter Behaviour.calm.answer)) :=
    .pass .start (by decide) (stores_statusAfter (p := created) (by decide))
  have hsecond : History Behaviour.calm.answer [unusable, created]
      (some (unusable.statusAfter Behaviour.calm.answer)) :=
    .pass hfirst (by decide) (stores_statusAfter (p := unusable) (by decide))
  have hhistory : History Behaviour.calm.answer [forbidden, unusable, created]
      (some (forbidden.statusAfter Behaviour.calm.answer)) :=
    .pass hsecond (by decide) (stores_statusAfter (p := forbidden) (by decide))
  have hlast :
      lastApplied? Behaviour.calm.answer [forbidden, unusable, created] = some created := by
    have hcreated : created.isApplied Behaviour.calm.answer = true := by decide +kernel
    have hunusable : unusable.isApplied Behaviour.calm.answer = false := by decide +kernel
    have hforbidden : forbidden.isApplied Behaviour.calm.answer = false := by decide +kernel
    simp only [lastApplied?_cons, hcreated, hunusable, hforbidden, if_true, Bool.false_eq_true,
      if_false]
  obtain ⟨hhost, hname, hidentity⟩ := hhistory.identity_of_lastApplied
  rw [hlast] at hhost hname hidentity
  exact ⟨_, hhistory, hhost, hname, hidentity _ rfl⟩

end ServicePass

end MonitorSync
