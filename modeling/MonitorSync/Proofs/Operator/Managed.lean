import MonitorSync.Operator.Group
import MonitorSync.Operator.Service
import MonitorSync.Proofs.Operator.Run
import MonitorSync.Proofs.Remote.Ideal
set_option autoImplicit false

/-!
# Passes over what a platform holds

Passes over services and over groups have one shape: they work on a platform, and tell the API
server what came of it. Here they run beside an ideal platform with failing calls and an API server
that may answer anything.

## Main definitions

* `Behaviour` — how an API server answers, and which calls to the platform fail.
* `Behaviour.run` — the result of a pass, the requests that it made, and the platform after it.
* `Managed` — what a pass over a service or a group is made of.
* `Quiet` — work that leaves the platform alone.

## Main results

* `Behaviour.exec_onPlatform` — what a pass does on a platform.
* `Managed.run_reconcile_ok` — what a pass that succeeded did.
* `Managed.platform_reconcile` — a pass changes the platform by its work there alone.
-/

namespace MonitorSync

open InMemoryPlatform

/-! ## Surroundings -/

/-- An ideal platform, and the requests made so far to an API server beside it, newest first. -/
structure IdealSurroundings where
  run : InMemoryPlatform.Run
  requests : List ApiRequest

/-- How the systems around a pass behave: what an API server answers, given the requests before, and
which calls to the platform fail. -/
structure Behaviour where
  api : List ApiRequest → (r : ApiRequest) → r.Answer
  failing : Nat → RemoteCall → Option Failure

namespace Behaviour

variable {Client α β : Type} (b : Behaviour)

/-- The answer to a call, and the systems after it. -/
def answer : (c : OperatorCall Client) → IdealSurroundings → c.Answer × IdealSurroundings
  | .api r, w => (b.api w.requests r, { w with requests := r :: w.requests })
  | .remote _ c, w =>
    ((Run.idealAnswer b.failing c w.run).1,
      { w with run := (Run.idealAnswer b.failing c w.run).2 })

/-- Runs a pass beside a platform: its result, the requests that it made, newest first, and the
platform after it. -/
def run (pass : Operator Client α) (registry : Registry Client) (p : InMemoryPlatform) :
    Except OperatorFailure α × List ApiRequest × InMemoryPlatform :=
  let (result, w) := Operator.exec b.answer pass registry ⟨⟨[], p⟩, []⟩
  (result.1, w.requests, w.run.platform)

/-- **Work on the platform.** A pass does it as if alone with the platform. -/
theorem exec_onPlatform (client : Client) (work : Remote α) (r : Registry Client)
    (w : IdealSurroundings) :
    Operator.exec b.answer (Operator.onPlatform client work) r w =
      ((.ok (Program.exec (Run.idealAnswer b.failing) work w.run).1, r),
        ⟨(Program.exec (Run.idealAnswer b.failing) work w.run).2, w.requests⟩) := by
  rw [Operator.exec_onPlatform]
  have h := Program.run_map_state (Run.idealAnswer b.failing) (⟨·, w.requests⟩)
    (fun c => b.answer (.remote client c)) (fun _ _ => rfl) work.run w.run
  simp only [Program.exec]
  rw [h]

end Behaviour

/-- A request that succeeds is kept. -/
lemma requests_of_request_ok {Client : Type} {b : Behaviour} {q : ApiRequest} {reply : q.Reply}
    {r r' : Registry Client} {w w' : IdealSurroundings}
    (h : Operator.exec b.answer (Operator.request q) r w = ((.ok reply, r'), w')) :
    w'.requests = q :: w.requests := by
  have hanswer := (Operator.exec_request_ok h).2
  exact (congrArg (fun a => a.2.requests) hanswer).symm

/-- A status is written unless it stays as it is. -/
lemma requests_of_updateStatus_ok {Client Spec Status : Type} [DecidableEq Status] {b : Behaviour}
    {t : ObjectType} {toJson : Status → Json} {resource : Resource Spec Status} {status : Status}
    {r r' : Registry Client} {w w' : IdealSurroundings}
    (h : Operator.exec b.answer (Operator.updateStatus t toJson resource status) r w =
      ((.ok (), r'), w')) :
    resource.status = some status ∧ w'.requests = w.requests ∨
      ∃ ns name, w'.requests =
        .patchStatus t ns name (.ofEntries [("status", toJson status)]) :: w.requests := by
  rw [Operator.updateStatus] at h
  split at h
  · next hsame =>
    rw [Operator.exec_pure] at h
    cases h
    exact .inl ⟨hsame, rfl⟩
  · exact .inr ⟨_, _, requests_of_request_ok h⟩

/-! ## Quiet work -/

section Quiet

variable {Client α β Status Spec : Type} {b : Behaviour}

/-- Work that leaves the platform alone, whatever the API server answers. -/
def Quiet (b : Behaviour) (work : Operator Client α) : Prop :=
  ∀ r w, (Operator.exec b.answer work r w).2.run = w.run

lemma Quiet.pure (a : α) : Quiet b (Pure.pure a : Operator Client α) := fun _ _ => rfl

/-- Quiet work goes on quietly. -/
lemma Quiet.bind {x : Operator Client α} {f : α → Operator Client β} (hx : Quiet b x)
    (hf : ∀ a, Quiet b (f a)) : Quiet b (x >>= f) := by
  intro r w
  have hfirst := hx r w
  rw [Operator.exec_bind]
  rcases h : Operator.exec b.answer x r w with ⟨⟨_ | a, r'⟩, w'⟩
  · rwa [h] at hfirst
  · rw [h] at hfirst
    exact (hf a r' w').trans hfirst

/-- Requests to the API server are quiet. -/
lemma Quiet.request (q : ApiRequest) : Quiet b (Operator.request q : Operator Client q.Reply) := by
  intro r w
  rw [Operator.request, Operator.exec_bind, Operator.exec_lift, Operator.run_ask]
  by_cases hname : q.name? = some ""
  · rw [if_pos hname]
    rfl
  · rw [if_neg hname]
    rcases ha : b.api w.requests q with _ | reply <;>
      simp only [Behaviour.answer, ha] <;> rfl

lemma Quiet.publish (regarding : ObjectReference) (e : ChangeEvent) :
    Quiet b (Operator.publish regarding e : Operator Client Unit) := .request _

lemma Quiet.updateStatus [DecidableEq Status] (t : ObjectType) (toJson : Status → Json)
    (resource : Resource Spec Status) (status : Status) :
    Quiet b (Operator.updateStatus t toJson resource status : Operator Client Unit) := by
  rw [Operator.updateStatus]
  split
  · exact .pure _
  · exact .request _

end Quiet

/-! ## Passes -/

/-- What a pass over a service or a group is made of. -/
structure Managed (Client Plan : Type) where
  /-- Why the specification cannot be used, if so. -/
  unusable : Option String
  platformRef : String
  /-- The work on the platform. -/
  work : Remote (Outcome Plan)
  writeFailure : String → Operator Client Unit
  writeSuccess : Outcome Plan → Operator Client Unit
  event? : Outcome Plan → Option ChangeEvent
  reference : ObjectReference

namespace Managed

variable {Client Plan : Type}

/-- Works on the platform of a resource, if there is one. -/
def synchronize (m : Managed Client Plan) : Operator Client (Except Failure (Outcome Plan)) := do
  match (← getThe (Registry Client)).get m.platformRef with
  | .error e => return .error e
  | .ok entry => Operator.onPlatform entry.client m.work

/-- Tells the API server what came of the work on the platform. -/
def report (x : OperatorContext Client) (m : Managed Client Plan) :
    Except Failure (Outcome Plan) → Operator Client Action
  | .ok outcome => do
    m.writeSuccess outcome
    if let some e := m.event? outcome then
      Operator.publish m.reference e
    return .requeue x.options.requeueSeconds
  | .error e => do
    m.writeFailure e.message
    throw (.common e)

/-- Brings the platform in line with a resource, and tells what came of it. -/
def reconcile (x : OperatorContext Client) (m : Managed Client Plan) : Operator Client Action := do
  if let some reason := m.unusable then
    m.writeFailure reason
    return .awaitChange
  m.report x (← m.synchronize)

end Managed

/-- The parts of a pass over a service. -/
def MonitoredService.managed {Client : Type} (x : OperatorContext Client) (s : MonitoredService) :
    Managed Client ServicePlan where
  unusable := s.spec.validationError?
  platformRef := s.platformRef
  work := s.spec.sync s.identity.1 s.identity.2 s.spec.policy
  writeFailure reason := s.updateStatus (s.statusOnFailure x.now reason)
  writeSuccess o := s.updateStatus (s.statusOnSuccess x.now o.message o.isApplied)
  event? := s.eventOf?
  reference := s.reference

/-- The parts of a pass over a group. -/
def MonitoredGroup.managed {Client : Type} (x : OperatorContext Client) (g : MonitoredGroup) :
    Managed Client GroupPlan where
  unusable := g.spec.validationError?
  platformRef := g.platformRef
  work := g.spec.sync g.remoteName g.spec.policy
  writeFailure reason := g.updateStatus (g.statusOnFailure x.now reason)
  writeSuccess o := g.updateStatus (g.statusOnSuccess x.now o.message o.isApplied)
  event? := g.eventOf?
  reference := g.reference

section Equations

variable {Client : Type} (x : OperatorContext Client)

lemma MonitoredService.synchronize_eq (s : MonitoredService) :
    s.synchronize = (s.managed x).synchronize := rfl

lemma MonitoredService.reconcile_eq (s : MonitoredService) :
    s.reconcile x = (s.managed x).reconcile x := by
  rw [MonitoredService.reconcile, Managed.reconcile]
  change _ = match s.spec.validationError? with
    | some reason => _
    | x => _
  rcases s.spec.validationError? with _ | reason
  · refine congrArg (Bind.bind _) (funext fun o => ?_)
    rcases o with e | o <;> rfl
  · rfl

lemma MonitoredGroup.synchronize_eq (g : MonitoredGroup) :
    g.synchronize = (g.managed x).synchronize := rfl

lemma MonitoredGroup.reconcile_eq (g : MonitoredGroup) :
    g.reconcile x = (g.managed x).reconcile x := by
  rw [MonitoredGroup.reconcile, Managed.reconcile]
  change _ = match g.spec.validationError? with
    | some reason => _
    | x => _
  rcases g.spec.validationError? with _ | reason
  · refine congrArg (Bind.bind _) (funext fun o => ?_)
    rcases o with e | o <;> rfl
  · rfl

end Equations

/-! ## Runs -/

namespace Managed

variable {Client Plan : Type} {b : Behaviour} {x : OperatorContext Client}
  {m : Managed Client Plan} {registry registry' : Registry Client} {w w' : IdealSurroundings}

/-- A resource whose platform is not registered is not worked on. -/
lemma exec_synchronize_of_error {e : Failure} (h : registry.get m.platformRef = .error e) :
    Operator.exec b.answer m.synchronize registry w = ((.ok (.error e), registry), w) := by
  rw [synchronize, Operator.exec_bind, Operator.exec_registry]
  dsimp only
  rw [h, Operator.exec_pure]

/-- Working on the platform of a resource. -/
lemma exec_synchronize_of_ok {entry : PlatformEntry Client}
    (h : registry.get m.platformRef = .ok entry) :
    Operator.exec b.answer m.synchronize registry w =
      ((.ok (Program.exec (Run.idealAnswer b.failing) m.work w.run).1, registry),
        ⟨(Program.exec (Run.idealAnswer b.failing) m.work w.run).2, w.requests⟩) := by
  rw [synchronize, Operator.exec_bind, Operator.exec_registry]
  dsimp only
  rw [h, b.exec_onPlatform]

/-- The work of a pass that synchronized with an outcome. -/
lemma exec_work_of_synchronize {o : Outcome Plan}
    (h : Operator.exec b.answer m.synchronize registry w = ((.ok (.ok o), registry'), w')) :
    registry' = registry ∧ w'.requests = w.requests ∧
      Program.exec (Run.idealAnswer b.failing) m.work w.run = (.ok o, w'.run) := by
  rcases hentry : registry.get m.platformRef with e | entry
  · rw [exec_synchronize_of_error hentry] at h
    cases h
  · rw [exec_synchronize_of_ok hentry] at h
    rcases hwork : Program.exec (Run.idealAnswer b.failing) m.work w.run with ⟨_ | o', run⟩
    · rw [hwork] at h
      cases h
    · rw [hwork] at h
      cases h
      exact ⟨rfl, rfl, rfl⟩

/-- A pass whose reports leave the platform alone. -/
structure Discreet (b : Behaviour) (m : Managed Client Plan) : Prop where
  writeFailure (reason : String) : Quiet b (m.writeFailure reason)
  writeSuccess (o : Outcome Plan) : Quiet b (m.writeSuccess o)

lemma Discreet.report (hm : m.Discreet b) (result : Except Failure (Outcome Plan)) :
    Quiet b (m.report x result) := by
  rcases result with e | o
  · exact (hm.writeFailure _).bind fun _ => fun _ _ => rfl
  · refine (hm.writeSuccess o).bind fun _ => ?_
    dsimp only
    split
    · exact (Quiet.publish _ _).bind fun _ => .pure _
    · exact .pure _

/-- **What a pass changes.** The platform is changed by the work there alone, and only if it is
registered. -/
theorem platform_reconcile (hm : m.Discreet b) (x : OperatorContext Client)
    (registry : Registry Client) (p : InMemoryPlatform) :
    (b.run (m.reconcile x) registry p).2.2 = p ∨
      (b.run (m.reconcile x) registry p).2.2 =
        (Program.exec (Run.idealAnswer b.failing) m.work ⟨[], p⟩).2.platform := by
  rw [Behaviour.run, reconcile]
  rcases m.unusable with _ | reason
  · dsimp only
    rw [Operator.exec_bind]
    rcases hentry : registry.get m.platformRef with e | entry
    · rw [exec_synchronize_of_error hentry]
      exact .inl (congrArg Run.platform (hm.report _ _ _))
    · rw [exec_synchronize_of_ok hentry]
      exact .inr (congrArg Run.platform (hm.report _ _ _))
  · have hquiet := ((hm.writeFailure reason).bind fun _ => .pure Action.awaitChange) registry
      ⟨⟨[], p⟩, []⟩
    exact .inl (congrArg Run.platform hquiet)

/-- **What a pass that succeeded did.** Its work on the platform succeeded with the outcome that
synchronizing alone has; that was reported, and at most one event after it.

**Proof sketch.** Synchronizing is the only part that the platform sees, and it runs against the
same systems whether the reports follow or not. -/
theorem run_reconcile_ok {o : Outcome Plan} {action : Action} {p q : InMemoryPlatform}
    {requests : List ApiRequest} (hm : m.Discreet b) (hvalid : m.unusable = none)
    (hsync : (b.run m.synchronize registry p).1 = .ok (.ok o))
    (h : b.run (m.reconcile x) registry p = (.ok action, requests, q)) :
    (∃ calls, Program.exec (Run.idealAnswer b.failing) m.work ⟨[], p⟩ = (.ok o, ⟨calls, q⟩)) ∧
      ∃ r w₁ w₂, w₁.requests = [] ∧
        Operator.exec b.answer (m.writeSuccess o) registry w₁ = ((.ok (), r), w₂) ∧
        (requests = w₂.requests ∨ ∃ ns body, requests = .createEvent ns body :: w₂.requests) := by
  rcases hs : Operator.exec b.answer m.synchronize registry ⟨⟨[], p⟩, []⟩ with ⟨⟨result, r₁⟩, w₁⟩
  rw [Behaviour.run, hs] at hsync
  obtain rfl : result = .ok (.ok o) := hsync
  obtain ⟨rfl, hrequests, hwork⟩ := exec_work_of_synchronize hs
  rcases hr : Operator.exec b.answer (m.reconcile x) r₁ ⟨⟨[], p⟩, []⟩ with ⟨⟨result, r'⟩, w'⟩
  rw [Behaviour.run, hr] at h
  cases h
  rw [reconcile, hvalid] at hr
  dsimp only at hr
  rw [Operator.exec_bind, hs] at hr
  dsimp only at hr
  have hquiet := hm.report (x := x) (.ok o) r₁ w₁
  rw [hr] at hquiet
  refine ⟨⟨w'.run.calls, ?_⟩, ?_⟩
  · rw [hwork]
    exact congrArg (Prod.mk _) hquiet.symm
  · obtain ⟨⟨⟩, r, w₂, hwrite, hr⟩ := Operator.exec_bind_ok hr
    refine ⟨r, w₁, w₂, hrequests, hwrite, ?_⟩
    dsimp only at hr
    split at hr
    · obtain ⟨⟨⟩, r'', w₃, hpublish, hr⟩ := Operator.exec_bind_ok hr
      rw [Operator.exec_pure] at hr
      cases hr
      exact .inr ⟨_, _, requests_of_request_ok hpublish⟩
    · rw [Operator.exec_pure] at hr
      cases hr
      exact .inl rfl

end Managed

lemma MonitoredService.discreet_managed {Client : Type} (b : Behaviour)
    (x : OperatorContext Client) (s : MonitoredService) : (s.managed x).Discreet b :=
  ⟨fun _ => .updateStatus _ _ _ _, fun _ => .updateStatus _ _ _ _⟩

lemma MonitoredGroup.discreet_managed {Client : Type} (b : Behaviour)
    (x : OperatorContext Client) (g : MonitoredGroup) : (g.managed x).Discreet b :=
  ⟨fun _ => .updateStatus _ _ _ _, fun _ => .updateStatus _ _ _ _⟩

/-! ## Plain surroundings -/

/-- No call fails, and all that a pass over a service or a group asks of the API server succeeds. -/
def Behaviour.calm : Behaviour where
  api _ r := match r with
    | .patchStatus .. => .ok ()
    | .patchFinalizers .. => .ok ()
    | .createEvent .. => .ok ()
    | .delete .. => .ok ()
    | _ => .error (.refused 404 "")
  failing _ _ := none

/-- What is given to passes when no option is. -/
def OperatorContext.plain : OperatorContext Unit := ⟨{}, ⟨0, 0⟩, fun _ _ => .ok (), {}⟩

/-- One platform, the default one. -/
def Registry.single : Registry Unit :=
  ⟨⟨[(Registry.defaultName,
    ⟨"central", { url := "http://central", timeoutSeconds := 30 }, (), ""⟩)]⟩⟩

end MonitorSync
