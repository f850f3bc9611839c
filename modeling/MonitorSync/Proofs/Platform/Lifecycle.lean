import Mathlib.Data.List.Induction
import MonitorSync.Operator.Platform
import MonitorSync.Proofs.Operator.Managed
import MonitorSync.Proofs.Platform.History
set_option autoImplicit false

/-!
# The life of a platform in the registry

A platform is registered under a name that its specification gives, and cleaned up under the name
that it has then. The specification may be edited in between, so what a clean-up leaves depends on
all the names that the platform was registered under before.

## Main definitions

* `PlatformVisit` — a pass over a platform as it stands at some time.
* `PlatformVisit.change?` — what a pass changes in the registry.
* `PlatformCourse` — what passes have come to, one after the other, with a record of their changes.
* `RegistryChange.lastRegistered?` — the name of the last registration in a record.

## Main results

* `PlatformVisit.changed_pass` — a pass makes its change of the registry and no other.
* `PlatformCourse.recorded` — the registry has the record of the passes.
* `PlatformCourse.emptied_iff` — when a clean-up leaves nothing, and when no more than the last
  registered platform is ever there.
* `PlatformCourse.clean_up_leaves_old_name` — a platform that was renamed leaves its old entry.
-/

namespace MonitorSync

variable {Client α β σ : Type} {answer : (c : OperatorCall Client) → σ → c.Answer × σ}

/-! ## Work beside the registry -/

namespace Operator

/-- Work that leaves the registry alone, whatever it is told. -/
def KeepsRegistry (answer : (c : OperatorCall Client) → σ → c.Answer × σ)
    (work : Operator Client α) : Prop :=
  ∀ r s, (exec answer work r s).1.2 = r

namespace KeepsRegistry

lemma pure (a : α) : KeepsRegistry answer (Pure.pure a : Operator Client α) := fun _ _ => rfl

lemma throw (e : OperatorFailure) :
    KeepsRegistry answer (MonadExcept.throw e : Operator Client α) := fun _ _ => rfl

lemma ofResult (result : Except Failure α) :
    KeepsRegistry answer (ofResult result : Operator Client α) := by
  rcases result with _ | _ <;> exact fun _ _ => rfl

lemma lift (work : OperatorProgram Client α) : KeepsRegistry answer (lift work) := fun r s => by
  rw [exec_lift]

/-- A sequence fails with its first part, or goes on with the registry as it was. -/
lemma exec_bind_cases {x : Operator Client α} (hx : KeepsRegistry answer x)
    (f : α → Operator Client β) (r : Registry Client) (s : σ) :
    (∃ e t, exec answer (x >>= f) r s = ((.error e, r), t)) ∨
      ∃ a t, exec answer (x >>= f) r s = exec answer (f a) r t := by
  have hkept := hx r s
  rw [exec_bind]
  rcases hexec : exec answer x r s with ⟨⟨e | a, r'⟩, t⟩
  · rw [hexec] at hkept
    obtain rfl : r' = r := hkept
    exact .inl ⟨e, t, rfl⟩
  · rw [hexec] at hkept
    obtain rfl : r' = r := hkept
    exact .inr ⟨a, t, rfl⟩

lemma bind {x : Operator Client α} {f : α → Operator Client β} (hx : KeepsRegistry answer x)
    (hf : ∀ a, KeepsRegistry answer (f a)) : KeepsRegistry answer (x >>= f) := by
  intro r s
  rcases hx.exec_bind_cases f r s with ⟨e, t, h⟩ | ⟨a, t, h⟩
  · rw [h]
  · rw [h]
    exact hf a r t

lemma request (q : ApiRequest) :
    KeepsRegistry answer (Operator.request q : Operator Client q.Reply) :=
  (lift _).bind fun a => by
    rcases a with fault | reply
    · exact throw _
    · exact pure _

lemma updateStatus {Spec Status : Type} [DecidableEq Status] (t : ObjectType)
    (toJson : Status → Json) (resource : Resource Spec Status) (status : Status) :
    KeepsRegistry answer (Operator.updateStatus t toJson resource status :
      Operator Client Unit) := by
  rw [Operator.updateStatus]
  split
  · exact pure _
  · exact request _

end KeepsRegistry

end Operator

/-! ## Passes -/

/-- A pass over a platform as it stands at some time. -/
structure PlatformVisit (Client : Type) where
  context : OperatorContext Client
  platform : Platform

namespace Platform

/-- A pass over the platform brings it in line: it is not to be deleted. -/
def isKept (p : Platform) : Bool :=
  (p.metadata.finalizers.getD []).contains finalizer && p.metadata.deletionTimestamp.isNone

/-- A pass over the platform cleans up after it: it is to be deleted. -/
def isLeaving (p : Platform) : Bool :=
  (p.metadata.finalizers.getD []).contains finalizer && p.metadata.deletionTimestamp.isSome &&
    p.metadata.name.isSome

end Platform

namespace PlatformVisit

open Operator

/-- What a pass changes in the registry: it registers the platform, where that succeeds, or removes
it. -/
def change? (answer : (c : OperatorCall Client) → σ → c.Answer × σ) (v : PlatformVisit Client)
    (r : Registry Client) (s : σ) : Option RegistryChange :=
  if v.platform.isKept then
    match (exec answer (v.platform.register v.context) r s).1.1 with
    | .ok built => some (.registered v.platform.registryName v.platform.spec.isDefault built)
    | .error _ => none
  else if v.platform.isLeaving then some (.removed v.platform.registryName)
  else none

/-- Looking for the credentials leaves the registry alone. -/
private lemma keepsRegistry_secret (c : PlatformConnection) (p : Platform) :
    KeepsRegistry answer (p.secret c : Operator Client SourceObject) := by
  refine (KeepsRegistry.lift _).bind fun found => ?_
  rcases found with fault | _ | v
  · exact .throw _
  · exact .throw _
  · dsimp only
    split
    · exact .pure _
    · exact .throw _

variable (answer) in
/-- **Registering.** It fails before the registry is asked, or is an operation on the registry. -/
lemma exec_register (v : PlatformVisit Client) (r : Registry Client) (s : σ) :
    (∃ e t, exec answer (v.platform.register v.context) r s = ((.error e, r), t)) ∨
      ∃ settings credentials t,
        let op : RegistryOp Client := .upsert v.platform.registryName v.platform.spec.isDefault
          settings credentials v.context.build
        exec answer (v.platform.register v.context) r s =
          (((op.run r).1.mapError .common, (op.run r).2), t) := by
  rw [Platform.register]
  rcases (KeepsRegistry.ofResult v.platform.connection).exec_bind_cases _ r s with
    hfailed | ⟨connection, t, h⟩
  · exact .inl hfailed
  rw [h]
  rcases (keepsRegistry_secret connection v.platform).exec_bind_cases _ r t with
    hfailed | ⟨secret, t, h⟩
  · exact .inl hfailed
  rw [h]
  rcases (KeepsRegistry.ofResult secret.credentials).exec_bind_cases _ r t with
    hfailed | ⟨credentials, t, h⟩
  · exact .inl hfailed
  rw [h]
  rcases (KeepsRegistry.ofResult
    (v.platform.settings v.context.options.requestTimeout)).exec_bind_cases _ r t with
    hfailed | ⟨settings, t, h⟩
  · exact .inl hfailed
  rw [h]
  refine .inr ⟨settings, credentials, t, ?_⟩
  let op : RegistryOp Client := .upsert v.platform.registryName v.platform.spec.isDefault
    settings credentials v.context.build
  change exec answer (Operator.ofResult (op.run r).1) (op.run r).2 t = _
  rcases (op.run r).1 with failure | built <;> rfl

/-- The registry after a registration that was tried. -/
private lemma changed_register (v : PlatformVisit Client) (hkept : v.platform.isKept)
    (r : Registry Client) (s : σ) :
    Registry.ChangedBy (v.change? answer r s) r
      (exec answer (v.platform.register v.context) r s).1.2 := by
  rw [change?, if_pos hkept]
  rcases v.exec_register answer r s with ⟨e, t, h⟩ | ⟨settings, credentials, t, h⟩
  · rw [h]
    rfl
  · have hchanged := RegistryOp.changed_run r (.upsert v.platform.registryName
      v.platform.spec.isDefault settings credentials v.context.build)
    rw [h]
    rw [RegistryOp.change?] at hchanged
    rcases hrun : ((RegistryOp.upsert v.platform.registryName v.platform.spec.isDefault settings
      credentials v.context.build).run r).1 with failure | built
    · rw [hrun] at hchanged
      exact hchanged
    · rw [hrun] at hchanged
      exact hchanged

/-- Bringing a platform in line changes the registry only by registering it. -/
private lemma registry_reconcile (v : PlatformVisit Client) (r : Registry Client) (s : σ) :
    (exec answer (v.platform.reconcile v.context) r s).1.2 =
      (exec answer (v.platform.register v.context) r s).1.2 := by
  rw [Platform.reconcile, exec_bind, exec_run]
  rcases exec answer (v.platform.register v.context) r s with ⟨⟨e | built, r'⟩, t⟩
  · exact (KeepsRegistry.updateStatus _ _ _ _).bind (fun _ => .throw e) r' t
  · exact (KeepsRegistry.updateStatus _ _ _ _).bind (fun _ => .pure _) r' t

/-- Asking for the finalizer leaves the registry alone. -/
private lemma keepsRegistry_addFinalizer (t : ObjectType) (m : Metadata) :
    KeepsRegistry answer (addFinalizer Platform.finalizer t m : Operator Client Action) := by
  rw [addFinalizer]
  rcases m.name with _ | name
  · exact .throw _
  · refine (KeepsRegistry.lift _).bind fun a => ?_
    rcases a with fault | reply
    · exact .throw _
    · exact .pure _

/-- Cleaning up after a platform removes it, whether the finalizer can be removed or not. -/
private lemma registry_finish (v : PlatformVisit Client) (index : Nat) (name : String)
    (hname : v.platform.metadata.name = some name) (r : Registry Client) (s : σ) :
    (exec answer (finish Platform.finalizer index Platform.type v.platform.metadata
      (v.platform.cleanup : Operator Client Action)) r s).1.2 =
        r.remove v.platform.registryName := by
  rw [finish, hname]
  dsimp only
  rw [exec_bind, exec_adapt]
  change (exec answer _ (r.remove v.platform.registryName) s).1.2 = _
  refine KeepsRegistry.bind (.lift _) (fun a => ?_) _ _
  rcases a with fault | reply
  · exact .throw _
  · exact .pure _

/-- **Passes.** A pass makes its change of the registry and no other. -/
theorem changed_pass (v : PlatformVisit Client) (r : Registry Client) (s : σ) :
    Registry.ChangedBy (v.change? answer r s) r
      (exec answer (v.platform.pass v.context) r s).1.2 := by
  have hindexed := List.idxOf?_eq_none_iff (a := Platform.finalizer)
    (l := v.platform.metadata.finalizers.getD [])
  rw [Platform.pass, withFinalizer]
  rcases hindex : (v.platform.metadata.finalizers.getD []).idxOf? Platform.finalizer with _ | index
  · have hnone : v.change? answer r s = none := by
      simp [change?, Platform.isKept, Platform.isLeaving, hindexed.1 hindex]
    rw [hnone]
    rcases v.platform.metadata.deletionTimestamp with _ | time
    · exact keepsRegistry_addFinalizer _ _ r s
    · exact KeepsRegistry.pure _ r s
  · have hmem : Platform.finalizer ∈ v.platform.metadata.finalizers.getD [] := by
      by_contra hnot
      rw [hindexed.2 hnot] at hindex
      cases hindex
    rcases hdeleted : v.platform.metadata.deletionTimestamp with _ | time
    · have hkept : v.platform.isKept := by simp [Platform.isKept, hmem, hdeleted]
      dsimp only
      rw [exec_adapt, registry_reconcile]
      exact v.changed_register hkept r s
    · rcases hname : v.platform.metadata.name with _ | name
      · have hnone : v.change? answer r s = none := by
          simp [change?, Platform.isKept, Platform.isLeaving, hdeleted, hname]
        rw [hnone]
        dsimp only
        rw [finish, hname]
        exact KeepsRegistry.throw _ r s
      · have hremoved : v.change? answer r s = some (.removed v.platform.registryName) := by
          simp [change?, Platform.isKept, Platform.isLeaving, hmem, hdeleted, hname]
        rw [hremoved]
        dsimp only
        rw [v.registry_finish index name hname]
        exact .removed

/-- A pass that cleans up removes the platform. -/
lemma change?_of_isLeaving {v : PlatformVisit Client} (h : v.platform.isLeaving)
    (r : Registry Client) (s : σ) :
    v.change? answer r s = some (.removed v.platform.registryName) := by
  have hkept : v.platform.isKept = false := by
    rw [Platform.isLeaving, Bool.and_eq_true, Bool.and_eq_true] at h
    simp [Platform.isKept, h.1.2]
  rw [change?, hkept, if_neg Bool.false_ne_true, if_pos h]

end PlatformVisit

/-! ## Courses -/

/-- What passes have come to, one after the other: the record of their changes, the registry, and
the systems around it. -/
structure PlatformCourse (Client σ : Type) where
  log : List RegistryChange
  registry : Registry Client
  systems : σ

namespace PlatformCourse

/-- One more pass. -/
def next (answer : (c : OperatorCall Client) → σ → c.Answer × σ) (c : PlatformCourse Client σ)
    (v : PlatformVisit Client) : PlatformCourse Client σ :=
  let after := Operator.exec answer (v.platform.pass v.context) c.registry c.systems
  ⟨c.log ++ (v.change? answer c.registry c.systems).toList, after.1.2, after.2⟩

/-- Passes one after the other, from an empty registry. -/
def ofVisits (answer : (c : OperatorCall Client) → σ → c.Answer × σ) (s : σ)
    (visits : List (PlatformVisit Client)) : PlatformCourse Client σ :=
  visits.foldl (next answer) ⟨[], {}, s⟩

variable {s : σ} {visits done : List (PlatformVisit Client)} {v : PlatformVisit Client}

lemma ofVisits_concat :
    ofVisits answer s (visits ++ [v]) = (ofVisits answer s visits).next answer v := by
  rw [ofVisits, List.foldl_append]
  rfl

variable (answer s visits v) in
lemma log_concat : (ofVisits answer s (visits ++ [v])).log =
    (ofVisits answer s visits).log ++ (v.change? answer (ofVisits answer s visits).registry
      (ofVisits answer s visits).systems).toList := by
  rw [ofVisits_concat, next]

/-- **Courses are recorded.** After any passes, the registry has their record. -/
theorem recorded (answer : (c : OperatorCall Client) → σ → c.Answer × σ) (s : σ)
    (visits : List (PlatformVisit Client)) :
    Registry.Recorded (ofVisits answer s visits).log (ofVisits answer s visits).registry := by
  induction visits using List.reverseRecOn with
  | nil => exact .empty
  | append_singleton visits v ih =>
    rw [ofVisits_concat]
    exact ih.next (v.changed_pass _ _)

/-- The record of the first passes is the first part of the record. -/
lemma log_mono (h : done <+: visits) :
    (ofVisits answer s done).log <+: (ofVisits answer s visits).log := by
  induction visits using List.reverseRecOn with
  | nil =>
    obtain rfl := List.prefix_nil.1 h
    exact List.prefix_rfl
  | append_singleton visits v ih =>
    rcases List.prefix_concat_iff.1 h with rfl | h
    · exact List.prefix_rfl
    · rw [log_concat]
      exact (ih h).trans (List.prefix_append _ _)

/-- A first part of the record is the record of the first passes. -/
lemma exists_log_eq {log : List RegistryChange} (h : log <+: (ofVisits answer s visits).log) :
    ∃ done, done <+: visits ∧ (ofVisits answer s done).log = log := by
  induction visits using List.reverseRecOn with
  | nil => exact ⟨[], List.prefix_rfl, (List.prefix_nil.1 h).symm⟩
  | append_singleton visits v ih =>
    have hearlier (h : log <+: (ofVisits answer s visits).log) :
        ∃ done, done <+: visits ++ [v] ∧ (ofVisits answer s done).log = log := by
      obtain ⟨done, hdone, hlog⟩ := ih h
      exact ⟨done, hdone.trans (List.prefix_append _ _), hlog⟩
    have hall := log_concat answer s visits v
    rw [hall] at h
    rcases hchange : v.change? answer (ofVisits answer s visits).registry
      (ofVisits answer s visits).systems with _ | c <;> rw [hchange] at h hall
    · rw [Option.toList_none, List.append_nil] at h
      exact hearlier h
    · rcases List.prefix_concat_iff.1 h with rfl | h
      · exact ⟨visits ++ [v], List.prefix_rfl, hall⟩
      · exact hearlier h

end PlatformCourse

/-! ## The last registered name -/

namespace RegistryChange

variable {log : List RegistryChange} {c : RegistryChange}

/-- The name that a change registers a platform under. -/
def registeredName? : RegistryChange → Option String
  | .registered name _ _ => some name
  | .removed _ => none

/-- The name of the last registration. -/
def lastRegistered? (log : List RegistryChange) : Option String :=
  log.reverse.findSome? registeredName?

lemma lastRegistered?_concat :
    lastRegistered? (log ++ [c]) = c.registeredName?.or (lastRegistered? log) := by
  rw [lastRegistered?, List.reverse_append, List.reverse_singleton, List.singleton_append,
    List.findSome?_cons]
  rcases c.registeredName? with _ | name <;> rfl

/-- **One name at a time.** Only the last registered name ever stands exactly if no platform is
registered while another name stands, other than one that is taken away by that.

**Proof sketch.** A registration adds its own name to those that stand, and only takes the name
`default` away; a removal adds none. -/
lemma standing_last_iff :
    (∀ done, done <+: log → ∀ n, Standing done n → lastRegistered? done = some n) ↔
      ∀ before n isDefault built since,
        log = before ++ .registered n isDefault built :: since →
          ∀ m, Standing before m → m = n ∨ m = Registry.defaultName ∧ isDefault = true := by
  constructor
  · rintro h before n isDefault built since rfl m hm
    have hlast := h (before ++ [.registered n isDefault built]) ⟨since, by simp⟩ m
    rw [lastRegistered?_concat, standing_concat] at hlast
    by_cases htaken : (RegistryChange.registered n isDefault built).TakesAway m
    · exact .inr ⟨htaken.1, htaken.2.2⟩
    · exact .inl (Option.some.inj (hlast (.inr ⟨hm, htaken⟩))).symm
  · intro h done
    induction done using List.reverseRecOn with
    | nil => exact fun _ n hn => absurd hn not_standing_nil
    | append_singleton done c ih =>
      intro hdone m hm
      obtain ⟨since, rfl⟩ := hdone
      rw [lastRegistered?_concat]
      rw [standing_concat] at hm
      cases c with
      | registered n isDefault built =>
        rcases hm with ⟨isDefault', hm⟩ | ⟨hm, hkept⟩
        · cases hm
          rfl
        · rcases h done n isDefault built since (by simp) m hm with rfl | ⟨rfl, hdefault⟩
          · rfl
          · by_cases hn : n = Registry.defaultName
            · rw [hn]
              rfl
            · exact absurd ⟨rfl, hn, hdefault⟩ hkept
      | removed n =>
        rcases hm with ⟨_, ⟨⟩⟩ | ⟨hm, -⟩
        exact ih ⟨[.removed n] ++ since, by simp⟩ m hm

end RegistryChange

/-! ## Main result -/

namespace PlatformCourse

open RegistryChange

/-- A registry holds no more than the last registered platform exactly if only that name stands. -/
private lemma holds_last_iff {log : List RegistryChange} {r : Registry Client}
    (h : Registry.Recorded log r) :
    (∀ key e, r.entries.get? key = some e → lastRegistered? log = some e.name) ↔
      ∀ n, Standing log n → lastRegistered? log = some n := by
  constructor
  · intro hlast n hn
    obtain ⟨e, hget, rfl⟩ := h.holds_iff.2 hn
    exact hlast e.name e hget
  · intro hlast key e hget
    exact hlast e.name (h.holds_iff.1 ⟨e, (h.named key e hget).2, rfl⟩)

/-- **What a clean-up leaves.** Take passes over a platform from an empty registry, with any edits
of it and any answers of the systems around, and then one that cleans up. The registry is empty
after that exactly if no other name stood than the one that the platform has now: every client that
was built under another name was removed by an earlier clean-up, or it was the one of the name
`default` and gave way to a later registration as the default platform. And at no point there is
more than the entry of the last registered name exactly if the platform was never registered while
another name stood, other than the name `default` that gave way.

**Proof sketch.** The registry has the record of the passes, so the names that have entries are
those that stand; cleaning up takes one name away. -/
theorem emptied_iff (answer : (c : OperatorCall Client) → σ → c.Answer × σ) (s : σ)
    (visits : List (PlatformVisit Client)) (last : PlatformVisit Client)
    (hlast : last.platform.isLeaving) :
    ((ofVisits answer s (visits ++ [last])).registry.names = [] ↔
      ∀ n, Standing (ofVisits answer s visits).log n → n = last.platform.registryName) ∧
    ((∀ done, done <+: visits ++ [last] → ∀ key e,
        (ofVisits answer s done).registry.entries.get? key = some e →
          lastRegistered? (ofVisits answer s done).log = some e.name) ↔
      ∀ before n isDefault built since,
        (ofVisits answer s (visits ++ [last])).log =
          before ++ .registered n isDefault built :: since →
        ∀ m, Standing before m → m = n ∨ m = Registry.defaultName ∧ isDefault = true) := by
  constructor
  · have hrecord := recorded answer s (visits ++ [last])
    rw [hrecord.named.names_eq_nil_iff]
    simp only [hrecord.holds_iff]
    rw [log_concat, PlatformVisit.change?_of_isLeaving hlast, Option.toList_some]
    simp only [standing_concat, reduceCtorEq, exists_const, false_or, not_and, not_not]
    exact forall_congr' fun n => imp_congr_right fun _ => eq_comm
  · rw [← standing_last_iff]
    constructor
    · intro h log hlog
      obtain ⟨done, hdone, rfl⟩ := exists_log_eq hlog
      exact (holds_last_iff (recorded answer s done)).1 (h done hdone)
    · intro h done hdone
      exact (holds_last_iff (recorded answer s done)).2 (h _ (log_mono hdone))

/-! ### Two courses -/

/-- An API server that has a secret with credentials, and accepts every change. -/
private def keepingSecret : Behaviour where
  api _ r := match r with
    | .get .. => .ok (.ofEntries [("metadata", .ofEntries [("name", .str "creds")]),
      ("stringData", .ofEntries [("password", .str "pass"), ("username", .str "admin")])])
    | r => Behaviour.calm.api [] r
  failing _ _ := none

/-- A pass over a platform that shall be registered under a name, or that is to be deleted. -/
private def visit (name : String) (isDefault : Bool) (deletionTimestamp : Option String) :
    PlatformVisit Unit where
  context := .plain
  platform :=
    { metadata :=
        { name := some "central", ns := some "monitoring"
          finalizers := some [Platform.finalizer], deletionTimestamp := deletionTimestamp }
      spec :=
        { isDefault := isDefault, name := some name
          connection := some { url := "https://central", secret := "creds" } } }

/-- Passes over the platform, beside that server. -/
private def course (visits : List (PlatformVisit Unit)) : PlatformCourse Unit IdealSurroundings :=
  ofVisits keepingSecret.answer ⟨⟨[], ⟨[], []⟩⟩, []⟩ visits

/-- A platform that was first registered under the name `default`, and then under another one as the
default platform, leaves nothing. -/
theorem emptied_iff_default_renamed :
    let visits := [visit "default" false none, visit "main" true none]
    let last := visit "main" true (some "2024-01-01T00:00:00Z")
    (course visits).log = [.registered "default" false true, .registered "main" true true] ∧
      (course (visits ++ [last])).registry.names = [] := by
  intro visits last
  have hlog : (course visits).log =
      [.registered "default" false true, .registered "main" true true] := by decide +kernel
  refine ⟨hlog, (emptied_iff _ _ visits last (by decide +kernel)).1.2 fun n hn => ?_⟩
  change RegistryChange.Standing (course visits).log n at hn
  rw [hlog, ← List.singleton_append, ← List.nil_append [RegistryChange.registered "default" _ _],
    standing_concat, standing_concat] at hn
  rcases hn with ⟨_, ⟨⟩⟩ | ⟨⟨_, ⟨⟩⟩ | ⟨hn, -⟩, hkept⟩
  · rfl
  · exact absurd ⟨rfl, by decide, rfl⟩ hkept
  · exact (not_standing_nil hn).elim

/-- A platform that was renamed since it was registered leaves its old entry. -/
theorem clean_up_leaves_old_name :
    let visits := [visit "old" false none, visit "new" false none]
    let last := visit "new" false (some "2024-01-01T00:00:00Z")
    last.platform.isLeaving ∧ (course visits).registry.names = ["new", "old"] ∧
      RegistryChange.lastRegistered? (course visits).log = some "new" ∧
      (course (visits ++ [last])).registry.names = ["old"] := by
  decide +kernel

end PlatformCourse

end MonitorSync
