import MonitorSync.Policy
import MonitorSync.Proofs.Effect.Run
import MonitorSync.Proofs.Remote.Slot
set_option autoImplicit false

/-!
# The ideal platform

A platform in memory finds services by host and name and groups by name. It is ideal if these are
keys: what would give an element the key of another one is refused. A macro that is set belongs to
the service itself from then on. Real platforms are ideal but for calls that fail.

## Main definitions

* `RemoteService.identity` — the key of a service.
* `InMemoryPlatform.idealAnswer` — the answer of an ideal platform, and the platform after it.
* `InMemoryPlatform.Keyed` — no two services and no two groups have one key.
* `Faulty` — a system that is an ideal platform but for calls that fail without effect.
* `Strict` — work that succeeds only if none of its calls fails.

## Main results

* `InMemoryPlatform.Keyed.idealAnswer` — an ideal platform keeps its keys apart.
* `InMemoryPlatform.Run.faulty_idealAnswer` — runs with failing calls are faulty in this sense.
* `Strict.bind`, `Strict.call` — strict work is closed under sequences.
-/

namespace MonitorSync

/-- The host and name of a service. -/
def RemoteService.identity (s : RemoteService) : String × String := (s.host, s.name)

/-! ## Parameters and keys -/

/-- Setting a parameter other than the name keeps the key of a service. -/
lemma RemoteService.identity_of_setParam? {s t : RemoteService} {param value : String}
    (hp : param ≠ serviceRenameParam) (h : s.setParam? param value = some t) :
    t.identity = s.identity := by
  unfold RemoteService.setParam? at h
  split at h
  · exact absurd rfl hp
  all_goals first | (cases h; rfl) | cases h

/-- Renaming keeps the host of a service. -/
lemma RemoteService.identity_of_rename {s t : RemoteService} {value : String}
    (h : s.setParam? serviceRenameParam value = some t) : t.identity = (s.host, value) := by
  obtain rfl : { s with name := value } = t := by simpa [setParam?, serviceRenameParam] using h
  rfl

/-- Setting a parameter other than the name keeps the name of a group. -/
lemma RemoteGroup.name_of_setParam? {g h : RemoteGroup} {param value : String}
    (hp : param ≠ groupRenameParam) (hset : g.setParam? param value = some h) :
    h.name = g.name := by
  unfold RemoteGroup.setParam? at hset
  split at hset
  · exact absurd rfl hp
  all_goals first | (cases hset; rfl) | cases hset

/-- Renaming a group gives it its new name. -/
lemma RemoteGroup.name_of_rename {g h : RemoteGroup} {value : String}
    (hset : g.setParam? groupRenameParam value = some h) : h.name = value := by
  obtain rfl : { g with name := value } = h := by simpa [setParam?, groupRenameParam] using hset
  rfl

/-! ## Calls that change one element -/

namespace RemoteCall

/-- The host and name of the service that a call changes. -/
def serviceTarget? : RemoteCall → Option (String × String)
  | setServiceParam host name _ _ => some (host, name)
  | setServiceGroups host name _ => some (host, name)
  | deleteServiceGroups host name _ => some (host, name)
  | setServiceCategories host name _ => some (host, name)
  | deleteServiceCategories host name _ => some (host, name)
  | setServiceMacro host name _ => some (host, name)
  | deleteServiceMacro host name _ => some (host, name)
  | setServiceHost host name _ => some (host, name)
  | _ => none

/-- What a call makes of the service that it changes, if it applies to it. -/
def changeService? : RemoteCall → RemoteService → Option RemoteService
  | setServiceParam _ _ param value, s => s.setParam? param value
  | setServiceGroups _ _ groups, s =>
    some { s with groups := InMemoryPlatform.addNames s.groups groups }
  | deleteServiceGroups _ _ groups, s =>
    some { s with groups := InMemoryPlatform.removeNames s.groups groups }
  | setServiceCategories _ _ categories, s =>
    some { s with categories := InMemoryPlatform.addNames s.categories categories }
  | deleteServiceCategories _ _ categories, s =>
    some { s with categories := InMemoryPlatform.removeNames s.categories categories }
  | setServiceMacro _ _ m, s =>
    some { s with
      macros := InMemoryPlatform.putMacro { m with source := ServiceMacro.directSource } s.macros }
  | deleteServiceMacro _ _ macroName, s =>
    some { s with macros := s.macros.filter fun m => m.name ≠ macroName }
  | setServiceHost _ _ newHost, s => some { s with host := newHost }
  | _, _ => none

/-- The name of the group that a call changes. -/
def groupTarget? : RemoteCall → Option String
  | setGroupParam name _ _ => some name
  | _ => none

/-- What a call makes of the group that it changes, if it applies to it. -/
def changeGroup? : RemoteCall → RemoteGroup → Option RemoteGroup
  | setGroupParam _ param value, g => g.setParam? param value
  | _, _ => none

end RemoteCall

/-- Makes a call for its effect alone. -/
def Remote.perform (c : RemoteCall) : Remote Unit := do
  let _ ← Remote.call c
  return ()

/-! ## Answers -/

namespace InMemoryPlatform

/-- Whether a call would give a service or a group the key of another one. -/
def collides (p : InMemoryPlatform) : RemoteCall → Bool
  | .setServiceParam host name param value =>
    param = serviceRenameParam && name ≠ value && (p.service? host value).isSome
  | .setServiceHost host name newHost => host ≠ newHost && (p.service? newHost name).isSome
  | .setGroupParam name param value =>
    param = groupRenameParam && name ≠ value && (p.group? value).isSome
  | _ => false

/-- The answer to a call that does not collide, and the platform after it: a macro that is set
becomes one of the service itself. -/
def keyedAnswer : (c : RemoteCall) → InMemoryPlatform → c.Answer × InMemoryPlatform
  | .setServiceMacro host name m, p =>
    answer (.setServiceMacro host name { m with source := ServiceMacro.directSource }) p
  | c, p => answer c p

/-- The answer of an ideal platform, and the platform after it. -/
def idealAnswer (c : RemoteCall) (p : InMemoryPlatform) : c.Answer × InMemoryPlatform :=
  if p.collides c then (.error (refusal c.method 409 "already exists"), p) else keyedAnswer c p

/-- Answers a call as an ideal platform and records it, as `Run.answer` does: `failing n c` is the
failure of the call `c` if it is the `n`th from zero and shall fail. -/
def Run.idealAnswer (failing : Nat → RemoteCall → Option Failure) (c : RemoteCall) (r : Run) :
    c.Answer × Run :=
  let calls := c :: r.calls
  match failing r.calls.length c with
  | some e => (.error e, ⟨calls, r.platform⟩)
  | none =>
    let result := InMemoryPlatform.idealAnswer c r.platform
    (result.1, ⟨calls, result.2⟩)

variable {p : InMemoryPlatform} {host name : String}

lemma isService_iff (s : RemoteService) : isService host name s ↔ s.identity = (host, name) := by
  simp [isService, RemoteService.identity]

lemma isGroup_iff (g : RemoteGroup) : isGroup name g ↔ g.name = name := by
  simp [isGroup]

/-! ## Changes -/

section Calls

variable {σ : Type} {answer : (c : RemoteCall) → σ → c.Answer × σ}

@[simp] lemma exec_call (c : RemoteCall) (s : σ) :
    Program.exec answer (Remote.call c) s = answer c s := rfl

lemma exec_perform (c : RemoteCall) (s : σ) :
    Program.exec answer (Remote.perform c) s =
      ((answer c s).1.map fun _ => (), (answer c s).2) := by
  rw [Remote.perform, Program.exec_bind, exec_call]
  rcases answer c s with ⟨_ | _, t⟩ <;> rfl

end Calls

/-- A call that changes a service is refused if it collides; else the service is changed. -/
lemma exec_perform_service {c : RemoteCall} (h : c.serviceTarget? = some (host, name)) :
    Program.exec InMemoryPlatform.idealAnswer (Remote.perform c) p =
      if p.collides c then (.error (refusal c.method 409 "already exists"), p)
      else p.changeService c.method host name c.changeService? := by
  have hdone (r : Except Failure Unit × InMemoryPlatform) : (r.1.map fun _ => (), r.2) = r := by
    rcases r with ⟨_ | _, q⟩ <;> rfl
  rw [exec_perform, idealAnswer]
  split
  · rfl
  · cases c <;> cases h <;> exact hdone _

/-- A call that changes a group is refused if it collides; else the group is changed. -/
lemma exec_perform_group {c : RemoteCall} (h : c.groupTarget? = some name) :
    Program.exec InMemoryPlatform.idealAnswer (Remote.perform c) p =
      if p.collides c then (.error (refusal c.method 409 "already exists"), p)
      else p.changeGroup c.method name c.changeGroup? := by
  have hdone (r : Except Failure Unit × InMemoryPlatform) : (r.1.map fun _ => (), r.2) = r := by
    rcases r with ⟨_ | _, q⟩ <;> rfl
  rw [exec_perform, idealAnswer]
  split
  · rfl
  · cases c <;> cases h
    exact hdone _

/-- What a call makes of a service has the key of the service, or a key that is free exactly if the
call does not collide. -/
lemma identity_of_changeService? {c : RemoteCall} {s t : RemoteService}
    (h : c.serviceTarget? = some s.identity) (ht : c.changeService? s = some t) :
    t.identity = s.identity ∧ p.collides c = false ∨
      t.identity ≠ s.identity ∧ p.collides c = (p.service? t.host t.name).isSome := by
  cases c with
  | setServiceParam host name param value =>
    cases h
    by_cases hparam : param = serviceRenameParam
    · subst hparam
      have hi := RemoteService.identity_of_rename ht
      obtain ⟨hhost, hname⟩ := Prod.mk.inj hi
      by_cases hv : s.name = value
      · exact .inl ⟨hi.trans (congrArg (Prod.mk s.host) hv.symm), by simp [collides, hv]⟩
      · refine .inr ⟨fun h => hv ?_, ?_⟩
        · exact (Prod.mk.inj (hi.symm.trans h)).2.symm
        · simp [collides, hv, hhost, hname]
    · exact .inl ⟨RemoteService.identity_of_setParam? hparam ht, by simp [collides, hparam]⟩
  | setServiceHost host name newHost =>
    cases h
    obtain rfl : { s with host := newHost } = t := by simpa [RemoteCall.changeService?] using ht
    by_cases hv : s.host = newHost
    · exact .inl ⟨congrArg (Prod.mk · s.name) hv.symm, by simp [collides, hv]⟩
    · refine .inr ⟨fun h => hv (Prod.mk.inj h).1.symm, ?_⟩
      simp [collides, hv]
  | _ => cases h <;> cases ht <;> exact .inl ⟨rfl, rfl⟩

/-- What a call makes of a group has the name of the group, or a name that is free exactly if the
call does not collide. -/
lemma name_of_changeGroup? {c : RemoteCall} {g t : RemoteGroup}
    (h : c.groupTarget? = some g.name) (ht : c.changeGroup? g = some t) :
    t.name = g.name ∧ p.collides c = false ∨
      t.name ≠ g.name ∧ p.collides c = (p.group? t.name).isSome := by
  cases c with
  | setGroupParam name param value =>
    cases h
    by_cases hparam : param = groupRenameParam
    · subst hparam
      obtain rfl := RemoteGroup.name_of_rename ht
      by_cases hv : t.name = g.name
      · exact .inl ⟨hv, by simp [collides, hv]⟩
      · exact .inr ⟨hv, by simp [collides, Ne.symm hv]⟩
    · exact .inl ⟨RemoteGroup.name_of_setParam? hparam ht, by simp [collides, hparam]⟩
  | _ => cases h

/-! ## Keys -/

/-- No two services have one host and name, and no two groups one name. -/
structure Keyed (p : InMemoryPlatform) : Prop where
  services : (p.services.map RemoteService.identity).Nodup
  groups : (p.groups.map RemoteGroup.name).Nodup

/-- A service that is found is one among others of other keys. -/
theorem Keyed.exists_slot {s : RemoteService} (hp : p.Keyed)
    (h : p.service? host name = some s) :
    ∃ k : Slot RemoteService, p.services = k.fill s ∧ s.identity = (host, name) ∧
      k.Free RemoteService.identity s.identity := by
  obtain ⟨k, hk, hs, -⟩ := Slot.exists_of_find? h
  exact ⟨k, hk, (isService_iff s).1 hs, (Slot.nodup_fill.1 (hk ▸ hp.services)).2⟩

/-- A group that is found is one among others of other names. -/
theorem Keyed.exists_groupSlot {g : RemoteGroup} (hp : p.Keyed) (h : p.group? name = some g) :
    ∃ k : Slot RemoteGroup, p.groups = k.fill g ∧ g.name = name ∧
      k.Free RemoteGroup.name g.name := by
  obtain ⟨k, hk, hg, -⟩ := Slot.exists_of_find? h
  exact ⟨k, hk, (isGroup_iff g).1 hg, (Slot.nodup_fill.1 (hk ▸ hp.groups)).2⟩

/-- A change of one service keeps the keys apart if the key stays or the new one is free. -/
private lemma Keyed.changeService {method : String} {f : RemoteService → Option RemoteService}
    (hp : p.Keyed) (hf : ∀ s t, p.service? host name = some s → f s = some t →
      t.identity = s.identity ∨ p.service? t.host t.name = none) :
    (p.changeService method host name f).2.Keyed := by
  rcases hs : p.service? host name with _ | s
  · simpa only [InMemoryPlatform.changeService, hs] using hp
  · rcases ht : f s with _ | t
    · simpa only [InMemoryPlatform.changeService, hs, ht] using hp
    · obtain ⟨k, hk, hi, hfree⟩ := hp.exists_slot hs
      have hothers := (Slot.nodup_fill.1 (hk ▸ hp.services)).1
      simp only [InMemoryPlatform.changeService, hs, ht, hk]
      rw [Slot.modifyFirst_fill isService_iff hi (hi ▸ hfree)]
      refine ⟨Slot.nodup_fill.2 ⟨hothers, ?_⟩, hp.groups⟩
      rcases hf s t hs ht with h | h
      · exact h ▸ hfree
      · rw [service?, hk] at h
        exact Slot.Free.of_find?_fill isService_iff h

/-- A change of one group keeps the names apart if the name stays or the new one is free. -/
private lemma Keyed.changeGroup {method : String} {f : RemoteGroup → Option RemoteGroup}
    (hp : p.Keyed) (hf : ∀ g h, p.group? name = some g → f g = some h →
      h.name = g.name ∨ p.group? h.name = none) :
    (p.changeGroup method name f).2.Keyed := by
  rcases hg : p.group? name with _ | g
  · simpa only [InMemoryPlatform.changeGroup, hg] using hp
  · rcases ht : f g with _ | t
    · simpa only [InMemoryPlatform.changeGroup, hg, ht] using hp
    · obtain ⟨k, hk, hi, hfree⟩ := hp.exists_groupSlot hg
      have hothers := (Slot.nodup_fill.1 (hk ▸ hp.groups)).1
      simp only [InMemoryPlatform.changeGroup, hg, ht, hk]
      rw [Slot.modifyFirst_fill isGroup_iff hi (hi ▸ hfree)]
      refine ⟨hp.services, Slot.nodup_fill.2 ⟨hothers, ?_⟩⟩
      rcases hf g t hg ht with h | h
      · exact h ▸ hfree
      · rw [group?, hk] at h
        exact Slot.Free.of_find?_fill isGroup_iff h

end InMemoryPlatform

namespace InMemoryPlatform

variable {p : InMemoryPlatform} {host name : String}

/-- Appending a service of a free key keeps the keys apart. -/
private lemma Keyed.append_service {s : RemoteService} (hp : p.Keyed)
    (h : p.service? s.host s.name = none) : Keyed ⟨p.services ++ [s], p.groups⟩ := by
  refine ⟨?_, hp.groups⟩
  rw [List.map_append, List.map_singleton, ← List.concat_eq_append, List.nodup_concat]
  refine ⟨fun hs => ?_, hp.services⟩
  obtain ⟨t, ht, hi⟩ := List.mem_map.1 hs
  exact List.find?_eq_none.1 h t ht ((isService_iff t).2 hi)

/-- Appending a group of a free name keeps the names apart. -/
private lemma Keyed.append_group {g : RemoteGroup} (hp : p.Keyed) (h : p.group? g.name = none) :
    Keyed ⟨p.services, p.groups ++ [g]⟩ := by
  refine ⟨hp.services, ?_⟩
  rw [List.map_append, List.map_singleton, ← List.concat_eq_append, List.nodup_concat]
  refine ⟨fun hs => ?_, hp.groups⟩
  obtain ⟨t, ht, hi⟩ := List.mem_map.1 hs
  exact List.find?_eq_none.1 h t ht ((isGroup_iff t).2 hi)

/-- **Keys stay apart.** Whatever an ideal platform is asked, no two of its services and no two of
its groups come to have one key.

**Proof sketch.** Adding is refused where the key is taken, a change that was not refused gives a
free key, and removing leaves a sublist. -/
theorem Keyed.idealAnswer (hp : p.Keyed) (c : RemoteCall) :
    (InMemoryPlatform.idealAnswer c p).2.Keyed := by
  rcases hs : c.serviceTarget? with _ | ⟨host, name⟩
  · rcases hg : c.groupTarget? with _ | name
    · cases c with
      | getService => exact hp
      | getGroup => exact hp
      | addService host name template =>
        simp only [InMemoryPlatform.idealAnswer, collides, keyedAnswer, answer]
        split
        · contradiction
        · split
          · exact hp
          · next h => exact hp.append_service (by simpa using h)
      | addGroup name description =>
        simp only [InMemoryPlatform.idealAnswer, collides, keyedAnswer, answer]
        split
        · contradiction
        · split
          · exact hp
          · next h => exact hp.append_group (by simpa using h)
      | deleteService => exact ⟨hp.services.sublist (List.filter_sublist.map _), hp.groups⟩
      | deleteGroup => exact ⟨hp.services, hp.groups.sublist (List.filter_sublist.map _)⟩
      | setGroupParam => cases hg
      | _ => cases hs
    · have h := congrArg Prod.snd ((exec_perform c p).symm.trans (exec_perform_group hg))
      dsimp only at h
      rw [h]
      split
      · exact hp
      · next hc =>
        refine hp.changeGroup fun g t hfound ht => ?_
        obtain rfl := (isGroup_iff g).1 (List.find?_some hfound)
        rcases name_of_changeGroup? (p := p) hg ht with ⟨hname, -⟩ | ⟨-, hfree⟩
        · exact .inl hname
        · exact .inr (by simpa [hc] using hfree)
  · have h := congrArg Prod.snd ((exec_perform c p).symm.trans (exec_perform_service hs))
    dsimp only at h
    rw [h]
    split
    · exact hp
    · next hc =>
      refine hp.changeService fun s t hfound ht => ?_
      have hi := (isService_iff s).1 (List.find?_some hfound)
      rcases identity_of_changeService? (p := p) (hi ▸ hs) ht with ⟨hid, -⟩ | ⟨-, hfree⟩
      · exact .inl hid
      · exact .inr (by simpa [hc] using hfree)

end InMemoryPlatform

/-! ## Failing calls -/

section Faulty

variable {σ α β : Type}

/-- A system with states `σ` that is an ideal platform but for calls that fail without effect. -/
structure Faulty (answer : (c : RemoteCall) → σ → c.Answer × σ) (view : σ → InMemoryPlatform) :
    Prop where
  answers (c : RemoteCall) (s : σ) :
    (∃ e, (answer c s).1 = .error e) ∧ view (answer c s).2 = view s ∨
      ((answer c s).1, view (answer c s).2) = InMemoryPlatform.idealAnswer c (view s)

/-- An ideal platform is one in which no call fails. -/
theorem faulty_idealAnswer : Faulty InMemoryPlatform.idealAnswer id :=
  ⟨fun _ _ => .inr rfl⟩

/-- A platform whose calls fail by their number is faulty. -/
theorem InMemoryPlatform.Run.faulty_idealAnswer
    (failing : Nat → RemoteCall → Option Failure) :
    Faulty (Run.idealAnswer failing) Run.platform := by
  refine ⟨fun c r => ?_⟩
  rw [Run.idealAnswer]
  rcases failing r.calls.length c with _ | e
  · exact .inr rfl
  · exact .inl ⟨⟨e, rfl⟩, rfl⟩

variable {answer : (c : RemoteCall) → σ → c.Answer × σ} {view : σ → InMemoryPlatform}

/-- A call that the system answers as an ideal platform in every state. -/
def Reliable (answer : (c : RemoteCall) → σ → c.Answer × σ) (view : σ → InMemoryPlatform)
    (c : RemoteCall) : Prop :=
  ∀ s, ((answer c s).1, view (answer c s).2) = InMemoryPlatform.idealAnswer c (view s)

/-- Work on a system that answers all calls as an ideal platform is work on an ideal platform. -/
lemma exec_of_reliable (hr : ∀ c, Reliable answer view c) (work : Remote α) (s : σ) :
    Program.exec InMemoryPlatform.idealAnswer work (view s) =
      ((Program.exec answer work s).1, view (Program.exec answer work s).2) :=
  Program.run_map_state answer view _ (fun c s => (hr c s).symm) work.run s

/-- A call fails without effect and of the system's accord, or runs as on an ideal platform. -/
lemma Faulty.exec_perform (hf : Faulty answer view) (c : RemoteCall) (s : σ) :
    (∃ e t, Program.exec answer (Remote.perform c) s = (.error e, t) ∧ view t = view s ∧
      ¬ Reliable answer view c) ∨
    Program.exec InMemoryPlatform.idealAnswer (Remote.perform c) (view s) =
      ((Program.exec answer (Remote.perform c) s).1,
        view (Program.exec answer (Remote.perform c) s).2) := by
  simp only [InMemoryPlatform.exec_perform]
  by_cases hi : ((answer c s).1, view (answer c s).2) = InMemoryPlatform.idealAnswer c (view s)
  · right
    rw [← hi]
  · left
    rcases hf.answers c s with ⟨⟨e, he⟩, hv⟩ | h
    · exact ⟨e, _, by rw [he]; rfl, hv, fun hr => hi (hr s)⟩
    · exact absurd h hi

/-- A faulty platform keeps its keys apart as well. -/
theorem Faulty.keyed (hf : Faulty answer view) {s : σ} (hs : (view s).Keyed) (work : Remote α) :
    (view (Program.exec answer work s).2).Keyed := by
  refine Program.run_invariant answer (I := fun s => (view s).Keyed) (fun c t ht => ?_) _ hs
  rcases hf.answers c t with ⟨-, h⟩ | h
  · rwa [h]
  · rw [show view (answer c t).2 = _ from congrArg Prod.snd h]
    exact ht.idealAnswer c

/-- Work that succeeds only if none of its calls fails: what it does then, it does on an ideal
platform. -/
structure Strict (work : Remote α) : Prop where
  ideal {σ : Type} {answer : (c : RemoteCall) → σ → c.Answer × σ} {view : σ → InMemoryPlatform}
    (hf : Faulty answer view) {s t : σ} {a : α}
    (h : Program.exec answer work s = (.ok a, t)) :
    Program.exec InMemoryPlatform.idealAnswer work (view s) = (.ok a, view t)

namespace Strict

theorem pure (a : α) : Strict (Pure.pure a : Remote α) := by
  refine ⟨?_⟩
  intro _ _ _ _ s t b h
  obtain ⟨rfl, rfl⟩ : a = b ∧ s = t := by simpa using h
  rfl

theorem call (c : RemoteCall) : Strict (Remote.call c) := by
  refine ⟨?_⟩
  intro _ answer view hf s t a h
  rw [InMemoryPlatform.exec_call] at h ⊢
  rcases hf.answers c s with ⟨⟨e, he⟩, -⟩ | hi
  · simp [h] at he
  · rw [← hi, h]

/-- Strict work goes on strictly. -/
theorem bind {x : Remote α} {f : α → Remote β} (hx : Strict x) (hf : ∀ a, Strict (f a)) :
    Strict (x >>= f) := by
  refine ⟨?_⟩
  intro _ _ _ hF s u b h
  obtain ⟨a, t, ha, hb⟩ := Program.exec_bind_ok h
  rw [Program.exec_bind, hx.ideal hF ha]
  exact (hf a).ideal hF hb

theorem perform (c : RemoteCall) : Strict (Remote.perform c) := (call c).bind fun _ => pure ()

/-- Guarded work is strict if the work is. -/
theorem guard {allowed : Bool} {work : Remote Unit} (h : Strict work) :
    Strict (Policy.guard allowed work) := by
  unfold Policy.guard
  split
  · exact h.bind fun _ => pure _
  · exact pure _

end Strict

end Faulty

end MonitorSync
