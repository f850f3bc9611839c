import MonitorSync.Proofs.Remote.Ideal
set_option autoImplicit false

/-!
# Sequences of calls that change one element

A plan is carried out by many calls, each of which may be the last one to succeed. Such a sequence
is followed here as it changes one service or one group, with all others at rest.

## Main definitions

* `Remote.performAll` — making calls one after the other.
* `Stage` — one element of a platform that calls may change, and the platform around it.
* `Stage.changeAll?` — what calls make of the element, if all of them apply to it.
* `serviceStage`, `groupStage` — a service, or a group, among the others of a platform.

## Main results

* `Stage.performAll_cases` — a sequence ends, or stops between two calls with the element as the
  calls before made it.
* `Stage.performAll_ok` — a sequence ends if no call fails and every key on the way is free.
-/

namespace MonitorSync

/-- Makes calls one after the other for their effects. -/
def Remote.performAll (calls : List RemoteCall) : Remote Unit := calls.forM Remote.perform

namespace Remote

@[simp] lemma performAll_nil : performAll [] = pure () := rfl

lemma performAll_cons (c : RemoteCall) (calls : List RemoteCall) :
    performAll (c :: calls) = perform c >>= fun _ => performAll calls := rfl

lemma performAll_singleton (c : RemoteCall) : performAll [c] = perform c := by
  rw [performAll_cons, performAll_nil, bind_pure_unit]

lemma performAll_append (xs ys : List RemoteCall) :
    performAll (xs ++ ys) = performAll xs >>= fun _ => performAll ys := by
  induction xs with
  | nil => rfl
  | cons c xs ih => rw [List.cons_append, performAll_cons, ih, performAll_cons, bind_assoc]

end Remote

/-- A loop of calls makes the calls of its elements. -/
lemma forM_eq_performAll {β : Type} (f : β → RemoteCall) {g : β → Remote Unit}
    (h : ∀ b, g b = Remote.perform (f b)) (l : List β) :
    l.forM g = Remote.performAll (l.map f) := by
  obtain rfl : g = fun b => Remote.perform (f b) := funext h
  induction l with
  | nil => rfl
  | cons b l ih =>
    rw [List.map_cons, Remote.performAll_cons, ← ih]
    rfl

/-- A loop over an option is a call that is made only with a value. -/
lemma forM_toList_bind {β : Type} (o : Option β) (g : β → Remote Unit) (rest : Remote Unit) :
    (o.toList.forM g >>= fun _ => rest) =
      match o with
      | some b => g b >>= fun _ => rest
      | none => rest := by
  rcases o with _ | b
  · rfl
  · change ((g b >>= fun _ => pure ()) >>= fun _ => rest) = _
    rw [bind_pure_unit]

lemma Strict.performAll (calls : List RemoteCall) : Strict (Remote.performAll calls) := by
  induction calls with
  | nil => exact .pure ()
  | cons c calls ih => exact (Strict.perform c).bind fun _ => ih

/-- One element of a platform that calls may change, and the platform around it. -/
structure Stage (σ : Type) where
  /-- The platform with the element. -/
  fill : σ → InMemoryPlatform
  /-- Whether the key of the element is that of no other one. -/
  Admits : σ → Prop
  /-- What a call that addresses the element makes of it. -/
  change? : RemoteCall → σ → Option σ
  /-- A call changes the element, or is refused because the key it would get is taken. -/
  perform_change {c : RemoteCall} {x y : σ} (hx : Admits x) (hc : change? c x = some y) :
    Admits y ∧ Program.exec InMemoryPlatform.idealAnswer (Remote.perform c) (fill x) =
      (.ok (), fill y) ∨
    ¬ Admits y ∧ ∃ e, Program.exec InMemoryPlatform.idealAnswer (Remote.perform c) (fill x) =
      (.error e, fill x)

namespace Stage

variable {σ τ : Type} {S : Stage σ} {x y z : σ} {c : RemoteCall} {calls : List RemoteCall}

/-- What calls make of the element, if all of them apply to it. -/
def changeAll? (S : Stage σ) (calls : List RemoteCall) (x : σ) : Option σ :=
  calls.foldlM (fun x c => S.change? c x) x

@[simp] lemma changeAll?_nil : S.changeAll? [] x = some x := rfl

lemma changeAll?_cons : S.changeAll? (c :: calls) x = (S.change? c x).bind (S.changeAll? calls) :=
  rfl

lemma changeAll?_append {xs ys : List RemoteCall} :
    S.changeAll? (xs ++ ys) x = (S.changeAll? xs x).bind (S.changeAll? ys) :=
  List.foldlM_append

section Runs

variable {answer : (c : RemoteCall) → τ → c.Answer × τ} {view : τ → InMemoryPlatform} {s : τ}

/-- **Where a sequence can stop.** A sequence of calls that apply to an element ends with all of
them made; or it stops at a call, with the element as the calls before made it, because that call
failed or would have given the element a key that is taken.

**Proof sketch.** Induction on the calls. The first call fails, is refused, or changes the element;
in the last case the rest of the sequence goes on from there. -/
theorem performAll_cases (hf : Faulty answer view) (hx : S.Admits x) (hv : view s = S.fill x)
    (hz : S.changeAll? calls x = some z) :
    (∃ t, Program.exec answer (Remote.performAll calls) s = (.ok (), t) ∧ view t = S.fill z ∧
      S.Admits z) ∨
    ∃ e t before c after y w, Program.exec answer (Remote.performAll calls) s = (.error e, t) ∧
      view t = S.fill y ∧ S.Admits y ∧ calls = before ++ c :: after ∧
      S.changeAll? before x = some y ∧ S.change? c y = some w ∧
      (¬ Reliable answer view c ∨ ¬ S.Admits w) := by
  induction calls generalizing x s with
  | nil =>
    obtain rfl : x = z := by simpa using hz
    exact .inl ⟨s, rfl, hv, hx⟩
  | cons c calls ih =>
    obtain ⟨y, hy, hz⟩ := Option.bind_eq_some_iff.1 (changeAll?_cons.symm.trans hz)
    rw [Remote.performAll_cons]
    simp only [Program.exec_bind]
    rcases hf.exec_perform c s with ⟨e, t, he, ht, hr⟩ | hi
    · right
      exact ⟨e, t, [], c, calls, x, y, by rw [he], by rw [ht, hv], hx, rfl, rfl, hy, .inl hr⟩
    · rcases hp : Program.exec answer (Remote.perform c) s with ⟨r, t⟩
      rw [hp, hv] at hi
      rcases S.perform_change hx hy with ⟨hadm, hok⟩ | ⟨hadm, e, herr⟩
      · obtain ⟨rfl, ht⟩ := Prod.mk.inj (hi.symm.trans hok)
        rcases ih hadm ht hz with
          hdone | ⟨e, u, before, d, after, v, w, he, hu, hv', hc, hb, hd, hw⟩
        · exact .inl hdone
        · right
          refine ⟨e, u, c :: before, d, after, v, w, he, hu, hv', by rw [hc]; rfl, ?_, hd, hw⟩
          rw [changeAll?_cons, hy, Option.bind_some, hb]
      · obtain ⟨rfl, ht⟩ := Prod.mk.inj (hi.symm.trans herr)
        exact .inr ⟨e, t, [], c, calls, x, y, rfl, ht, hx, rfl, rfl, hy, .inr hadm⟩

/-- A sequence ends if no call fails and every key on the way is free. -/
theorem performAll_ok (hf : Faulty answer view) (hx : S.Admits x) (hv : view s = S.fill x)
    (hz : S.changeAll? calls x = some z) (hr : ∀ c ∈ calls, Reliable answer view c)
    (hadm : ∀ before c w, before ++ [c] <+: calls → S.changeAll? (before ++ [c]) x = some w →
      S.Admits w) :
    ∃ t, Program.exec answer (Remote.performAll calls) s = (.ok (), t) ∧ view t = S.fill z := by
  rcases performAll_cases hf hx hv hz with ⟨t, ht, hz, -⟩ |
    ⟨e, t, before, c, after, y, w, -, -, -, rfl, hy, hw, hbad⟩
  · exact ⟨t, ht, hz⟩
  · have hw' : S.changeAll? (before ++ [c]) x = some w := by
      rw [changeAll?_append, hy, Option.bind_some, changeAll?_cons, hw]
      rfl
    rcases hbad with hbad | hbad
    · exact absurd (hr c (by simp)) hbad
    · exact absurd (hadm before c w ⟨after, by simp⟩ hw') hbad

end Runs

end Stage

/-! ## Services and groups -/

namespace InMemoryPlatform

section Services

variable {k : Slot RemoteService} {x y : RemoteService} {groups : List RemoteGroup}

/-- A service is found under its own key if no other one has it. -/
lemma service?_fill (hx : k.Free RemoteService.identity x.identity) :
    service? ⟨k.fill x, groups⟩ x.host x.name = some x :=
  Slot.find?_fill isService_iff rfl hx

/-- Nothing is found under a key other than that of the service exactly if no other one has it. -/
lemma service?_fill_eq_none_iff {host name : String} (hx : x.identity ≠ (host, name)) :
    service? ⟨k.fill x, groups⟩ host name = none ↔ k.Free RemoteService.identity (host, name) :=
  ⟨Slot.Free.of_find?_fill isService_iff, Slot.find?_fill_eq_none isService_iff hx⟩

/-- A change that applies to a service is made to it alone. -/
lemma changeService_fill {method : String} {f : RemoteService → Option RemoteService}
    (hx : k.Free RemoteService.identity x.identity) (hy : f x = some y) :
    changeService ⟨k.fill x, groups⟩ method x.host x.name f = (.ok (), ⟨k.fill y, groups⟩) := by
  simp only [changeService, service?_fill hx, hy]
  rw [Slot.modifyFirst_fill isService_iff rfl hx]

end Services

section Groups

variable {k : Slot RemoteGroup} {x y : RemoteGroup} {services : List RemoteService}

/-- A group is found under its own name if no other one has it. -/
lemma group?_fill (hx : k.Free RemoteGroup.name x.name) :
    group? ⟨services, k.fill x⟩ x.name = some x :=
  Slot.find?_fill isGroup_iff rfl hx

/-- Nothing is found under a name other than that of the group exactly if no other one has it. -/
lemma group?_fill_eq_none_iff {name : String} (hx : x.name ≠ name) :
    group? ⟨services, k.fill x⟩ name = none ↔ k.Free RemoteGroup.name name :=
  ⟨Slot.Free.of_find?_fill isGroup_iff, Slot.find?_fill_eq_none isGroup_iff hx⟩

/-- A change that applies to a group is made to it alone. -/
lemma changeGroup_fill {method : String} {f : RemoteGroup → Option RemoteGroup}
    (hx : k.Free RemoteGroup.name x.name) (hy : f x = some y) :
    changeGroup ⟨services, k.fill x⟩ method x.name f = (.ok (), ⟨services, k.fill y⟩) := by
  simp only [changeGroup, group?_fill hx, hy]
  rw [Slot.modifyFirst_fill isGroup_iff rfl hx]

end Groups

end InMemoryPlatform

section Stages

open InMemoryPlatform

/-- A service among the others of a platform. -/
def serviceStage (k : Slot RemoteService) (groups : List RemoteGroup) : Stage RemoteService where
  fill s := ⟨k.fill s, groups⟩
  Admits s := k.Free RemoteService.identity s.identity
  change? c s := if c.serviceTarget? = some s.identity then c.changeService? s else none
  perform_change {c x y} hx hc := by
    rw [Option.ite_none_right_eq_some] at hc
    obtain ⟨htarget, hy⟩ := hc
    rw [exec_perform_service htarget, changeService_fill hx hy]
    rcases identity_of_changeService? (p := ⟨k.fill x, groups⟩) htarget hy with
      ⟨hid, hcol⟩ | ⟨hid, hcol⟩
    · exact .inl ⟨hid ▸ hx, by rw [hcol, if_neg Bool.false_ne_true]⟩
    · by_cases hfree : k.Free RemoteService.identity y.identity
      · rw [(service?_fill_eq_none_iff (Ne.symm hid)).2 hfree] at hcol
        exact .inl ⟨hfree, by rw [hcol, if_neg (by simp)]⟩
      · have hsome : service? ⟨k.fill x, groups⟩ y.host y.name ≠ none :=
          mt (service?_fill_eq_none_iff (Ne.symm hid)).1 hfree
        rw [Option.isSome_iff_ne_none.2 hsome] at hcol
        exact .inr ⟨hfree, _, by rw [hcol, if_pos rfl]⟩

/-- A group among the others of a platform. -/
def groupStage (k : Slot RemoteGroup) (services : List RemoteService) : Stage RemoteGroup where
  fill g := ⟨services, k.fill g⟩
  Admits g := k.Free RemoteGroup.name g.name
  change? c g := if c.groupTarget? = some g.name then c.changeGroup? g else none
  perform_change {c x y} hx hc := by
    rw [Option.ite_none_right_eq_some] at hc
    obtain ⟨htarget, hy⟩ := hc
    rw [exec_perform_group htarget, changeGroup_fill hx hy]
    rcases name_of_changeGroup? (p := ⟨services, k.fill x⟩) htarget hy with
      ⟨hid, hcol⟩ | ⟨hid, hcol⟩
    · exact .inl ⟨hid ▸ hx, by rw [hcol, if_neg Bool.false_ne_true]⟩
    · by_cases hfree : k.Free RemoteGroup.name y.name
      · rw [(group?_fill_eq_none_iff (Ne.symm hid)).2 hfree] at hcol
        exact .inl ⟨hfree, by rw [hcol, if_neg (by simp)]⟩
      · have hsome : group? ⟨services, k.fill x⟩ y.name ≠ none :=
          mt (group?_fill_eq_none_iff (Ne.symm hid)).1 hfree
        rw [Option.isSome_iff_ne_none.2 hsome] at hcol
        exact .inr ⟨hfree, _, by rw [hcol, if_pos rfl]⟩

end Stages

end MonitorSync
