import MonitorSync.Proofs.Remote.Course
import MonitorSync.Proofs.Service.Convergence
set_option autoImplicit false

/-!
# Carrying out the plan between two services

On an ideal platform on which every identity on the way is free, the plan from one service to
another is carried out without a failing call. What it leaves has no difference from the wanted
service but in ignored fields, which are as they were, and so is everything else on the platform.

## Main definitions

* `RemoteService.AgreesOn` — two services have the same ignored fields.

## Main results

* `ServicePlan.Achieved.agreesOn` — a plan leaves ignored fields as they were.
* `ServicePlan.exec_apply_alone` — plans are carried out where there is no other service.
* `ServicePlan.forall_exchanges_apply_iff` — the calls that a plan may make are its calls.
* `ServicePlan.exec_apply_between` — plans are carried out and converge.
-/

namespace MonitorSync

open InMemoryPlatform

/-- Two services have the same values in the fields of a list, by the names under which a policy may
exclude them. -/
structure RemoteService.AgreesOn (fields : List String) (x y : RemoteService) : Prop where
  scalars : ∀ s ∈ serviceScalars, s.field ∈ fields → s.read x = s.read y
  host : "host" ∈ fields → x.host = y.host
  groups : "groups" ∈ fields → x.groups = y.groups
  categories : "categories" ∈ fields → x.categories = y.categories
  macros : "macros" ∈ fields → x.macros = y.macros

namespace ServicePlan

variable {plan : ServicePlan} {actual expected result : RemoteService} {ignored : List String}

/-- A plan leaves ignored fields as they were. -/
theorem Achieved.agreesOn (h : (between actual expected ignored).Achieved actual result) :
    result.AgreesOn ignored actual where
  scalars s hs hi := (h.read_eq hs).trans (if_pos (List.contains_iff_mem.2 hi))
  host hi := h.host_eq.trans (if_pos (List.contains_iff_mem.2 hi))
  groups hi := by
    rw [h.groups]
    simp only [between, if_pos (List.contains_iff_mem.2 hi)]
    rw [addNames_nil, removeNames_nil]
  categories hi := by
    rw [h.categories]
    simp only [between, if_pos (List.contains_iff_mem.2 hi)]
    rw [addNames_nil, removeNames_nil]
  macros hi := by
    rw [h.macros]
    simp only [between, if_pos (List.contains_iff_mem.2 hi)]
    rfl

/-- On its way, a service has one of the two hosts and one of the two names. -/
private lemma mem_of_passes {i : String × String}
    (h : (between actual expected ignored).Passes actual i) :
    i.1 ∈ [actual.host, expected.host] ∧ i.2 ∈ [actual.name, expected.name] := by
  obtain ⟨result, -, hresult⟩ := exists_changeAll?_between ⟨[], []⟩ [] actual expected ignored
  have hname : result.name ∈ [actual.name, expected.name] := by
    rw [hresult.name_eq]
    split <;> simp
  have hhost : result.host ∈ [actual.host, expected.host] := by
    rw [hresult.host_eq]
    split <;> simp
  rw [hresult.name] at hname
  rw [hresult.host] at hhost
  rcases h with rfl | rfl | rfl
  · exact ⟨List.mem_cons_self, List.mem_cons_self⟩
  · exact ⟨List.mem_cons_self, hname⟩
  · exact ⟨hhost, hname⟩

/-- On a platform with one service, a plan that sets parameters of scalars is carried out and
achieved, since no other service has any of its identities. -/
theorem exec_apply_alone (hinc : plan.params.Increasing)
    (hmem : ∀ p ∈ plan.params.keys, p ∈ serviceScalars.map Scalar.param) (actual : RemoteService)
    (gs : List RemoteGroup) :
    ∃ result, Program.exec idealAnswer (plan.apply actual.host actual.name) ⟨[actual], gs⟩ =
      (.ok (), ⟨[result], gs⟩) ∧ plan.Achieved actual result := by
  have hfree (i : String × String) : Slot.Free ⟨[], []⟩ RemoteService.identity i := by
    simp [Slot.Free, Slot.others]
  obtain ⟨result, hchange, hresult⟩ : ∃ result, (serviceStage ⟨[], []⟩ gs).changeAll?
      (plan.calls actual.host actual.name) actual = some result ∧ plan.Achieved actual result :=
    changeAll?_calls hinc hmem actual
  obtain ⟨q, hexec, rfl⟩ := Stage.performAll_ok (S := serviceStage ⟨[], []⟩ gs)
    (s := ⟨[actual], gs⟩) faulty_idealAnswer (hfree _) rfl hchange (fun _ _ _ => rfl)
    fun _ _ w _ _ => hfree w.identity
  exact ⟨result, by rw [apply_eq_performAll]; exact hexec, hresult⟩

/-- Carrying out a plan makes its calls up to the first failing one. -/
lemma performed_apply {σ : Type} (answer : (c : RemoteCall) → σ → c.Answer × σ)
    (plan : ServicePlan) (host name : String) (s : σ) :
    Performed (plan.calls host name) (Program.exchanges answer (plan.apply host name) s)
      (Program.exec answer (plan.apply host name) s).1 := by
  rw [apply_eq_performAll]
  exact performed_performAll answer _ s

/-- The calls that a plan may make are its calls: whatever is answered, no others are made, and
where the service stands alone, all of them are. -/
theorem forall_exchanges_apply_iff (hinc : plan.params.Increasing)
    (hmem : ∀ p ∈ plan.params.keys, p ∈ serviceScalars.map Scalar.param) (actual : RemoteService)
    {P : RemoteCall → Prop} :
    (∀ (σ : Type) (answer : (c : RemoteCall) → σ → c.Answer × σ) (s : σ),
      ∀ e ∈ Program.exchanges answer (plan.apply actual.host actual.name) s, P e.call) ↔
      ∀ c ∈ plan.calls actual.host actual.name, P c := by
  constructor
  · intro h c hc
    obtain ⟨result, hexec, -⟩ := exec_apply_alone hinc hmem actual []
    have hperformed := performed_apply idealAnswer plan actual.host actual.name ⟨[actual], []⟩
    rw [hexec] at hperformed
    rw [← hperformed.calls_eq] at hc
    obtain ⟨e, he, rfl⟩ := List.mem_map.1 hc
    exact h _ idealAnswer _ e he
  · intro h σ answer s e he
    exact h _ ((performed_apply answer plan _ _ s).call_mem e he)

/-- **Plans are carried out and converge.** Take a platform that holds a service whose macros have
different names, where no other service has one of its and the wanted host together with one of its
and the wanted name. Carrying out the plan to a wanted service whose macros have different names, no
call fails. It leaves a service without a difference, whose ignored fields are as they were, and it
leaves all other services and all groups alone.

**Proof sketch.** The calls of the plan apply to the service one after the other, since each
addresses it by the identity that it has by then. Each identity on the way consists of one of the
two hosts and one of the two names, so no rename and no move is refused. -/
theorem exec_apply_between {k : Slot RemoteService} {actual expected : RemoteService}
    (ha : (macroNames actual.macros).Nodup) (he : (macroNames expected.macros).Nodup)
    (hfree : ∀ host ∈ [actual.host, expected.host], ∀ name ∈ [actual.name, expected.name],
      k.Free RemoteService.identity (host, name)) (ignored : List String) (gs : List RemoteGroup) :
    let work := (between actual expected ignored).apply actual.host actual.name
    ∃ result, Program.exec idealAnswer work ⟨k.fill actual, gs⟩ = (.ok (), ⟨k.fill result, gs⟩) ∧
      (∀ e ∈ Program.exchanges idealAnswer work ⟨k.fill actual, gs⟩, e.Succeeded) ∧
      (between result expected ignored).isDiff = false ∧ result.AgreesOn ignored actual := by
  obtain ⟨result, hchange, hresult⟩ := exists_changeAll?_between k gs actual expected ignored
  have hway {i : String × String} (hi : (between actual expected ignored).Passes actual i) :
      k.Free RemoteService.identity i :=
    hfree i.1 (mem_of_passes hi).1 i.2 (mem_of_passes hi).2
  obtain ⟨q, hexec, hq⟩ := Stage.performAll_ok (S := serviceStage k gs) (s := ⟨k.fill actual, gs⟩)
    faulty_idealAnswer (hway (.inl rfl)) rfl hchange (fun _ _ _ => rfl) fun before c w hb hw =>
      hway (passes_of_changeAll? increasing_params_between (fun _ => params_between_subset) hb hw)
  obtain rfl : q = ⟨k.fill result, gs⟩ := hq
  dsimp only
  rw [apply_eq_performAll]
  have hperformed := performed_performAll idealAnswer
    ((between actual expected ignored).calls actual.host actual.name) ⟨k.fill actual, gs⟩
  rw [hexec] at hperformed
  exact ⟨result, hexec, hperformed.succeeded, hresult.isDiff_eq_false ha he, hresult.agreesOn⟩

/-- A service is renamed and moved, and its ignored comment stays. -/
theorem exec_apply_between_moving :
    ∃ result, Program.exec idealAnswer
        ((between { host := "h", name := "old", comment := "mine" }
          { host := "g", name := "new", comment := "theirs" } ["comment"]).apply "h" "old")
        ⟨[{ host := "h", name := "old", comment := "mine" }, { host := "x", name := "y" }], []⟩ =
          (.ok (), ⟨[result, { host := "x", name := "y" }], []⟩) ∧
      result.identity = ("g", "new") ∧ result.comment = "mine" := by
  let actual : RemoteService := { host := "h", name := "old", comment := "mine" }
  let expected : RemoteService := { host := "g", name := "new", comment := "theirs" }
  let others : Slot RemoteService := ⟨[], [{ host := "x", name := "y" }]⟩
  have ha : (macroNames actual.macros).Nodup := List.nodup_nil
  have he : (macroNames expected.macros).Nodup := List.nodup_nil
  have hfree : ∀ host ∈ [actual.host, expected.host], ∀ name ∈ [actual.name, expected.name],
      others.Free RemoteService.identity (host, name) := by
    simp [actual, expected, others, Slot.Free, Slot.others, RemoteService.identity]
  obtain ⟨result, hexec, -, hdiff, hignored⟩ := exec_apply_between ha he hfree ["comment"] []
  obtain ⟨hscalars, hhost, -⟩ := isDiff_between_eq_false_iff.1 hdiff
  have hname := hscalars ⟨"name", serviceRenameParam, RemoteService.name⟩ List.mem_cons_self
  exact ⟨result, hexec, Prod.ext (hhost.resolve_left (by simp)) (hname.resolve_left (by simp)),
    hignored.scalars ⟨"comment", "comment", RemoteService.comment⟩ (by simp [serviceScalars])
      (by simp)⟩

end ServicePlan

end MonitorSync
