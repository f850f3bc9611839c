import MonitorSync.Clapi.Rows
import MonitorSync.Proofs.Plan.Pairing
import MonitorSync.Proofs.Service.Application
set_option autoImplicit false

/-!
# Wanted macros and the deletions of a plan

Macros are paired off one by one, but they are deleted by name, after others were set. Where a
service is read with more macros of a name than are wanted, those beyond are left over, and if the
service itself sets one of them, the plan deletes that name although it is wanted. These are the
only cases in which a plan takes a wanted macro away.

## Main definitions

* `WantedSpared` — no macro of a wanted name is left over that would be deleted.

## Main results

* `ServicePlan.spares_wanted_iff` — the plan, its calls and what they leave spare the wanted names
  exactly if nothing of a wanted name is left over.
-/

namespace MonitorSync

open InMemoryPlatform

/-! ## What is left over -/

/-- Among the actual macros of a wanted name, those beyond as many as are wanted do not come from
the service itself or are empty. -/
def WantedSpared (actual expected : List ServiceMacro) : Prop :=
  ∀ n ∈ macroNames expected, ∀ m ∈ (macrosNamed n actual).drop (macrosNamed n expected).length,
    m.source ≠ ServiceMacro.directSource ∨ m.value = ""

instance (actual expected : List ServiceMacro) : Decidable (WantedSpared actual expected) :=
  inferInstanceAs (Decidable (∀ n ∈ _, ∀ m ∈ _, _))

/-- No macro that is to be deleted has a wanted name exactly if none of a wanted name is left over
that would be deleted. -/
theorem wantedSpared_iff {actual expected : List ServiceMacro} :
    WantedSpared actual expected ↔
      ∀ n ∈ macroNames expected, n ∉ macroNames (macroChanges actual expected).2 := by
  refine forall₂_congr fun n _ => ?_
  rw [← macrosNamed_matchMacros_snd, macroNames, List.mem_map]
  simp only [mem_macrosNamed, mem_macroChanges_snd]
  constructor
  · rintro h ⟨m, ⟨hm, hdeleted⟩, hname⟩
    exact hdeleted (h m ⟨hm, hname⟩)
  · rintro h m ⟨hm, hname⟩
    by_contra hdeleted
    exact h ⟨m, ⟨hm, hdeleted⟩, hname⟩

/-- What is to be deleted is there. -/
lemma mem_of_mem_macroChanges_snd {m : ServiceMacro} {actual expected : List ServiceMacro}
    (h : m ∈ (macroChanges actual expected).2) : m ∈ actual := by
  have hleft : m ∈ macrosNamed m.name (matchMacros actual expected).2 :=
    mem_macrosNamed.2 ⟨(mem_macroChanges_snd.1 h).1, rfl⟩
  rw [macrosNamed_matchMacros_snd] at hleft
  exact (mem_macrosNamed.1 (List.mem_of_mem_drop hleft)).1

namespace ServicePlan

variable {plan : ServicePlan} {actual expected result : RemoteService} {ignored : List String}
  {host name : String}

/-! ## The deletions of a plan -/

/-- A plan deletes a macro by a call if the macro is among those to delete. -/
lemma exists_delete_mem_calls_iff {n : String} :
    (∃ h m, .deleteServiceMacro h m n ∈ plan.calls host name) ↔
      n ∈ macroNames plan.macrosToDelete := by
  simp [calls, scalarCalls, listCalls, callUnlessEmpty, macroNames]

/-- **Deletions of wanted names.** The plan between two services deletes no wanted name exactly if
macros are ignored or none of a wanted name is left over that would be deleted. -/
theorem deleted_between_iff :
    (∀ n ∈ macroNames expected.macros,
      n ∉ macroNames (between actual expected ignored).macrosToDelete) ↔
      "macros" ∈ ignored ∨ WantedSpared actual.macros expected.macros := by
  rw [wantedSpared_iff]
  by_cases hi : "macros" ∈ ignored
  · simp [between, hi, macroNames]
  · simp [between, hi]

/-- What a plan between services deletes is there. -/
lemma macroNames_toDelete_subset :
    macroNames (between actual expected ignored).macrosToDelete ⊆ macroNames actual.macros := by
  refine List.map_subset _ fun m hm => ?_
  by_cases hi : "macros" ∈ ignored
  · simp [between, hi] at hm
  · rw [between] at hm
    simp only [List.contains_iff_mem, if_neg hi] at hm
    exact mem_of_mem_macroChanges_snd hm

/-- Once a plan is achieved, deleting left the macros of the wanted names as setting had left them
exactly if none of these names was to be deleted. -/
lemma Achieved.macrosNamed_eq_iff (h : (between actual expected ignored).Achieved actual result) :
    (∀ n ∈ macroNames expected.macros, macrosNamed n result.macros =
      macrosNamed n (setMacros (between actual expected ignored).macrosToSet actual.macros)) ↔
      ∀ n ∈ macroNames expected.macros,
        n ∉ macroNames (between actual expected ignored).macrosToDelete := by
  refine forall₂_congr fun n _ => ?_
  rw [h.macros, macrosNamed_deleteMacros, ite_eq_right_iff]
  constructor
  · intro hnil hn
    have hthere : n ∈ macroNames (setMacros (between actual expected ignored).macrosToSet
        actual.macros) := mem_macroNames_setMacros.2 (.inl (macroNames_toDelete_subset hn))
    exact macrosNamed_eq_nil_iff.1 (hnil hn).symm hthere
  · exact fun hn hdeleted => absurd hdeleted hn

/-! ## Main result -/

/-- **Wanted macros and deletions.** Take the plan between any two services, whose macros may repeat
names. It has no macro of a wanted name to delete, and carried out against whatever system it never
calls for the deletion of a wanted name, and carried out on an ideal platform its deletions leave
the macros of the wanted names as its settings had left them: each of these holds exactly if macros
are ignored or, among the actual macros of each wanted name, those beyond as many as are wanted do
not come from the service itself or are empty.

**Proof sketch.** Pairing off leaves over, name by name, the actual macros beyond the wanted ones,
and those of them that come from the service itself and are not empty are to be deleted. Each is
deleted by a call with its name, which takes away all macros of that name, those that were just set
among them. -/
theorem spares_wanted_iff (actual expected : RemoteService) (ignored : List String) :
    let plan := between actual expected ignored
    let spared := "macros" ∈ ignored ∨ WantedSpared actual.macros expected.macros
    ((∀ n ∈ macroNames expected.macros, n ∉ macroNames plan.macrosToDelete) ↔ spared) ∧
    ((∀ (σ : Type) (answer : (c : RemoteCall) → σ → c.Answer × σ) (s : σ),
      ∀ e ∈ Program.exchanges answer (plan.apply actual.host actual.name) s,
        ∀ n ∈ macroNames expected.macros, ∀ host name,
          e.call ≠ .deleteServiceMacro host name n) ↔ spared) ∧
    ∀ gs, ∃ result,
      Program.exec idealAnswer (plan.apply actual.host actual.name) ⟨[actual], gs⟩ =
        (.ok (), ⟨[result], gs⟩) ∧
      ((∀ n ∈ macroNames expected.macros, macrosNamed n result.macros =
        macrosNamed n (setMacros plan.macrosToSet actual.macros)) ↔ spared) := by
  intro plan spared
  refine ⟨deleted_between_iff, ?_, fun gs => ?_⟩
  · have hcalls : (∀ c ∈ plan.calls actual.host actual.name, ∀ n ∈ macroNames expected.macros,
        ∀ host name, c ≠ .deleteServiceMacro host name n) ↔
        ∀ n ∈ macroNames expected.macros, n ∉ macroNames plan.macrosToDelete := by
      constructor
      · intro h n hn hd
        obtain ⟨host, name, hc⟩ := exists_delete_mem_calls_iff.2 hd
        exact h _ hc n hn host name rfl
      · rintro h c hc n hn host name rfl
        exact h n hn (exists_delete_mem_calls_iff.1 ⟨host, name, hc⟩)
    exact (forall_exchanges_apply_iff increasing_params_between (fun _ => params_between_subset)
      actual).trans (hcalls.trans deleted_between_iff)
  · obtain ⟨result, hexec, hresult⟩ : ∃ result,
        Program.exec idealAnswer (plan.apply actual.host actual.name) ⟨[actual], gs⟩ =
          (.ok (), ⟨[result], gs⟩) ∧ plan.Achieved actual result :=
      exec_apply_alone increasing_params_between (fun _ => params_between_subset) actual gs
    exact ⟨result, hexec, hresult.macrosNamed_eq_iff.trans deleted_between_iff⟩

/-- The rows of a macro that a service inherits with one value and sets itself with another. -/
def overriddenRows : List Json :=
  [.obj [("macro name", .str "FOO"), ("macro value", .str "1"), ("is_password", .str "0"),
      ("source", .str "template")],
    .obj [("macro name", .str "$_SERVICEFOO$"), ("macro value", .str "2"),
      ("is_password", .str "0"), ("source", .str "direct")]]

/-- A service sets itself the macro that is wanted of it and inherits another value of it. The rows
are read as two macros of one name, so the plan sets the macro over the inherited one and then
deletes it by name, and the service is left without it. -/
theorem deletes_wanted_direct :
    let wanted := ServiceMacro.direct "FOO" "2"
    let actual : RemoteService :=
      { host := "h", name := "n", macros := overriddenRows.map macroOfRow }
    let expected : RemoteService := { host := "h", name := "n", macros := [wanted] }
    let plan := between actual expected []
    actual.macros = [⟨"FOO", "1", "0", "template"⟩, wanted] ∧
    plan.macrosToSet = [wanted] ∧ plan.macrosToDelete = [wanted] ∧
    Program.exec idealAnswer (plan.apply "h" "n") ⟨[actual], []⟩ =
      (.ok (), ⟨[{ actual with macros := [] }], []⟩) := by
  decide +kernel

end ServicePlan

end MonitorSync
