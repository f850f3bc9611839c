import MonitorSync.Proofs.Service.Course
set_option autoImplicit false

/-!
# Specifications settle

After a pass over a service that may be created and updated as a whole, the next pass over it finds
nothing to do, provided that the macros of the specification have different names on the platform:
names there are in upper case, so entries of a specification may meet.

## Main definitions

* `ServiceSpec.Settled` — a pass finds nothing to do.

## Main results

* `ServiceSpec.settled_iff_isDiff` — a pass finds nothing to do exactly if there is no difference.
* `ServiceSpec.settled_iff_nodup` — a specification settles exactly if its macros have different
  names in upper case.
-/

namespace MonitorSync

open InMemoryPlatform

namespace ServiceSpec

variable {spec : ServiceSpec} {host name : String} {p q : InMemoryPlatform}
  {o : Outcome ServicePlan}

/-- A pass that may do everything finds nothing to do for the service under its wanted identity: it
reports so, only looks up, and leaves the platform alone. -/
def Settled (spec : ServiceSpec) (q : InMemoryPlatform) : Prop :=
  let work := spec.sync spec.host spec.name .permissive
  Program.exec idealAnswer work q = (.ok .unchanged, q) ∧
    ∀ e ∈ Program.exchanges idealAnswer work q, ¬ e.Mutates

/-- **Nothing to do.** A pass over a service that stands under its wanted identity finds nothing to
do exactly if the service does not differ from the wanted one. -/
lemma settled_iff_isDiff {k : Slot RemoteService} {gs : List RemoteGroup} {t : RemoteService}
    (ht : t.identity = (spec.host, spec.name))
    (hfree : k.Free RemoteService.identity (spec.host, spec.name)) :
    spec.Settled ⟨k.fill t, gs⟩ ↔ (ServicePlan.between t spec.toRemote []).isDiff = false := by
  have hlocated : located ⟨k.fill t, gs⟩ spec.host spec.name spec.toRemote = some t :=
    located_fill hfree hfree (.inl ht)
  have hexec : Program.exec idealAnswer (spec.sync spec.host spec.name .permissive)
      ⟨k.fill t, gs⟩ = Program.exec idealAnswer
        (settle .permissive spec.toRemote.create (some (spec.change .permissive t)))
        ⟨k.fill t, gs⟩ := by
    rw [sync_eq, Program.exec_bind, exec_findService, hlocated]
    rfl
  constructor
  · rintro ⟨h, -⟩
    exact exec_settle_unchanged_iff.1 (congrArg Prod.fst (hexec.symm.trans h))
  · intro hdiff
    have h : Program.exec idealAnswer (spec.sync spec.host spec.name .permissive)
        ⟨k.fill t, gs⟩ = (.ok .unchanged, ⟨k.fill t, gs⟩) := by
      rw [hexec, change, exec_settle_some]
      exact if_pos hdiff
    have hgated := (spec.course_sync idealAnswer ⟨k.fill t, gs⟩ spec.host spec.name
      .permissive).gated
    exact ⟨h, (hgated.idle .unchanged (by rw [h])).1 (.inl rfl)⟩

/-- What a pass that may do everything left of a service that it added or changed: it stands under
its wanted identity, as the plan for some service made it. -/
private lemma exists_achieved (hp : p.Keyed) (hm : ∀ s ∈ p.services, (macroNames s.macros).Nodup)
    (h : Program.exec idealAnswer (spec.sync host name .permissive) p = (.ok o, q))
    (ho : o = .created ∨ ∃ plan, o = .updated plan) :
    ∃ (k : Slot RemoteService) (actual result : RemoteService), q = ⟨k.fill result, p.groups⟩ ∧
      (macroNames actual.macros).Nodup ∧
      (ServicePlan.between actual spec.toRemote []).Achieved actual result := by
  cases synced_of_exec hp h with
  | created hfound hallowed hresult =>
    exact ⟨⟨p.services, []⟩, spec.toRemote.added, _, rfl, List.nodup_nil, hresult⟩
  | unchanged => simp at ho
  | @updated actual result k hfound hallowed hk hfree hresult =>
    exact ⟨k, actual, result, rfl, hm actual (hk ▸ Slot.mem_fill.2 (.inl rfl)), hresult⟩
  | skipped => simp at ho

/-- **When a specification settles.** Take a pass that may do everything on an ideal platform, on
which the macros of each service have different names. If it creates or updates the service, then
the next pass, addressed at the wanted identity, finds nothing to do exactly if the macros that the
platform shall hold have different names.

**Proof sketch.** The pass leaves the service under its wanted identity as a plan made it, and plans
converge for macros of different names. Conversely, wanted macros of one name always differ from the
macros of a service, where each name stands once. -/
theorem settled_iff_nodup (hp : p.Keyed) (hm : ∀ s ∈ p.services, (macroNames s.macros).Nodup)
    (h : Program.exec idealAnswer (spec.sync host name .permissive) p = (.ok o, q))
    (ho : o = .created ∨ ∃ plan, o = .updated plan) :
    spec.Settled q ↔ (macroNames spec.toRemote.macros).Nodup := by
  obtain ⟨k, actual, result, rfl, hn, hresult⟩ := exists_achieved hp hm h ho
  have hkeyed : Keyed ⟨k.fill result, p.groups⟩ := by
    have hq := faulty_idealAnswer.keyed (s := p) hp (spec.sync host name .permissive)
    rwa [h] at hq
  have hid : result.identity = (spec.host, spec.name) := Prod.ext hresult.host_eq hresult.name_eq
  have hfree : k.Free RemoteService.identity (spec.host, spec.name) :=
    hid ▸ (Slot.nodup_fill.1 hkeyed.services).2
  rw [settled_iff_isDiff hid hfree]
  refine ⟨fun hdiff => ?_, fun hmacros => hresult.isDiff_eq_false hn hmacros⟩
  refine ServicePlan.nodup_of_isDiff_eq_false ?_ hdiff
  rw [hresult.macros]
  exact nodup_deleteMacros (nodup_setMacros hn)

/-- A specification with the given macros. -/
def ofMacros (macros : List (String × String)) : ServiceSpec :=
  { host := "h", name := "n", template := "generic", macros := .ofList macros }

/-- A service that is added settles if its only macro is its own. -/
theorem settled_iff_nodup_port :
    ∃ q, Program.exec idealAnswer ((ofMacros [("port", "80")]).sync "h" "n" .permissive) ⟨[], []⟩ =
      (.ok .created, q) ∧ (ofMacros [("port", "80")]).Settled q := by
  have hp : Keyed ⟨[], []⟩ := ⟨by decide, by decide⟩
  have h : (Program.exec idealAnswer ((ofMacros [("port", "80")]).sync "h" "n" .permissive)
      ⟨[], []⟩).1 = .ok .created := by decide +kernel
  exact ⟨_, Prod.ext h rfl, (settled_iff_nodup hp (by simp) (Prod.ext h rfl) (.inl rfl)).2
    (by decide +kernel)⟩

/-- Two entries that meet in upper case are set over each other for ever: the pass after the one
that added the service sets both of them again. -/
theorem not_settled_of_meeting_macros :
    (ofMacros [("FOO", "1"), ("foo", "2")]).isValid ∧
    (Program.exec idealAnswer ((ofMacros [("FOO", "1"), ("foo", "2")]).sync "h" "n" .permissive)
      ⟨[], []⟩).1 = .ok .created ∧
    ¬ (ofMacros [("FOO", "1"), ("foo", "2")]).Settled (Program.exec idealAnswer
      ((ofMacros [("FOO", "1"), ("foo", "2")]).sync "h" "n" .permissive) ⟨[], []⟩).2 := by
  refine ⟨by decide +kernel, by decide +kernel, fun h => ?_⟩
  have hsecond := congrArg Prod.fst h.1
  revert hsecond
  decide +kernel

end ServiceSpec

end MonitorSync
