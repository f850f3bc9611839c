import MonitorSync.Proofs.Remote.Pass
import MonitorSync.Proofs.Service.Convergence
set_option autoImplicit false

/-!
# A pass over a service

What `ServiceSpec.sync` does on an ideal platform, and where it can stop on a faulty one.

## Main definitions

* `InMemoryPlatform.located` — the service that the two lookups of a pass find.
* `ServiceSpec.change` — what a pass makes of a service that it found.
* `ServiceSpec.Synced` — what a pass that succeeded made of an ideal platform.

## Main results

* `exec_findService` — the lookups of a pass.
* `strict_sync` — a pass that succeeds met no failing call.
* `ServiceSpec.synced_of_exec` — what a pass that succeeded did.
-/

namespace MonitorSync

open InMemoryPlatform

/-! ## The parts of a pass -/

/-- The service that is found under the identity it was last known by, or else under the one
wanted. -/
def InMemoryPlatform.located (p : InMemoryPlatform) (host name : String)
    (expected : RemoteService) : Option RemoteService :=
  (p.service? host name).or (p.service? expected.host expected.name)

/-- The service right after it was added. -/
def RemoteService.added (expected : RemoteService) : RemoteService :=
  { host := expected.host, name := expected.name, template := expected.template }

/-- The plan that completes a service that was added. -/
def RemoteService.completion (expected : RemoteService) : ServicePlan :=
  .between expected.added expected []

/-- What a pass makes of a service that it found. -/
def ServiceSpec.change (spec : ServiceSpec) (policy : Policy) (actual : RemoteService) :
    ServicePlan × Bool × Remote Unit :=
  let plan := ServicePlan.between actual spec.toRemote policy.excludeFields
  (plan, plan.isDiff, Remote.performAll (plan.calls actual.host actual.name))

/-- A pass looks the service up and settles on what it found. -/
lemma ServiceSpec.sync_eq (spec : ServiceSpec) (host name : String) (policy : Policy) :
    spec.sync host name policy =
      findService host name spec.toRemote >>= fun found =>
        settle policy spec.toRemote.create (found.map (spec.change policy)) := by
  rw [sync]
  dsimp only
  congr 1
  funext found
  rcases found with _ | actual
  · rfl
  · simp only [ServicePlan.apply_eq_performAll]
    rfl

/-- Adding a service is a call and the calls that complete it. -/
lemma RemoteService.create_eq (expected : RemoteService) :
    expected.create =
      Remote.perform (.addService expected.host expected.name expected.template) >>= fun _ =>
        Remote.performAll (expected.completion.calls expected.host expected.name) := by
  rw [← ServicePlan.apply_eq_performAll]
  change _ = (Remote.call (.addService expected.host expected.name expected.template) >>=
    fun _ => pure ()) >>= fun _ => _
  rw [bind_pure_unit]
  rfl

section Located

variable {k : Slot RemoteService} {gs : List RemoteGroup} {x expected : RemoteService}
  {host name : String}

/-- A service is located under either of the two identities if no other one has them. -/
lemma InMemoryPlatform.located_fill (hlast : k.Free RemoteService.identity (host, name))
    (hwanted : k.Free RemoteService.identity expected.identity)
    (hx : x.identity = (host, name) ∨ x.identity = expected.identity) :
    located ⟨k.fill x, gs⟩ host name expected = some x := by
  rw [located]
  by_cases hl : x.identity = (host, name)
  · obtain ⟨rfl, rfl⟩ := Prod.mk.inj hl
    rw [service?_fill hlast, Option.some_or]
  · have hw := hx.resolve_left hl
    obtain ⟨hhost, hname⟩ := Prod.mk.inj hw
    rw [(service?_fill_eq_none_iff hl).2 hlast, Option.none_or, ← hhost, ← hname,
      service?_fill (hw ▸ hwanted)]

/-- No service is located if none has either of the two identities. -/
lemma InMemoryPlatform.located_fill_eq_none (hlast : k.Free RemoteService.identity (host, name))
    (hwanted : k.Free RemoteService.identity expected.identity)
    (hl : x.identity ≠ (host, name)) (hw : x.identity ≠ expected.identity) :
    located ⟨k.fill x, gs⟩ host name expected = none := by
  rw [located, (service?_fill_eq_none_iff hl).2 hlast, Option.none_or]
  exact (service?_fill_eq_none_iff hw).2 hwanted

end Located

/-! ## Lookups -/

section Lookup

variable {σ : Type} {answer : (c : RemoteCall) → σ → c.Answer × σ} {view : σ → InMemoryPlatform}
  {mayFail : Prop}

lemma findService_eq (host name : String) (expected : RemoteService) :
    findService host name expected =
      lookUp (Remote.call (.getService host name)) (host = expected.host && name = expected.name)
        (Remote.call (.getService expected.host expected.name)) := by
  rw [findService, lookUp]
  congr 1
  funext found
  rcases found with _ | found <;> rfl

/-- Looking a service up changes nothing, and finds it by its last or its wanted identity. -/
theorem Faulty.reads_findService (hf : Faulty answer view) (host name : String)
    (expected : RemoteService)
    (hfail : (∃ host name, ¬ Reliable answer view (.getService host name)) → mayFail) :
    Reads answer view mayFail (findService host name expected)
      fun p => p.located host name expected := by
  have hget (host name : String) : Reads answer view mayFail
      (Remote.call (.getService host name)) fun p => p.service? host name :=
    hf.read (c := .getService host name) (fun _ => rfl) fun h => hfail ⟨_, _, h⟩
  rw [findService_eq]
  refine (hget host name).lookUp (hget expected.host expected.name) fun hsame => ?_
  obtain ⟨rfl, rfl⟩ : host = expected.host ∧ name = expected.name := by simpa using hsame
  rfl

/-- Looking a service up on an ideal platform. -/
theorem exec_findService (host name : String) (expected : RemoteService) (p : InMemoryPlatform) :
    Program.exec idealAnswer (findService host name expected) p =
      (.ok (p.located host name expected), p) := by
  obtain ⟨q, rfl, ⟨hfail, -⟩ | h⟩ := faulty_idealAnswer.reads_findService host name expected
    (fun ⟨_, _, hbad⟩ => hbad fun _ => rfl) p
  · exact hfail.elim
  · exact h

end Lookup

/-- A pass that succeeds met no failing call. -/
theorem strict_sync (spec : ServiceSpec) (host name : String) (policy : Policy) :
    Strict (spec.sync host name policy) := by
  rw [ServiceSpec.sync_eq, findService_eq]
  refine (Strict.lookUp (.call _) (.call _)).bind fun found => .settle ?_ fun f hf => ?_
  · rw [RemoteService.create_eq]
    exact (Strict.perform _).bind fun _ => .performAll _
  · obtain ⟨actual, -, rfl⟩ := Option.map_eq_some_iff.1 hf
    exact .performAll _

/-! ## Passes that succeed -/

namespace ServiceSpec

variable {spec : ServiceSpec} {host name : String} {policy : Policy} {p q : InMemoryPlatform}

/-- What a pass that succeeded made of an ideal platform. -/
inductive Synced (spec : ServiceSpec) (host name : String) (policy : Policy)
    (p : InMemoryPlatform) : Outcome ServicePlan → InMemoryPlatform → Prop where
  | created {result : RemoteService} (hfound : p.located host name spec.toRemote = none)
      (hallowed : policy.noCreate = false)
      (hresult : spec.toRemote.completion.Achieved spec.toRemote.added result) :
      Synced spec host name policy p .created ⟨p.services ++ [result], p.groups⟩
  | unchanged {actual : RemoteService} (hfound : p.located host name spec.toRemote = some actual)
      (hdiff :
        (ServicePlan.between actual spec.toRemote policy.excludeFields).isDiff = false) :
      Synced spec host name policy p .unchanged p
  | updated {actual result : RemoteService} {k : Slot RemoteService}
      (hfound : p.located host name spec.toRemote = some actual)
      (hallowed : policy.noUpdate = false) (hp : p.services = k.fill actual)
      (hfree : k.Free RemoteService.identity actual.identity)
      (hresult : (ServicePlan.between actual spec.toRemote policy.excludeFields).Achieved actual
        result) :
      Synced spec host name policy p
        (.updated (.between actual spec.toRemote policy.excludeFields)) ⟨k.fill result, p.groups⟩
  | skipped (hforbidden : policy.noCreate = true ∨ policy.noUpdate = true) :
      Synced spec host name policy p .skipped p

/-- A service that is located on a platform with keys is one among others of other keys. -/
lemma exists_slot_of_located (hp : p.Keyed) {actual : RemoteService}
    (h : p.located host name spec.toRemote = some actual) :
    ∃ k : Slot RemoteService, p.services = k.fill actual ∧
      k.Free RemoteService.identity actual.identity := by
  rcases Option.or_eq_some_iff.1 h with h | ⟨-, h⟩
  · obtain ⟨k, hk, -, hfree⟩ := hp.exists_slot h
    exact ⟨k, hk, hfree⟩
  · obtain ⟨k, hk, -, hfree⟩ := hp.exists_slot h
    exact ⟨k, hk, hfree⟩

/-- An addition under a free key appends the service. -/
private lemma exec_addService {expected : RemoteService}
    (h : p.service? expected.host expected.name = none) :
    Program.exec idealAnswer
        (Remote.perform (.addService expected.host expected.name expected.template)) p =
      (.ok (), ⟨p.services ++ [expected.added], p.groups⟩) := by
  rw [exec_perform]
  simp only [idealAnswer, collides, keyedAnswer, answer, h, Option.isSome_none]
  rfl

/-- A key under which no service is found is not that of any. -/
private lemma free_of_service?_eq_none (h : p.service? host name = none) :
    Slot.Free ⟨p.services, []⟩ RemoteService.identity (host, name) := by
  intro t ht hi
  rw [Slot.others, List.append_nil] at ht
  exact List.find?_eq_none.1 h t ht ((isService_iff t).2 hi)

/-- **Creation.** Under a free key, an ideal platform adds a service and completes it.

**Proof sketch.** The plan that completes the service neither renames nor moves it, so its key is
free on all of the way. -/
theorem exec_create {expected : RemoteService}
    (h : p.service? expected.host expected.name = none) :
    ∃ result, Program.exec idealAnswer expected.create p =
      (.ok (), ⟨p.services ++ [result], p.groups⟩) ∧
        expected.completion.Achieved expected.added result := by
  obtain ⟨result, hchange, hresult⟩ := ServicePlan.exists_changeAll?_between
    ⟨p.services, []⟩ p.groups expected.added expected []
  have hfree : Slot.Free ⟨p.services, []⟩ RemoteService.identity expected.identity :=
    free_of_service?_eq_none h
  obtain ⟨q, hq, hfill⟩ := Stage.performAll_ok (s := ⟨p.services ++ [expected.added], p.groups⟩)
    faulty_idealAnswer hfree rfl hchange (fun _ _ _ => rfl) fun before c w hb hw => by
      have hi := ServicePlan.passes_of_changeAll? ServicePlan.increasing_params_between
        (fun _ => ServicePlan.params_between_subset) hb hw
      rw [ServicePlan.passes_between_iff] at hi
      have hw : w.identity = expected.identity := by rcases hi with hi | hi | hi <;> exact hi
      exact (congrArg _ hw).mpr hfree
  refine ⟨result, ?_, hresult⟩
  rw [RemoteService.create_eq, Program.exec_bind, exec_addService h]
  exact hq.trans (congrArg _ hfill)

/-- **What a pass did.** A pass that succeeded on an ideal platform left it alone, completed a
service that it added, or carried out its plan on the service that it found. -/
theorem synced_of_exec (hp : p.Keyed) {o : Outcome ServicePlan}
    (h : Program.exec idealAnswer (spec.sync host name policy) p = (.ok o, q)) :
    spec.Synced host name policy p o q := by
  rw [sync_eq, Program.exec_bind, exec_findService] at h
  dsimp only at h
  rcases hfound : p.located host name spec.toRemote with _ | actual
  · rw [hfound, Option.map_none, exec_settle_none] at h
    split at h
    · next hforbidden =>
      cases h
      exact .skipped (.inl hforbidden)
    · next hallowed =>
      obtain ⟨result, hexec, hresult⟩ := exec_create (Option.or_eq_none_iff.1 hfound).2
      rw [hexec] at h
      cases h
      exact .created hfound (by simpa using hallowed) hresult
  · rw [hfound, Option.map_some, change, exec_settle_some] at h
    split at h
    · next hdiff =>
      cases h
      exact .unchanged hfound hdiff
    · split at h
      · next hforbidden =>
        cases h
        exact .skipped (.inr hforbidden)
      · next hallowed =>
        obtain ⟨k, hk, hfree⟩ := exists_slot_of_located hp hfound
        obtain ⟨result, hchange, hresult⟩ := ServicePlan.exists_changeAll?_between k p.groups
          actual spec.toRemote policy.excludeFields
        have hp' : p = ⟨k.fill actual, p.groups⟩ := by rw [← hk]
        rcases Stage.performAll_cases (S := serviceStage k p.groups) faulty_idealAnswer hfree hp'
          hchange with
          ⟨t, hexec, ht, -⟩ | ⟨e, t, -, -, -, -, -, hexec, -⟩
        · rw [hexec] at h
          cases h
          change t = _ at ht
          rw [ht]
          exact .updated hfound (by simpa using hallowed) hk hfree hresult
        · rw [hexec] at h
          cases h

/-- A pass over a service that is found succeeds if every identity on the way to the wanted one is
free. -/
theorem exec_sync_of_free (policy : Policy) {k : Slot RemoteService} {actual : RemoteService}
    {gs : List RemoteGroup}
    (hfound : located ⟨k.fill actual, gs⟩ host name spec.toRemote = some actual)
    (hfree : ∀ i, (ServicePlan.between actual spec.toRemote policy.excludeFields).Passes actual i →
      k.Free RemoteService.identity i) :
    ∃ o q, Program.exec idealAnswer (spec.sync host name policy) ⟨k.fill actual, gs⟩ =
      (.ok o, q) := by
  rw [sync_eq, Program.exec_bind, exec_findService, hfound]
  dsimp only
  rw [Option.map_some, change, exec_settle_some]
  split
  · exact ⟨_, _, rfl⟩
  · split
    · exact ⟨_, _, rfl⟩
    · obtain ⟨result, hchange, -⟩ := ServicePlan.exists_changeAll?_between k gs actual
        spec.toRemote policy.excludeFields
      obtain ⟨q, hq, -⟩ := Stage.performAll_ok (S := serviceStage k gs) (s := ⟨k.fill actual, gs⟩)
        faulty_idealAnswer (hfree _ (.inl rfl)) rfl hchange (fun _ _ _ => rfl)
        fun before c w hb hw => hfree _ (ServicePlan.passes_of_changeAll?
          ServicePlan.increasing_params_between
          (fun _ => ServicePlan.params_between_subset) hb hw)
      rw [hq]
      exact ⟨_, _, rfl⟩

end ServiceSpec

/-! ## Passes that stop -/

section Faulty

variable {σ : Type} {answer : (c : RemoteCall) → σ → c.Answer × σ} {view : σ → InMemoryPlatform}
  {spec : ServiceSpec} {host name : String} {policy : Policy} {s t : σ}

/-- **Wherever a pass stops.** A pass over a service that is found leaves all others alone, and
leaves the service under an identity on the way to the wanted one, whether it succeeds or not. -/
theorem Faulty.exec_sync_of_located (hf : Faulty answer view) (policy : Policy) (s : σ)
    {k : Slot RemoteService} {actual : RemoteService} {gs : List RemoteGroup}
    (hv : view s = ⟨k.fill actual, gs⟩)
    (hfree : k.Free RemoteService.identity actual.identity)
    (hfound : (view s).located host name spec.toRemote = some actual) :
    ∃ x, view (Program.exec answer (spec.sync host name policy) s).2 = ⟨k.fill x, gs⟩ ∧
      (ServicePlan.between actual spec.toRemote policy.excludeFields).Passes actual x.identity ∧
      ((macroNames actual.macros).Nodup → (macroNames x.macros).Nodup) := by
  have hstay : (ServicePlan.between actual spec.toRemote policy.excludeFields).Passes actual
    actual.identity := .inl rfl
  rw [ServiceSpec.sync_eq, Program.exec_bind]
  obtain ⟨t, ht, ⟨-, e, hexec⟩ | hexec⟩ :=
    hf.reads_findService host name spec.toRemote (fun _ => trivial) s
  · rw [hexec]
    exact ⟨actual, ht.trans hv, hstay, id⟩
  · rw [hexec]
    dsimp only
    rw [hfound, Option.map_some, ServiceSpec.change, exec_settle_some]
    split
    · exact ⟨actual, ht.trans hv, hstay, id⟩
    · split
      · exact ⟨actual, ht.trans hv, hstay, id⟩
      · obtain ⟨result, hchange, hresult⟩ := ServicePlan.exists_changeAll?_between k gs
          actual spec.toRemote policy.excludeFields
        rcases Stage.performAll_cases (S := serviceStage k gs) hf hfree (ht.trans hv) hchange with
          ⟨u, hexec, hu, -⟩ | ⟨e, u, before, c, after, y, w, hexec, hu, -, hcalls, hy, -⟩
        · rw [hexec]
          refine ⟨result, hu, ?_, fun hn => nodup_macros_of_changeAll? hn hchange⟩
          exact ServicePlan.passes_of_changeAll? ServicePlan.increasing_params_between
            (fun _ => ServicePlan.params_between_subset) (List.prefix_refl _) hchange
        · rw [hexec]
          refine ⟨y, hu, ?_, fun hn => nodup_macros_of_changeAll? hn hy⟩
          exact ServicePlan.passes_of_changeAll? ServicePlan.increasing_params_between
            (fun _ => ServicePlan.params_between_subset) ⟨c :: after, hcalls.symm⟩ hy

end Faulty

end MonitorSync
