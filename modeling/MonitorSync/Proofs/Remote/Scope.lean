import MonitorSync.Proofs.Remote.Ideal
set_option autoImplicit false

/-!
# Calls about some services only

A call about services depends on those of a few hosts and names, and changes no others. So what it
does to a platform can be told from these alone.

## Main definitions

* `InMemoryPlatform.servicesIn` — the services whose host and name are in a scope.
* `RemoteCall.StaysIn` — a call about services that asks for and gives identities in a scope only.

## Main results

* `InMemoryPlatform.idealAnswer_servicesIn` — such a call is answered from the services in the
  scope.
* `InMemoryPlatform.servicesIn_idealAnswer_of_disjoint` — it leaves all others alone.
-/

namespace MonitorSync

/-! ## The identities of a call -/

namespace RemoteCall

/-- The host and name that a call about services asks for. -/
def about? : RemoteCall → Option (String × String)
  | getService host name => some (host, name)
  | addService host name _ => some (host, name)
  | deleteService host name => some (host, name)
  | c => c.serviceTarget?

/-- The host and name that a call gives the service that it changes, if it renames or moves it. -/
def gives? : RemoteCall → Option (String × String)
  | setServiceParam host _ param value =>
    if param = serviceRenameParam then some (host, value) else none
  | setServiceHost _ name newHost => some (newHost, name)
  | _ => none

/-- A call is about services, and asks for and gives identities in a scope only. -/
structure StaysIn (scope : String × String → Bool) (c : RemoteCall) : Prop where
  about : ∃ i ∈ c.about?, scope i
  gives : ∀ i ∈ c.gives?, scope i

variable {scope : String × String → Bool} {c : RemoteCall} {host name : String}

/-- A call that gives no identity stays in the scope of those that it asks for. -/
lemma StaysIn.of_about {i : String × String} (hi : c.about? = some i) (hgives : c.gives? = none)
    (h : scope i) : c.StaysIn scope :=
  ⟨⟨i, hi, h⟩, by simp [hgives]⟩

/-- A call that asks for services in a scope changes one there. -/
lemma StaysIn.target (hc : c.StaysIn scope) (h : c.serviceTarget? = some (host, name)) :
    scope (host, name) := by
  obtain ⟨i, hi, hscope⟩ := hc.about
  cases c <;> cases h <;> cases hi <;> exact hscope

/-- What a call makes of a service in a scope is in the scope. -/
lemma StaysIn.changed (hc : c.StaysIn scope) {s t : RemoteService}
    (h : c.serviceTarget? = some s.identity) (ht : c.changeService? s = some t) :
    scope t.identity := by
  have hs : scope s.identity := hc.target h
  cases c with
  | setServiceParam host name param value =>
    cases h
    by_cases hparam : param = serviceRenameParam
    · subst hparam
      rw [RemoteService.identity_of_rename ht]
      exact hc.gives _ (by simp [gives?])
    · rwa [RemoteService.identity_of_setParam? hparam ht]
  | setServiceHost host name newHost =>
    cases h
    obtain rfl : { s with host := newHost } = t := by simpa [changeService?] using ht
    exact hc.gives _ rfl
  | _ => cases h <;> cases ht <;> exact hs

end RemoteCall

namespace InMemoryPlatform

variable {scope other : String × String → Bool} {p : InMemoryPlatform} {gs : List RemoteGroup}
  {c : RemoteCall} {host name : String}

/-- The services whose host and name are in a scope. -/
def servicesIn (scope : String × String → Bool) (p : InMemoryPlatform) : List RemoteService :=
  p.services.filter fun s => scope s.identity

/-! ## One list -/

section Lists

variable {α : Type} {test seen : α → Bool} {x : α} {l : List α}

/-- An element that is seen is found among those that are seen. -/
private lemma find?_filter_of_seen (h : ∀ y, test y → seen y) :
    (l.filter seen).find? test = l.find? test := by
  rw [List.find?_filter]
  congr 1
  funext y
  by_cases hy : test y
  · simp [hy, h y hy]
  · simp [hy]

/-- What is seen after a change of an element that is seen, before and after. -/
private lemma filter_modifyFirst_of_seen (h : ∀ y, test y → seen y) (hx : seen x) :
    (modifyFirst test (fun _ => x) l).filter seen =
      modifyFirst test (fun _ => x) (l.filter seen) := by
  induction l with
  | nil => rfl
  | cons y l ih =>
    by_cases hy : test y
    · simp [modifyFirst, hy, hx, h y hy]
    · by_cases hseen : seen y
      · simp [modifyFirst, hy, hseen, ih]
      · simp [modifyFirst, hy, hseen, ih]

/-- What is seen after a change of an element that is not seen, neither before nor after. -/
private lemma filter_modifyFirst_of_unseen (h : ∀ y, test y → ¬ seen y) (hx : ¬ seen x) :
    (modifyFirst test (fun _ => x) l).filter seen = l.filter seen := by
  induction l with
  | nil => rfl
  | cons y l ih =>
    by_cases hy : test y
    · have hseen := h y hy
      simp [modifyFirst, hy, hx, hseen]
    · simp [modifyFirst, hy, List.filter_cons, ih]

end Lists

/-! ## Calls in a scope -/

/-- A service of an identity has that identity. -/
private lemma scope_of_isService (h : scope (host, name)) (s : RemoteService)
    (hs : isService host name s) : scope s.identity := by
  rwa [(isService_iff s).1 hs]

/-- A service in a scope is looked up there. -/
lemma service?_servicesIn (h : scope (host, name)) :
    service? ⟨p.servicesIn scope, gs⟩ host name = p.service? host name :=
  find?_filter_of_seen (scope_of_isService h)

variable (gs) in
/-- A change of a service in a scope is made there. -/
private lemma changeService_servicesIn (method : String)
    {f : RemoteService → Option RemoteService} (h : scope (host, name))
    (hf : ∀ s t, s.identity = (host, name) → f s = some t → scope t.identity) :
    (changeService ⟨p.servicesIn scope, gs⟩ method host name f).1 =
        (p.changeService method host name f).1 ∧
      (changeService ⟨p.servicesIn scope, gs⟩ method host name f).2.services =
        (p.changeService method host name f).2.servicesIn scope := by
  rw [changeService, changeService, service?_servicesIn h]
  rcases hs : p.service? host name with _ | s
  · exact ⟨rfl, rfl⟩
  · dsimp only
    rcases ht : f s with _ | t
    · exact ⟨rfl, rfl⟩
    · have hscope := hf s t ((isService_iff s).1 (List.find?_some hs)) ht
      exact ⟨rfl, (filter_modifyFirst_of_seen (scope_of_isService h) hscope).symm⟩

/-- Whether a call collides is told from the services in its scope. -/
private lemma collides_servicesIn (hc : c.StaysIn scope) :
    collides ⟨p.servicesIn scope, gs⟩ c = p.collides c := by
  cases c with
  | setServiceParam host name param value =>
    by_cases hparam : param = serviceRenameParam
    · have hscope : scope (host, value) := hc.gives _ (by simp [RemoteCall.gives?, hparam])
      simp only [collides, service?_servicesIn hscope]
    · simp [collides, hparam]
  | setServiceHost host name newHost =>
    have hscope : scope (newHost, name) := hc.gives _ rfl
    simp only [collides, service?_servicesIn hscope]
  | setGroupParam name param value =>
    obtain ⟨i, hi, -⟩ := hc.about
    cases hi
  | _ => rfl

variable (gs) in
/-- **Scopes.** A call that stays in a scope is answered from the services there, and changes these
as if there were no others. -/
theorem idealAnswer_servicesIn (hc : c.StaysIn scope) :
    (idealAnswer c ⟨p.servicesIn scope, gs⟩).1 = (idealAnswer c p).1 ∧
      (idealAnswer c ⟨p.servicesIn scope, gs⟩).2.services =
        (idealAnswer c p).2.servicesIn scope := by
  rw [idealAnswer, idealAnswer, collides_servicesIn hc]
  split
  · exact ⟨rfl, rfl⟩
  · rcases hs : c.serviceTarget? with _ | ⟨host, name⟩
    · obtain ⟨i, hi, hscope⟩ := hc.about
      cases c with
      | getService host name =>
        cases hi
        exact ⟨congrArg Except.ok (service?_servicesIn hscope), rfl⟩
      | addService host name template =>
        cases hi
        simp only [keyedAnswer, answer, service?_servicesIn hscope]
        split
        · exact ⟨rfl, rfl⟩
        · refine ⟨rfl, ?_⟩
          have hnew : scope (RemoteService.identity
              { host := host, name := name, template := template }) := hscope
          simp [servicesIn, hnew]
      | deleteService host name =>
        refine ⟨rfl, ?_⟩
        simp only [keyedAnswer, answer, servicesIn, List.filter_filter, Bool.and_comm]
      | getGroup => cases hi
      | addGroup => cases hi
      | setGroupParam => cases hi
      | deleteGroup => cases hi
      | _ => cases hs
    · have hchange := changeService_servicesIn (p := p) gs c.method (hc.target hs)
        fun s t hi ht => hc.changed (hi ▸ hs) ht
      cases c <;> cases hs <;> exact hchange

/-- A change outside of a scope is not seen there. -/
private lemma servicesIn_changeService (method : String)
    {f : RemoteService → Option RemoteService} (h : ¬ other (host, name))
    (hf : ∀ s t, s.identity = (host, name) → f s = some t → ¬ other t.identity) :
    (p.changeService method host name f).2.servicesIn other = p.servicesIn other ∧
      (p.changeService method host name f).2.groups = p.groups := by
  rw [changeService]
  rcases hs : p.service? host name with _ | s
  · exact ⟨rfl, rfl⟩
  · dsimp only
    rcases ht : f s with _ | t
    · exact ⟨rfl, rfl⟩
    · refine ⟨filter_modifyFirst_of_unseen (fun y hy => ?_) ?_, rfl⟩
      · rwa [(isService_iff y).1 hy]
      · exact hf s t ((isService_iff s).1 (List.find?_some hs)) ht

/-- **Outside of the scope.** A call that stays in a scope changes no service outside of it, and no
group. -/
theorem servicesIn_idealAnswer_of_disjoint (hc : c.StaysIn scope)
    (hdisjoint : ∀ i, scope i → ¬ other i) :
    (idealAnswer c p).2.servicesIn other = p.servicesIn other ∧
      (idealAnswer c p).2.groups = p.groups := by
  rw [idealAnswer]
  split
  · exact ⟨rfl, rfl⟩
  · rcases hs : c.serviceTarget? with _ | ⟨host, name⟩
    · obtain ⟨i, hi, hscope⟩ := hc.about
      cases c with
      | getService host name => exact ⟨rfl, rfl⟩
      | addService host name template =>
        cases hi
        have hnew : ¬ other (RemoteService.identity
            { host := host, name := name, template := template }) := hdisjoint _ hscope
        simp only [keyedAnswer, answer]
        split
        · exact ⟨rfl, rfl⟩
        · exact ⟨by simp [servicesIn, hnew], rfl⟩
      | deleteService host name =>
        cases hi
        refine ⟨?_, rfl⟩
        simp only [keyedAnswer, answer, servicesIn, List.filter_filter]
        refine List.filter_congr fun s _ => ?_
        by_cases hservice : isService host name s
        · have hunseen : ¬ other s.identity := by
            rw [(isService_iff s).1 hservice]
            exact hdisjoint _ hscope
          simp [hservice, hunseen]
        · simp [hservice]
      | getGroup => cases hi
      | addGroup => cases hi
      | setGroupParam => cases hi
      | deleteGroup => cases hi
      | _ => cases hs
    · have hchange := servicesIn_changeService (p := p) c.method (hdisjoint _ (hc.target hs))
        fun s t hi ht => hdisjoint _ (hc.changed (hi ▸ hs) ht)
      cases c <;> cases hs <;> exact hchange

end InMemoryPlatform

end MonitorSync
