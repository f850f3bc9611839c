import MonitorSync.Operator.InMemory
import MonitorSync.Proofs.Operator.Run
set_option autoImplicit false

/-!
# Requests to the API server

What the requests of a pass do to the objects that an API server holds, and what was applied and
deleted by those made so far. Templates and children are only read.

## Main definitions

* `Surroundings.applied`, `Surroundings.deleted` — what was asked to be applied and deleted.
* `Surroundings.Untouched` — nothing was asked to be applied or deleted.
* `Listing` — how a server lists objects.
* `StoreCall.RepliedFrom` — what the reply to a call to the store says about the objects there.
* `ReadsFrom` — requests to read are answered from the objects of a server.

## Main results

* `Surroundings.answerApi_cases` — a request is refused, or answered from the objects there.
* `ReadsFrom.run_storeCall` — a call to the store is answered from the objects of the server.
* `Surroundings.Untouched.readsFrom` — a server in memory reads from its objects, and nothing is
  touched by that.
-/

namespace MonitorSync

/-! ## Applied and deleted -/

namespace ApiRequest

/-- The key of what a request applies. -/
def applied? : ApiRequest → Option ChildKey
  | apply t ns name _ _ _ => some ⟨t.group, t.kind, ns, name⟩
  | _ => none

/-- The key of what a request deletes. -/
def deleted? : ApiRequest → Option ChildKey
  | delete t ns name => some ⟨t.group, t.kind, ns, name⟩
  | _ => none

end ApiRequest

namespace Surroundings

variable {faults : Faults} {w w' : Surroundings} {c : InMemoryCluster}

/-- What was asked to be applied, newest first. -/
def applied (w : Surroundings) : List ChildKey := w.requests.filterMap fun q => q.1.applied?

/-- What was asked to be deleted, newest first. -/
def deleted (w : Surroundings) : List ChildKey := w.requests.filterMap fun q => q.1.deleted?

/-- **Requests.** A request is kept, and it is refused without effect or answered from the objects
there. -/
theorem answerApi_cases {r : ApiRequest} {reply : r.Answer}
    (hrun : w.answerApi faults r = (reply, w')) :
    w'.applied = r.applied?.toList ++ w.applied ∧ w'.deleted = r.deleted?.toList ++ w.deleted ∧
      ((∃ code, reply = .error (.refused code "")) ∧ w'.cluster = w.cluster ∨
        reply = (InMemoryCluster.answer r w.cluster).1 ∧
          w'.cluster = (InMemoryCluster.answer r w.cluster).2) := by
  have hkeys (code : Nat) : (r, code).1.applied?.toList ++ w.applied =
      List.filterMap (fun q => q.1.applied?) ((r, code) :: w.requests) ∧
      (r, code).1.deleted?.toList ++ w.deleted =
        List.filterMap (fun q => q.1.deleted?) ((r, code) :: w.requests) := by
    cases r <;> exact ⟨rfl, rfl⟩
  rw [answerApi] at hrun
  split at hrun
  · next code _ =>
    cases hrun
    exact ⟨(hkeys code).1.symm, (hkeys code).2.symm, .inl ⟨⟨_, rfl⟩, rfl⟩⟩
  · cases hrun
    exact ⟨(hkeys _).1.symm, (hkeys _).2.symm, .inr ⟨rfl, rfl⟩⟩

/-- The server holds what it held, and nothing was asked to be applied or deleted. -/
structure Untouched (c : InMemoryCluster) (w : Surroundings) : Prop where
  cluster : w.cluster = c
  applied : w.applied = []
  deleted : w.deleted = []

end Surroundings

/-! ## The store -/

/-- How a server lists objects: which of them a selector selects, and how they are given, which may
be without their type. -/
structure Listing where
  selects : String → Json → Bool
  item : Json → Json
  item_eq : ∀ o, item o = o ∨ item o = (o.remove "apiVersion").remove "kind"

namespace Listing

/-- The objects of a kind that a selector selects, as they are listed. -/
def items (l : Listing) (c : InMemoryCluster) (kind selector : String) : List Json :=
  (c.objects.filter fun o =>
    (o.field "kind").toText? = some kind && l.selects selector o).map l.item

/-- How a server in memory lists objects. -/
def inMemory : Listing where
  selects := InMemoryCluster.isLabelled
  item o := (o.remove "apiVersion").remove "kind"
  item_eq _ := .inr rfl

end Listing

/-- The template that a server holds for a reference, if any. One that cannot be read is a
failure. -/
def InMemoryCluster.template? (c : InMemoryCluster) (r : Reference) :
    Except Failure (Option Template) :=
  match c.find? "Template" r.ns r.name with
  | none => .ok none
  | some v => (Operator.readReply (fun v => Template.ofDatum? (.ofJson v)) v).map some

/-- What the reply to a call to the store says about the objects there. -/
def StoreCall.RepliedFrom (l : Listing) (c : InMemoryCluster) : (q : StoreCall) → q.Reply → Prop
  | .getTemplate ns name, reply => c.template? ⟨ns, name⟩ = .ok reply
  | .getChild k ns name, reply => ∀ o ∈ reply, ∃ v, c.find? k.name ns name = some v ∧
      ClusterObject.ofJson? v = some o
  | .listChildren k selector, reply =>
    (l.items c k.name selector).mapM (Operator.readChild k) = .ok reply

/-- How calls to the store are answered by asking the API server. -/
abbrev Operator.storeAnswer {Client σ : Type}
    (answer : (c : OperatorCall Client) → σ → c.Answer × σ)
    (q : StoreCall) (s : σ) : q.Answer × σ :=
  Program.run answer (storeCall q) s

section Reading

variable {Client σ : Type} {l : Listing} {c : InMemoryCluster} {I : σ → Prop}
  {answer : (c : OperatorCall Client) → σ → c.Answer × σ} {s s' : σ} {t : ObjectType}
  {ns name selector : String}

/-- A system answers requests to read from the objects of a server, unless it refuses them, and they
keep what `I` says. A refusal is not taken for the answer that there is no such object. -/
structure ReadsFrom (l : Listing) (c : InMemoryCluster) (I : σ → Prop)
    (answer : (c : OperatorCall Client) → σ → c.Answer × σ) : Prop where
  get {s s' : σ} {t : ObjectType} {ns name : String} {reply : Except ApiFault Json} (hs : I s)
    (h : answer (.api (.get t ns name)) s = (reply, s')) :
    I s' ∧ (∀ v, reply = .ok v → c.find? t.kind ns name = some v) ∧
      ∀ fault, reply = .error fault → fault.isNotFound → c.find? t.kind ns name = none
  list {s s' : σ} {t : ObjectType} {selector : String} {reply : Except ApiFault (List Json)}
    (hs : I s) (h : answer (.api (.list t selector)) s = (reply, s')) :
    I s' ∧ ∀ items, reply = .ok items → items = l.items c t.kind selector

namespace ReadsFrom

variable (hreads : ReadsFrom l c I answer)

include hreads

/-- Listing gives the objects there. -/
private lemma run_ask_list {reply : Except ApiFault (List Json)} (hs : I s)
    (hrun : Program.run answer (Operator.ask (.list t selector)) s = (reply, s')) :
    I s' ∧ ∀ items, reply = .ok items → items = l.items c t.kind selector := by
  rw [Operator.run_ask, if_neg (by rintro ⟨⟩)] at hrun
  exact hreads.list hs hrun

/-- Looking for an object that may not exist gives the one there, if any. -/
private lemma run_askOptional {reply : Except ApiFault (Option Json)} (hs : I s)
    (hrun : Program.run answer (Operator.askOptional t ns name) s = (reply, s')) :
    I s' ∧ ∀ found, reply = .ok found → c.find? t.kind ns name = found := by
  rw [Operator.askOptional, Program.run_bind, Operator.run_ask] at hrun
  by_cases hname : (ApiRequest.get t ns name).name? = some ""
  · rw [if_pos hname] at hrun
    cases hrun
    exact ⟨hs, fun found hfound => by cases hfound⟩
  · rw [if_neg hname] at hrun
    rcases hget : answer (.api (.get t ns name)) s with ⟨fault | v, s₁⟩
    · obtain ⟨hs₁, -, hnone⟩ := hreads.get hs hget
      rw [hget] at hrun
      cases hrun
      refine ⟨hs₁, fun found hfound => ?_⟩
      split at hfound
      · next hfault =>
        cases hfound
        exact hnone fault rfl hfault
      · cases hfound
    · obtain ⟨hs₁, hsome, -⟩ := hreads.get hs hget
      rw [hget] at hrun
      cases hrun
      refine ⟨hs₁, fun found hfound => ?_⟩
      cases hfound
      exact hsome v rfl

/-- **Reading.** A call to the store is answered from the objects of the server. -/
theorem run_storeCall {q : StoreCall} {reply : q.Answer} (hs : I s)
    (hrun : Operator.storeAnswer answer q s = (reply, s')) :
    I s' ∧ ∀ r, reply = .ok r → q.RepliedFrom l c r := by
  cases q with
  | getTemplate ns name =>
    rw [Operator.storeAnswer, Operator.storeCall, Program.run_bind] at hrun
    rcases hask : Program.run answer
      (Operator.askOptional ⟨monitorApiVersion, "Template"⟩ ns name) s with ⟨fault | (_ | v), s₁⟩
    all_goals
      rw [hask] at hrun
      cases hrun
      obtain ⟨hs₁, hfound⟩ := hreads.run_askOptional hs hask
      refine ⟨hs₁, fun r hr => ?_⟩
    · cases hr
    · cases hr
      rw [StoreCall.RepliedFrom, InMemoryCluster.template?, hfound none rfl]
    · rw [StoreCall.RepliedFrom, InMemoryCluster.template?, hfound (some v) rfl]
      exact hr
  | getChild k ns name =>
    rw [Operator.storeAnswer, Operator.storeCall, Program.run_bind] at hrun
    rcases hask : Program.run answer (Operator.askOptional k.type ns name) s
      with ⟨fault | (_ | v), s₁⟩
    all_goals
      rw [hask] at hrun
      cases hrun
      obtain ⟨hs₁, hfound⟩ := hreads.run_askOptional hs hask
      refine ⟨hs₁, fun r hr o ho => ?_⟩
    · cases hr
    · cases hr
      cases ho
    · refine ⟨v, hfound (some v) rfl, ?_⟩
      rw [Operator.readReply] at hr
      split at hr
      · next o' ho' =>
        cases hr
        cases ho
        exact ho'
      · cases hr
  | listChildren k selector =>
    rw [Operator.storeAnswer, Operator.storeCall, Program.run_bind] at hrun
    rcases hask : Program.run answer (Operator.ask (.list k.type selector)) s
      with ⟨fault | items, s₁⟩
    · rw [hask] at hrun
      cases hrun
      exact ⟨(hreads.run_ask_list hs hask).1, fun _ hr => by cases hr⟩
    · rw [hask] at hrun
      cases hrun
      obtain rfl := (hreads.run_ask_list hs hask).2 items rfl
      exact ⟨(hreads.run_ask_list hs hask).1, fun _ hr => hr⟩

/-- Work on the store keeps what its requests keep. -/
theorem exec_store {α : Type} (hs : I s) (work : StoreWork α) :
    I (Program.exec (Operator.storeAnswer answer) work s).2 :=
  Program.run_invariant (I := I) (Operator.storeAnswer answer)
    (fun _ _ hs => (hreads.run_storeCall hs rfl).1) work.run hs

end ReadsFrom

end Reading

namespace Surroundings.Untouched

variable {faults : Faults} {w w' : Surroundings} {c : InMemoryCluster}

/-- A request that is answered without a change touches nothing. -/
private lemma answerApi {r : ApiRequest} {reply : r.Answer} (h : Untouched c w)
    (happlied : r.applied? = none) (hdeleted : r.deleted? = none)
    (hsame : (InMemoryCluster.answer r c).2 = c) (hrun : w.answerApi faults r = (reply, w')) :
    Untouched c w' ∧ ((∃ code, reply = .error (.refused code "")) ∨
      reply = (InMemoryCluster.answer r c).1) := by
  obtain ⟨ha, hd, hcluster⟩ := answerApi_cases hrun
  rw [happlied, h.applied] at ha
  rw [hdeleted, h.deleted] at hd
  rw [h.cluster] at hcluster
  rcases hcluster with ⟨hrefused, hcluster⟩ | ⟨hreply, hcluster⟩
  · exact ⟨⟨hcluster, ha, hd⟩, .inl hrefused⟩
  · exact ⟨⟨hcluster.trans hsame, ha, hd⟩, .inr hreply⟩

variable (Client : Type) (faults c) in
/-- **A server in memory.** It reads from its objects, and nothing is touched by that. -/
theorem readsFrom : ReadsFrom .inMemory c (Untouched c) (@answer Client faults) where
  get {w w' t ns name reply} h hrun := by
    have hsame : (InMemoryCluster.answer (.get t ns name) c).2 = c := by
      rw [InMemoryCluster.answer]
      split <;> rfl
    obtain ⟨hafter, hreply⟩ := h.answerApi rfl rfl hsame hrun
    refine ⟨hafter, ?_⟩
    rcases hreply with ⟨code, rfl⟩ | rfl
    · refine ⟨fun v hv => ?_, fun fault hfault hnone => ?_⟩
      · cases hv
      · cases hfault
        cases hnone
    · rw [InMemoryCluster.answer]
      rcases hfound : c.find? t.kind ns name with _ | o
      · refine ⟨fun v hv => ?_, fun _ _ _ => rfl⟩
        cases hv
      · refine ⟨fun v hv => ?_, fun fault hfault => ?_⟩
        · cases hv
          rfl
        · cases hfault
  list {w w' t selector reply} h hrun := by
    obtain ⟨hafter, hreply⟩ := h.answerApi rfl rfl rfl hrun
    refine ⟨hafter, fun items hitems => ?_⟩
    rcases hreply with ⟨code, rfl⟩ | rfl
    · cases hitems
    · cases hitems
      rfl

end Surroundings.Untouched

end MonitorSync
