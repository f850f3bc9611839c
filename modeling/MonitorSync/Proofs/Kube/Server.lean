import MonitorSync.Proofs.Json.Containment
import MonitorSync.Proofs.Child.Stored
import MonitorSync.Proofs.Operator.Requests
set_option autoImplicit false

/-!
# API servers

An API server keeps children under the type of their definition, takes what is applied in place of
what was there, perhaps with defaults, removes what is deleted, and lists by label. Beyond that it
may do as it likes: it may add to what it keeps, refuse requests, and remember every request.

## Main definitions

* `Keeps` — what a server keeps of what is applied.
* `ApiServer` — a server, by what it may choose.
* `ApiServer.State`, `ApiServer.answer` — what it holds and was asked, and how it answers.
* `ApiServer.State.QuietSince` — nothing was deleted and no event was published since some requests.
* `ApiServer.defaulting` — a server with a default for a field of specifications.

## Main results

* `ApiServer.readsFrom` — a server reads from the objects that it holds, and is quiet about it.
* `ApiServer.cluster_answer_apply`, `ApiServer.cluster_answer_delete` — the objects after a request.
-/

namespace MonitorSync

open InMemoryCluster

/-- What a server keeps of a body that is applied: labels and parts of the specification are there,
and there may be more of them. -/
structure Keeps (body o : Json) : Prop where
  labels {key value : String} (h : Carries key value body) : Carries key value o
  spec {wanted : Json} (h : (body.field "spec").contains wanted) : (o.field "spec").contains wanted

/-! ## Servers -/

/-- An API server that keeps the children of sources, by what it may choose. -/
structure ApiServer (domain : Domain) extends Listing where
  /-- The selector of the children of a source is for equality of the label. -/
  selects_iff : ∀ value o, selects (domain.parentLabel ++ "=" ++ value) o ↔
    Carries domain.parentLabel value o
  /-- What is kept of a body that is applied, after some requests, in place of what was there. -/
  stored : List ApiRequest → Option Json → Json → Json
  stored_keeps : ∀ log present body k ns name, IsChild k ns name body →
    IsChild k ns name (stored log present body) ∧ Keeps body (stored log present body)
  /-- Why a request is refused, after some requests. -/
  refuses : List ApiRequest → ApiRequest → Option ApiFault
  /-- A refusal does not say that there is no such object. -/
  refuses_found : ∀ log r fault, refuses log r = some fault →
    fault.isNotFound = false ∧ fault.code? ≠ some 404
  /-- How a platform answers beside the server. -/
  platform : (c : RemoteCall) → c.Answer

namespace ApiServer

/-- The objects that a server holds, and the requests that it got, newest first. -/
structure State where
  cluster : InMemoryCluster
  requests : List ApiRequest

variable {domain : Domain} (server : ApiServer domain)

/-- The answer to a request that is not refused, and the objects after it. -/
def reply : (r : ApiRequest) → List ApiRequest → InMemoryCluster → r.Answer × InMemoryCluster
  | .list t selector, _, c => (.ok (server.items c t.kind selector), c)
  | .apply t ns name _ _ body, log, c =>
    let o := server.stored log (c.find? t.kind ns name) body
    (.ok o, c.put t.kind ns name o)
  | .delete t ns name, _, c =>
    (if (c.find? t.kind ns name).isSome then .ok () else .error .notFound,
      c.update t.kind ns name fun _ => none)
  | r, _, c => InMemoryCluster.answer r c

/-- The answer to a call, and the state after it. -/
def answer {Client : Type} : (c : OperatorCall Client) → State → c.Answer × State
  | .api r, w =>
    match server.refuses w.requests r with
    | some fault => (.error fault, ⟨w.cluster, r :: w.requests⟩)
    | none =>
      let (reply, c) := server.reply r w.requests w.cluster
      (reply, ⟨c, r :: w.requests⟩)
  | .remote _ c, w => (server.platform c, w)

variable {Client : Type} {w w' : State} {r : ApiRequest} {c : InMemoryCluster}
  {base : List ApiRequest}

/-- **Requests.** A request is refused without effect on the objects, or it is served. -/
theorem answer_cases {a : r.Answer} (h : server.answer (.api r : OperatorCall Client) w = (a, w')) :
    w'.requests = r :: w.requests ∧
      ((∃ fault, a = .error fault ∧ fault.isNotFound = false ∧ fault.code? ≠ some 404) ∧
          w'.cluster = w.cluster ∨
        (a, w'.cluster) = server.reply r w.requests w.cluster) := by
  rw [answer] at h
  split at h
  · next fault hrefused =>
    cases h
    exact ⟨rfl, .inl ⟨⟨fault, rfl, server.refuses_found _ _ _ hrefused⟩, rfl⟩⟩
  · cases h
    exact ⟨rfl, .inr rfl⟩

/-! ## Quiet requests -/

/-- Since some requests, no object was asked to be deleted and no event to be created. -/
def State.QuietSince (base : List ApiRequest) (w : State) : Prop :=
  ∃ made, w.requests = made ++ base ∧ ∀ r ∈ made, r.verb ∉ ["delete", "create"]

lemma State.QuietSince.refl (w : State) : w.QuietSince w.requests := ⟨[], rfl, by simp⟩

/-- A quiet request. -/
lemma State.QuietSince.next (h : w.QuietSince base) (hrequests : w'.requests = r :: w.requests)
    (hr : r.verb ∉ ["delete", "create"]) : w'.QuietSince base := by
  obtain ⟨made, hmade, hquiet⟩ := h
  refine ⟨r :: made, ?_, List.forall_mem_cons.2 ⟨hr, hquiet⟩⟩
  rw [hrequests, hmade, List.cons_append]

/-- **Reading.** A server reads from the objects that it holds, and is quiet about it. -/
theorem readsFrom : ReadsFrom server.toListing c (fun w => w.cluster = c ∧ w.QuietSince base)
    (@answer domain server Client) where
  get {w w' t ns name a} hw h := by
    obtain ⟨hrequests, hcases⟩ := server.answer_cases h
    have hquiet := hw.2.next hrequests (show "get" ∉ ["delete", "create"] by decide)
    rcases hcases with ⟨⟨fault, rfl, hfound, -⟩, hcluster⟩ | hreply
    · refine ⟨⟨hcluster.trans hw.1, hquiet⟩, fun v hv => ?_, fun fault' hfault hnone => ?_⟩
      · cases hv
      · cases hfault
        rw [hfound] at hnone
        cases hnone
    · change _ = InMemoryCluster.answer (.get t ns name) w.cluster at hreply
      rw [hw.1, InMemoryCluster.answer] at hreply
      rcases hfind : c.find? t.kind ns name with _ | o
      · rw [hfind] at hreply
        obtain ⟨rfl, hcluster⟩ := Prod.mk.inj hreply
        exact ⟨⟨hcluster, hquiet⟩, fun v hv => (by cases hv), fun _ _ _ => rfl⟩
      · rw [hfind] at hreply
        obtain ⟨rfl, hcluster⟩ := Prod.mk.inj hreply
        refine ⟨⟨hcluster, hquiet⟩, fun v hv => ?_, fun fault hfault => by cases hfault⟩
        cases hv
        rfl
  list {w w' t selector a} hw h := by
    obtain ⟨hrequests, hcases⟩ := server.answer_cases h
    have hquiet := hw.2.next hrequests (show "list" ∉ ["delete", "create"] by decide)
    rcases hcases with ⟨⟨fault, rfl, -⟩, hcluster⟩ | hreply
    · exact ⟨⟨hcluster.trans hw.1, hquiet⟩, fun items hitems => by cases hitems⟩
    · rw [reply, hw.1] at hreply
      obtain ⟨rfl, hcluster⟩ := Prod.mk.inj hreply
      refine ⟨⟨hcluster, hquiet⟩, fun items hitems => ?_⟩
      cases hitems
      rfl

/-! ## Changes -/

section Change

variable {k : ChildKind} {ns name manager : String} {force : Bool} {body : Json}

/-- **Applying.** What is kept of a body that is not refused is put under its address. -/
theorem cluster_answer_apply {o : Json} (h : (server.answer
      (.api (.apply k.type ns name manager force body) : OperatorCall Client) w).1 = .ok o) :
    (server.answer (.api (.apply k.type ns name manager force body) : OperatorCall Client)
        w).2.cluster =
      w.cluster.put k.name ns name
        (server.stored w.requests (w.cluster.find? k.name ns name) body) := by
  obtain ⟨-, ⟨⟨fault, hfault, -⟩, -⟩ | hreply⟩ := server.answer_cases (Prod.mk.eta.symm)
  · cases h.symm.trans hfault
  · exact congrArg Prod.snd hreply

/-- **Deleting.** Unless a deletion is refused for a reason of its own, nothing is left under the
address. -/
theorem cluster_answer_delete (h : ∀ fault, (server.answer
      (.api (.delete k.type ns name) : OperatorCall Client) w).1 = .error fault →
      fault.code? = some 404) :
    (server.answer (.api (.delete k.type ns name) : OperatorCall Client) w).2.cluster =
      w.cluster.update k.name ns name fun _ => none := by
  obtain ⟨-, ⟨⟨fault, hfault, -, hcode⟩, -⟩ | hreply⟩ := server.answer_cases (Prod.mk.eta.symm)
  · exact absurd (h fault hfault) hcode
  · exact congrArg Prod.snd hreply

/-- An event changes no object. -/
theorem cluster_answer_createEvent :
    (server.answer (.api (.createEvent ns body) : OperatorCall Client) w).2.cluster =
      w.cluster := by
  obtain ⟨-, ⟨-, hcluster⟩ | hreply⟩ := server.answer_cases (Prod.mk.eta.symm)
  · exact hcluster
  · exact congrArg Prod.snd hreply

end Change

/-! ## A server with defaults -/

section Defaults

variable {key k : String} {v o : Json}

/-- An object with a default for a field of its specification. -/
def withDefault (key : String) (v o : Json) : Json :=
  match o, o.get? "spec" with
  | .obj _, some (.obj spec) =>
    match KeyMap.lookup key spec with
    | none => o.set "spec" ((Json.obj spec).set key v)
    | some _ => o
  | _, _ => o

/-- A default changes nothing, or adds a field to the specification. -/
private lemma withDefault_cases (key : String) (v o : Json) : withDefault key v o = o ∨
    ∃ entries spec, o = .obj entries ∧ o.get? "spec" = some (.obj spec) ∧
      KeyMap.lookup key spec = none ∧
      withDefault key v o = o.set "spec" ((Json.obj spec).set key v) := by
  unfold withDefault
  split
  · next entries spec hspec =>
    split
    · next hkey => exact .inr ⟨entries, spec, rfl, hspec, hkey, rfl⟩
    · exact .inl rfl
  · exact .inl rfl

/-- A default leaves the other fields of an object. -/
private lemma get?_withDefault (h : "spec" ≠ k) : (withDefault key v o).get? k = o.get? k := by
  rcases withDefault_cases key v o with h' | ⟨entries, spec, rfl, -, -, h'⟩ <;> rw [h']
  rw [Json.get?_set_obj, if_neg h]

/-- A default leaves what is found in the specification. -/
private lemma contains_withDefault {wanted : Json} (h : (o.field "spec").contains wanted) :
    ((withDefault key v o).field "spec").contains wanted := by
  rcases withDefault_cases key v o with h' | ⟨entries, spec, rfl, hspec, hkey, h'⟩ <;> rw [h']
  · exact h
  · rw [Json.field_eq hspec] at h
    rw [Json.field_eq (by rw [Json.get?_set_obj, if_pos rfl])]
    exact Json.contains_set hkey h

end Defaults

/-- A server that refuses nothing. It puts what is applied in the place of what was there, as a new
version, with a default for a field of the specification. -/
def defaulting (domain : Domain) (hdomain : '=' ∉ domain.name.toList) (key : String) (v : Json) :
    ApiServer domain where
  toListing := .inMemory
  selects_iff _ _ := isLabelled_append_iff (by simpa [Domain.parentLabel] using hdomain)
  stored log _ body :=
    setMetadata (withDefault key v body) "resourceVersion" (.str (toString log.length))
  stored_keeps log _ body k ns name h := by
    obtain ⟨m, hm, hinc, hname, hns⟩ := h.metadata
    have hfield (key' : String) (hkey : "metadata" ≠ key') :
        (setMetadata (withDefault key v body) "resourceVersion" (.str (toString log.length))).get?
          key' = (withDefault key v body).get? key' := get?_setMetadata_of_ne hkey
    have hm' : (withDefault key v body).get? "metadata" = some (.ofMap m) := by
      rw [get?_withDefault (by decide), hm]
    refine ⟨⟨?_, ?_, m.insert "resourceVersion" _, get?_metadata_setMetadata hm' ⟨m, rfl, hinc⟩,
      KeyMap.pairwise_insertEntry hinc, ?_, ?_⟩, fun hcarries => ?_, fun hspec => ?_⟩
    · rw [hfield _ (by decide), get?_withDefault (by decide), h.apiVersion]
    · rw [hfield _ (by decide), get?_withDefault (by decide), h.kind]
    · rw [KeyMap.get?_insert, if_neg (by decide), hname]
    · rw [KeyMap.get?_insert, if_neg (by decide), hns]
    · rwa [Carries, field_setMetadata_of_ne (by decide), Json.field_eq hm', ← Json.field_eq hm]
    · rw [Json.field, hfield _ (by decide)]
      exact contains_withDefault hspec
  refuses _ _ := none
  refuses_found _ _ _ h := by cases h
  platform _ := .error (.transport "no platform")

end ApiServer

end MonitorSync
