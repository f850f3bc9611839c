import MonitorSync.Group.Sync
import MonitorSync.Proofs.Effect.Trace
import MonitorSync.Proofs.Remote.Pass
set_option autoImplicit false

/-!
# The course of a pass

Which calls a pass makes, what each of them is answered and how the pass ends, against a system that
may answer as it likes. The calls are classed by what they do, and a course has one case for each
way in which a pass can go.

## Main definitions

* `RemoteCall.kind` — what a call does: look up, add, change or delete.
* `RemoteCall.field?` — the field that a call changes, under its policy name.
* `Exchange.Succeeded` — a call that did not fail.
* `Performed` — calls that were made one after the other up to the first failing one.
* `Looked` — lookups that were made one after the other until one failed or found something.
* `SyncParts`, `SyncParts.Course` — what a synchronization may do, and the ways it can go.
* `withdraw`, `Removal` — the rest of a removal after its lookup, and the ways it can go.

## Main results

* `performed_performAll` — a sequence of calls is made up to the first failing one.
* `SyncParts.course` — every synchronization takes one of the courses.
* `removal_of_looksUp` — every removal takes one of its courses.
-/

namespace MonitorSync

/-- What a call does. -/
inductive CallKind where
  | lookup
  | add
  | change
  | delete
deriving DecidableEq, Repr

namespace RemoteCall

/-- What a call does. -/
def kind : RemoteCall → CallKind
  | getService .. | getGroup .. => .lookup
  | addService .. | addGroup .. => .add
  | deleteService .. | deleteGroup .. => .delete
  | _ => .change

/-- The field that a call changes, under the name by which a policy may exclude it. -/
def field? : RemoteCall → Option String
  | setServiceParam _ _ param _ => (serviceScalars.find? (·.param = param)).map Scalar.field
  | setServiceHost .. => some "host"
  | setServiceGroups .. | deleteServiceGroups .. => some "groups"
  | setServiceCategories .. | deleteServiceCategories .. => some "categories"
  | setServiceMacro .. | deleteServiceMacro .. => some "macros"
  | setGroupParam _ param _ => (groupScalars.find? (·.param = param)).map Scalar.field
  | _ => none

/-- Only changes have a field. -/
lemma kind_of_field? {c : RemoteCall} {f : String} (h : c.field? = some f) : c.kind = .change := by
  cases c with
  | setServiceParam | setServiceHost | setServiceGroups | deleteServiceGroups => rfl
  | setServiceCategories | deleteServiceCategories | setServiceMacro | deleteServiceMacro => rfl
  | setGroupParam => rfl
  | _ => cases h

end RemoteCall

/-- A call to the platform with its answer. -/
abbrev RemoteExchange := Exchange RemoteCall.Answer

/-- A call that did not fail. -/
def Exchange.Succeeded (e : RemoteExchange) : Prop := e.answer.isOk = true

/-- A call that is no lookup. -/
def Exchange.Mutates (e : RemoteExchange) : Prop := e.call.kind ≠ .lookup

instance (e : RemoteExchange) : Decidable e.Succeeded := inferInstanceAs (Decidable (_ = true))

instance (e : RemoteExchange) : Decidable e.Mutates := inferInstanceAs (Decidable (_ ≠ _))

variable {σ τ Plan : Type} {answer : (c : RemoteCall) → σ → c.Answer × σ} {s : σ}

/-! ## Sequences of calls -/

/-- Calls that were made one after the other up to the first failing one. -/
inductive Performed : List RemoteCall → List RemoteExchange → Except Failure Unit → Prop where
  | done : Performed [] [] (.ok ())
  | failed (c : RemoteCall) (calls : List RemoteCall) (e : Failure) :
      Performed (c :: calls) [⟨c, .error e⟩] (.error e)
  | next {c : RemoteCall} {calls : List RemoteCall} {es : List RemoteExchange}
      {result : Except Failure Unit} (r : c.Reply) (rest : Performed calls es result) :
      Performed (c :: calls) (⟨c, .ok r⟩ :: es) result

@[simp] lemma exchanges_call (answer : (c : RemoteCall) → σ → c.Answer × σ) (c : RemoteCall)
    (s : σ) :
    Program.exchanges answer (Remote.call c) s = [⟨c, (answer c s).1⟩] := rfl

/-- A sequence of calls is made up to the first failing one. -/
theorem performed_performAll (answer : (c : RemoteCall) → σ → c.Answer × σ)
    (calls : List RemoteCall) (s : σ) :
    Performed calls (Program.exchanges answer (Remote.performAll calls) s)
      (Program.exec answer (Remote.performAll calls) s).1 := by
  induction calls generalizing s with
  | nil => exact .done
  | cons c calls ih =>
    have hcall : Program.exchanges answer (Remote.perform c) s = [⟨c, (answer c s).1⟩] := by
      rw [Remote.perform, Program.exchanges_bind, exchanges_call, InMemoryPlatform.exec_call]
      rcases answer c s with ⟨_ | r, t⟩ <;> rfl
    rw [Remote.performAll_cons, Program.exchanges_bind, Program.exec_bind, hcall,
      InMemoryPlatform.exec_perform]
    rcases answer c s with ⟨e | r, t⟩
    · exact .failed c calls e
    · exact .next r (ih t)

namespace Performed

variable {calls : List RemoteCall} {es : List RemoteExchange} {result : Except Failure Unit}

/-- Only calls of the sequence are made. -/
lemma call_mem (h : Performed calls es result) : ∀ e ∈ es, e.call ∈ calls := by
  induction h with
  | done => simp
  | failed c calls e => simp
  | next r rest ih =>
    exact List.forall_mem_cons.2 ⟨List.mem_cons_self, fun e he => List.mem_cons_of_mem _ (ih e he)⟩

/-- A sequence that ends well is made as a whole. -/
lemma calls_eq {u : Unit} (h : Performed calls es (.ok u)) : es.map Exchange.call = calls := by
  generalize hr : Except.ok u = r at h
  induction h with
  | done => rfl
  | failed => cases hr
  | next r rest ih => rw [List.map_cons, ih hr]

/-- No call of a sequence that ends well failed. -/
lemma succeeded {u : Unit} (h : Performed calls es (.ok u)) : ∀ e ∈ es, e.Succeeded := by
  generalize hr : Except.ok u = r at h
  induction h with
  | done => simp
  | failed => cases hr
  | next r rest ih => exact List.forall_mem_cons.2 ⟨rfl, ih hr⟩

end Performed

/-! ## Lookups -/

/-- Lookups that were made one after the other until one failed or found something, where `reply?`
reads what a lookup that did not fail was told. -/
inductive Looked (reply? : RemoteExchange → Option (Option τ)) :
    List RemoteCall → List RemoteExchange → Except Failure (Option τ) → Prop where
  | nothing : Looked reply? [] [] (.ok none)
  | failed (c : RemoteCall) (calls : List RemoteCall) (e : Failure) :
      Looked reply? (c :: calls) [⟨c, .error e⟩] (.error e)
  | found {e : RemoteExchange} (calls : List RemoteCall) {x : τ} (h : reply? e = some (some x)) :
      Looked reply? (e.call :: calls) [e] (.ok (some x))
  | next {e : RemoteExchange} {calls : List RemoteCall} {es : List RemoteExchange}
      {result : Except Failure (Option τ)} (h : reply? e = some none)
      (rest : Looked reply? calls es result) : Looked reply? (e.call :: calls) (e :: es) result

/-- Work that makes lookups one after the other until one of them fails or finds something. -/
def LooksUp (reply? : RemoteExchange → Option (Option τ)) (work : Remote (Option τ))
    (calls : List RemoteCall) : Prop :=
  ∀ ⦃σ : Type⦄ (answer : (c : RemoteCall) → σ → c.Answer × σ) (s : σ),
    Looked reply? calls (Program.exchanges answer work s) (Program.exec answer work s).1

namespace Looked

variable {reply? : RemoteExchange → Option (Option τ)} {calls more : List RemoteCall}
  {es fs : List RemoteExchange} {result : Except Failure (Option τ)} {x : τ}

/-- Only the lookups of the list are made. -/
lemma call_mem (h : Looked reply? calls es result) : ∀ e ∈ es, e.call ∈ calls := by
  induction h with
  | nothing => simp
  | failed => simp
  | found => simp
  | next h rest ih =>
    exact List.forall_mem_cons.2 ⟨List.mem_cons_self, fun e he => List.mem_cons_of_mem _ (ih e he)⟩

/-- Lookups that found nothing were all made, and each found nothing. -/
lemma of_none (h : Looked reply? calls es (.ok none)) :
    es.map Exchange.call = calls ∧ ∀ e ∈ es, reply? e = some none := by
  generalize hr : Except.ok none = r at h
  induction h with
  | nothing => exact ⟨rfl, by simp⟩
  | failed => cases hr
  | found => cases hr
  | next h rest ih =>
    obtain ⟨hcalls, hnone⟩ := ih hr
    exact ⟨by rw [List.map_cons, hcalls], List.forall_mem_cons.2 ⟨h, hnone⟩⟩

/-- What lookups found is what one of them was told. -/
lemma mem_of_some (h : Looked reply? calls es (.ok (some x))) :
    ∃ e ∈ es, reply? e = some (some x) := by
  generalize hr : Except.ok (some x) = r at h
  induction h with
  | nothing => cases hr
  | failed => cases hr
  | found calls h =>
    cases hr
    exact ⟨_, List.mem_singleton_self _, h⟩
  | next h rest ih =>
    obtain ⟨e, he, hx⟩ := ih hr
    exact ⟨e, List.mem_cons_of_mem _ he, hx⟩

/-- What one of the lookups was told is what they found. -/
lemma eq_of_mem (hreply : ∀ {e r}, reply? e = some r → e.Succeeded)
    (h : Looked reply? calls es result) {e : RemoteExchange} (he : e ∈ es)
    (hx : reply? e = some (some x)) : result = .ok (some x) := by
  induction h with
  | nothing => cases he
  | failed c calls f =>
    cases List.mem_singleton.1 he
    cases hreply hx
  | found calls h =>
    cases List.mem_singleton.1 he
    rw [h] at hx
    cases hx
    rfl
  | next h rest ih =>
    rcases List.mem_cons.1 he with rfl | he
    · rw [h] at hx
      cases hx
    · exact ih he

/-- Lookups that came to an end did not fail. -/
lemma succeeded (hreply : ∀ {e r}, reply? e = some r → e.Succeeded) {o : Option τ}
    (h : Looked reply? calls es (.ok o)) : ∀ e ∈ es, e.Succeeded := by
  generalize hr : Except.ok o = r at h
  induction h with
  | nothing => simp
  | failed => cases hr
  | found calls h => simpa using hreply h
  | next h rest ih => exact List.forall_mem_cons.2 ⟨hreply h, ih hr⟩

/-- After lookups that found nothing, others may follow. -/
lemma append_of_none (h : Looked reply? calls es (.ok none))
    (hmore : Looked reply? more fs result) :
    Looked reply? (calls ++ more) (es ++ fs) result := by
  generalize hr : Except.ok none = r at h
  induction h with
  | nothing => exact hmore
  | failed => cases hr
  | found => cases hr
  | next h rest ih => exact .next h (ih hr)

/-- Lookups that failed or found something keep others from being made. -/
lemma append_of_ne (h : Looked reply? calls es result) (hne : result ≠ .ok none) :
    Looked reply? (calls ++ more) es result := by
  induction h with
  | nothing => exact absurd rfl hne
  | failed c calls e => exact .failed c _ e
  | found calls h => exact .found _ h
  | next h rest ih => exact .next h (ih hne)

end Looked

/-- Two lookups are made one after the other, unless they are the same. -/
theorem LooksUp.lookUp {reply? : RemoteExchange → Option (Option τ)}
    {first second : Remote (Option τ)} {xs ys : List RemoteCall} (hfirst : LooksUp reply? first xs)
    (hsecond : LooksUp reply? second ys) (same : Bool) :
    LooksUp reply? (lookUp first same second) (xs ++ if same then [] else ys) := by
  intro σ answer s
  have h := hfirst answer s
  rw [MonitorSync.lookUp, Program.exchanges_bind, Program.exec_bind]
  rcases hexec : Program.exec answer first s with ⟨_ | _ | x, t⟩ <;> rw [hexec] at h
  · rw [List.append_nil]
    exact h.append_of_ne (by simp)
  · cases same
    · exact h.append_of_none (hsecond answer t)
    · exact h.append_of_none .nothing
  · dsimp only
    rw [Program.exchanges_pure, List.append_nil]
    exact h.append_of_ne (by simp)

/-! ## Guarded work -/

/-- Guarded work makes its calls if it is allowed. -/
lemma exchanges_guard (allowed : Bool) (work : Remote Unit) :
    Program.exchanges answer (Policy.guard allowed work) s =
      if allowed then Program.exchanges answer work s else [] := by
  cases allowed
  · rfl
  · rw [Policy.guard, if_pos rfl, if_pos rfl, Program.exchanges_bind]
    rcases Program.exec answer work s with ⟨_ | _, t⟩ <;> exact List.append_nil _

section Settle

variable {policy : Policy} {create change : Remote Unit} {plan : Plan} {isDiff : Bool}

/-- Where nothing was found, a pass makes the calls of an addition if that is allowed. -/
lemma exchanges_settle_none :
    Program.exchanges answer (settle policy create (none : Option (Plan × Bool × Remote Unit))) s =
      if policy.noCreate then [] else Program.exchanges answer create s := by
  rw [settle, Program.exchanges_bind, Policy.create, exchanges_guard, exec_guard]
  cases policy.noCreate
  · rcases Program.exec answer create s with ⟨_ | _, t⟩ <;> exact List.append_nil _
  · rfl

/-- Where an element was found, a pass makes the calls of a change if there is something to change
and that is allowed. -/
lemma exchanges_settle_some :
    Program.exchanges answer (settle policy create (some (plan, isDiff, change))) s =
      if isDiff = false then [] else if policy.noUpdate then []
      else Program.exchanges answer change s := by
  rw [settle]
  cases isDiff
  · rfl
  · rw [if_neg (by simp), if_neg (by simp), Program.exchanges_bind, Policy.update, exchanges_guard,
      exec_guard]
    cases policy.noUpdate
    · rcases Program.exec answer change s with ⟨_ | _, t⟩ <;> exact List.append_nil _
    · rfl

end Settle

/-! ## Synchronizations -/

/-- What a synchronization of an element may do. -/
structure SyncParts (τ Plan : Type) where
  /-- The lookups, in order. -/
  lookups : List RemoteCall
  /-- What a lookup that did not fail was told. -/
  reply? : RemoteExchange → Option (Option τ)
  /-- The call that adds the element. -/
  addition : RemoteCall
  /-- The calls that complete it. -/
  completion : List RemoteCall
  /-- What has to be changed on an element that was found, ignored fields aside. -/
  plan : List String → τ → Plan
  /-- Whether a plan changes anything. -/
  isDiff : Plan → Bool
  /-- The calls that carry out a plan on an element. -/
  changes : Plan → τ → List RemoteCall
  kind_of_reply? : ∀ {e r}, reply? e = some r → e.call.kind = .lookup ∧ e.Succeeded
  kind_of_mem_lookups : ∀ c ∈ lookups, c.kind = .lookup
  kind_addition : addition.kind = .add
  kind_of_mem_completion : ∀ c ∈ completion, c.kind = .change
  isDiff_eq_false_iff : ∀ p x, isDiff p = false ↔ changes p x = []
  exists_field : ∀ ignored x, ∀ c ∈ changes (plan ignored x) x, ∃ f, c.field? = some f ∧ f ∉ ignored

namespace SyncParts

variable {parts : SyncParts τ Plan} {policy : Policy}

/-- Some lookup found the element `x`. -/
def Found (parts : SyncParts τ Plan) (es : List RemoteExchange) (x : τ) : Prop :=
  ∃ e ∈ es, parts.reply? e = some (some x)

/-- What a synchronization does with an element that it found. -/
def change (parts : SyncParts τ Plan) (policy : Policy) (x : τ) : Plan × Bool × Remote Unit :=
  let plan := parts.plan policy.excludeFields x
  (plan, parts.isDiff plan, Remote.performAll (parts.changes plan x))

/-- The ways in which a synchronization can go, as its exchanges and its result. -/
inductive Course (parts : SyncParts τ Plan) (policy : Policy) :
    List RemoteExchange → Except Failure (Outcome Plan) → Prop where
  /-- A lookup failed. -/
  | lost {es : List RemoteExchange} {e : Failure}
      (hlooked : Looked parts.reply? parts.lookups es (.error e)) :
      Course parts policy es (.error e)
  /-- Nothing was found, and nothing may be added. -/
  | barred {es : List RemoteExchange} (hlooked : Looked parts.reply? parts.lookups es (.ok none))
      (hgate : policy.noCreate = true) : Course parts policy es (.ok .skipped)
  /-- Nothing was found, and the element is added, perhaps up to a failing call. -/
  | added {es fs : List RemoteExchange} {result : Except Failure Unit}
      (hlooked : Looked parts.reply? parts.lookups es (.ok none)) (hgate : policy.noCreate = false)
      (hperformed : Performed (parts.addition :: parts.completion) fs result) :
      Course parts policy (es ++ fs) (result.map fun _ => .created)
  /-- An element was found that is as it should be. -/
  | settled {es : List RemoteExchange} {x : τ}
      (hlooked : Looked parts.reply? parts.lookups es (.ok (some x)))
      (hdiff : parts.isDiff (parts.plan policy.excludeFields x) = false) :
      Course parts policy es (.ok .unchanged)
  /-- An element was found that may not be changed. -/
  | kept {es : List RemoteExchange} {x : τ}
      (hlooked : Looked parts.reply? parts.lookups es (.ok (some x)))
      (hgate : policy.noUpdate = true) : Course parts policy es (.ok .skipped)
  /-- An element was found and is changed, perhaps up to a failing call. -/
  | changed {es fs : List RemoteExchange} {result : Except Failure Unit} {x : τ}
      (hlooked : Looked parts.reply? parts.lookups es (.ok (some x)))
      (hdiff : parts.isDiff (parts.plan policy.excludeFields x) = true)
      (hgate : policy.noUpdate = false)
      (hperformed : Performed (parts.changes (parts.plan policy.excludeFields x) x) fs result) :
      Course parts policy (es ++ fs)
        (result.map fun _ => .updated (parts.plan policy.excludeFields x))

variable (parts) in
/-- **The courses of a synchronization.** Whatever a system answers, a synchronization takes one of
the courses. -/
theorem course {find : Remote (Option τ)} {create : Remote Unit}
    (hfind : LooksUp parts.reply? find parts.lookups)
    (hcreate : create = Remote.performAll (parts.addition :: parts.completion)) (policy : Policy)
    (answer : (c : RemoteCall) → σ → c.Answer × σ) (s : σ) :
    let work := find >>= fun found => settle policy create (found.map (parts.change policy))
    parts.Course policy (Program.exchanges answer work s) (Program.exec answer work s).1 := by
  subst hcreate
  have hlooked := hfind answer s
  dsimp only
  rw [Program.exchanges_bind, Program.exec_bind]
  rcases hexec : Program.exec answer find s with ⟨e | _ | x, t⟩ <;> rw [hexec] at hlooked
  · rw [List.append_nil]
    exact .lost hlooked
  · dsimp only
    rw [Option.map_none, exchanges_settle_none, exec_settle_none]
    rcases hgate : policy.noCreate
    · exact .added hlooked hgate (performed_performAll answer _ t)
    · rw [if_pos rfl, if_pos rfl, List.append_nil]
      exact .barred hlooked hgate
  · dsimp only
    rw [Option.map_some, change, exchanges_settle_some, exec_settle_some]
    rcases hdiff : parts.isDiff (parts.plan policy.excludeFields x)
    · rw [if_pos rfl, if_pos rfl, List.append_nil]
      exact .settled hlooked hdiff
    · rcases hgate : policy.noUpdate
      · exact .changed hlooked hdiff hgate (performed_performAll answer _ t)
      · simp only [if_pos, List.append_nil, Bool.true_eq_false, if_false]
        exact .kept hlooked hgate

end SyncParts

/-! ## Removals -/

/-- The ways in which the removal of an element can go, as its exchanges and its result. -/
inductive Removal (reply? : RemoteExchange → Option (Option τ)) (lookup deletion : RemoteCall)
    (policy : Policy) : List RemoteExchange → Except Failure Guarded → Prop where
  /-- The lookup failed. -/
  | lost {es : List RemoteExchange} {e : Failure} (hlooked : Looked reply? [lookup] es (.error e)) :
      Removal reply? lookup deletion policy es (.error e)
  /-- There is nothing to remove. -/
  | gone {es : List RemoteExchange} (hlooked : Looked reply? [lookup] es (.ok none)) :
      Removal reply? lookup deletion policy es (.ok .done)
  /-- An element was found that may not be deleted. -/
  | kept {es : List RemoteExchange} {x : τ} (hlooked : Looked reply? [lookup] es (.ok (some x)))
      (hgate : policy.noDelete = true) : Removal reply? lookup deletion policy es (.ok .skipped)
  /-- An element was found and is deleted, unless the call fails. -/
  | deleted {es fs : List RemoteExchange} {result : Except Failure Unit} {x : τ}
      (hlooked : Looked reply? [lookup] es (.ok (some x))) (hgate : policy.noDelete = false)
      (hperformed : Performed [deletion] fs result) :
      Removal reply? lookup deletion policy (es ++ fs) (result.map fun _ => .done)

/-- Deletes the element, if one was found and the policy allows it. -/
def withdraw (policy : Policy) (delete : Remote Unit) : Option τ → Remote Guarded
  | none => pure .done
  | some _ => policy.delete delete

/-- **The courses of a removal.** Whatever a system answers, a removal takes one of its courses. -/
theorem removal_of_looksUp {reply? : RemoteExchange → Option (Option τ)} {find : Remote (Option τ)}
    {lookup deletion : RemoteCall} (hfind : LooksUp reply? find [lookup]) (policy : Policy)
    (answer : (c : RemoteCall) → σ → c.Answer × σ) (s : σ) :
    let work := find >>= withdraw policy (Remote.performAll [deletion])
    Removal reply? lookup deletion policy (Program.exchanges answer work s)
      (Program.exec answer work s).1 := by
  have hlooked := hfind answer s
  dsimp only
  rw [Program.exchanges_bind, Program.exec_bind]
  rcases hexec : Program.exec answer find s with ⟨e | _ | x, t⟩ <;> rw [hexec] at hlooked
  · rw [List.append_nil]
    exact .lost hlooked
  · dsimp only
    rw [withdraw, Program.exchanges_pure, List.append_nil]
    exact .gone hlooked
  · dsimp only
    rw [withdraw, Policy.delete, exchanges_guard, exec_guard]
    rcases hgate : policy.noDelete
    · exact .deleted hlooked hgate (performed_performAll answer _ t)
    · simp only [Bool.not_true, Bool.false_eq_true, if_false, List.append_nil]
      exact .kept hlooked hgate

end MonitorSync
