import MonitorSync.Proofs.Remote.Changes
set_option autoImplicit false

/-!
# The shape of a pass

Services and groups are brought in line by passes of one shape: look the element up, perhaps twice,
and then add it, change it or leave it.

## Main definitions

* `lookUp` — looking an element up in one place and then in another.
* `settle` — adding, changing or leaving an element, as far as a policy allows.
* `Reads` — work that changes nothing and gives what the platform holds.

## Main results

* `Reads.lookUp` — two lookups find the element in the first place, or else in the second.
* `exec_settle_none`, `exec_settle_some` — what a pass does without and with an element.
* `Strict.lookUp`, `Strict.settle` — the parts of a pass succeed only if no call fails.
-/

namespace MonitorSync

open InMemoryPlatform

variable {σ τ Plan : Type} {answer : (c : RemoteCall) → σ → c.Answer × σ}
  {view : σ → InMemoryPlatform} {s : σ}

/-! ## Lookups -/

/-- Looks an element up in one place, and if it is not there, in a second one that may be the
same. -/
def lookUp (first : Remote (Option τ)) (same : Bool) (second : Remote (Option τ)) :
    Remote (Option τ) := do
  match ← first with
  | some x => return some x
  | none => if same then return none else second

/-- Work that changes nothing and gives what the platform holds, if it does not fail. -/
def Reads (answer : (c : RemoteCall) → σ → c.Answer × σ) (view : σ → InMemoryPlatform)
    (mayFail : Prop) (work : Remote (Option τ)) (held : InMemoryPlatform → Option τ) : Prop :=
  ∀ s, ∃ t, view t = view s ∧
    ((mayFail ∧ ∃ e, Program.exec answer work s = (.error e, t)) ∨
      Program.exec answer work s = (.ok (held (view s)), t))

section Reads

variable {mayFail : Prop} {first second : Remote (Option τ)}
  {heldFirst heldSecond : InMemoryPlatform → Option τ} {same : Bool}

/-- Two lookups find the element in the first place, or else in the second. -/
theorem Reads.lookUp (hfirst : Reads answer view mayFail first heldFirst)
    (hsecond : Reads answer view mayFail second heldSecond)
    (hsame : same = true → heldSecond = heldFirst) :
    Reads answer view mayFail (lookUp first same second)
      fun p => (heldFirst p).or (heldSecond p) := by
  intro s
  dsimp only
  rw [MonitorSync.lookUp, Program.exec_bind]
  obtain ⟨t, ht, ⟨hfail, e, hexec⟩ | hexec⟩ := hfirst s
  · rw [hexec]
    exact ⟨t, ht, .inl ⟨hfail, e, rfl⟩⟩
  · rw [hexec]
    rcases hx : heldFirst (view s) with _ | x
    · rw [Option.none_or]
      dsimp only
      split
      · next h => exact ⟨t, ht, .inr (by rw [hsame h, hx]; rfl)⟩
      · rw [← ht]
        exact hsecond t
    · exact ⟨t, ht, .inr rfl⟩

/-- A call that an ideal platform answers without a change reads the system. -/
lemma Faulty.read (hf : Faulty answer view) {c : RemoteCall} {held : InMemoryPlatform → c.Reply}
    (hideal : ∀ p, idealAnswer c p = (.ok (held p), p))
    (hfail : ¬ Reliable answer view c → mayFail) (s : σ) :
    ∃ t, view t = view s ∧ ((mayFail ∧ ∃ e, answer c s = (.error e, t)) ∨
      answer c s = (.ok (held (view s)), t)) := by
  refine ⟨(answer c s).2, ?_⟩
  have hread (h : ((answer c s).1, view (answer c s).2) = idealAnswer c (view s)) :
      view (answer c s).2 = view s ∧ answer c s = (.ok (held (view s)), (answer c s).2) := by
    rw [hideal] at h
    have hreply : (answer c s).1 = .ok (held (view s)) := congrArg Prod.fst h
    exact ⟨congrArg Prod.snd h, Prod.ext hreply rfl⟩
  by_cases hr : Reliable answer view c
  · exact ⟨(hread (hr s)).1, .inr (hread (hr s)).2⟩
  · rcases hf.answers c s with ⟨⟨e, he⟩, hv⟩ | h
    · exact ⟨hv, .inl ⟨hfail hr, e, Prod.ext he rfl⟩⟩
    · exact ⟨(hread h).1, .inr (hread h).2⟩

end Reads

/-! ## Settling -/

section Settle

/-- Adds the element if none was found; else changes the one found by a plan, if that changes
anything. Either is skipped if the policy forbids it. -/
def settle (policy : Policy) (create : Remote Unit) :
    Option (Plan × Bool × Remote Unit) → Remote (Outcome Plan)
  | none => do
    match ← policy.create create with
    | .done => return .created
    | .skipped => return .skipped
  | some (plan, isDiff, change) => do
    if !isDiff then return .unchanged
    match ← policy.update change with
    | .done => return .updated plan
    | .skipped => return .skipped

variable {policy : Policy} {create change : Remote Unit} {plan : Plan} {isDiff : Bool}

/-- The result of work that was allowed, or that it was skipped. -/
lemma exec_guard (allowed : Bool) (work : Remote Unit) :
    Program.exec answer (Policy.guard allowed work) s =
      if allowed then ((Program.exec answer work s).1.map fun _ => Guarded.done,
        (Program.exec answer work s).2)
      else (.ok .skipped, s) := by
  cases allowed
  · rfl
  · rw [Policy.guard, if_pos rfl, if_pos rfl, Program.exec_bind]
    rcases Program.exec answer work s with ⟨_ | _, t⟩ <;> rfl

/-- Where nothing was found, a pass adds the element if that is allowed. -/
theorem exec_settle_none :
    Program.exec answer (settle policy create (none : Option (Plan × Bool × Remote Unit))) s =
      if policy.noCreate then (.ok .skipped, s)
      else ((Program.exec answer create s).1.map fun _ => .created,
        (Program.exec answer create s).2) := by
  rw [settle, Program.exec_bind, Policy.create, exec_guard]
  cases policy.noCreate
  · rcases Program.exec answer create s with ⟨_ | _, t⟩ <;> rfl
  · rfl

/-- Where an element was found, a pass changes it if there is something to change and that is
allowed. -/
theorem exec_settle_some :
    Program.exec answer (settle policy create (some (plan, isDiff, change))) s =
      if isDiff = false then (.ok .unchanged, s)
      else if policy.noUpdate then (.ok .skipped, s)
      else ((Program.exec answer change s).1.map fun _ => .updated plan,
        (Program.exec answer change s).2) := by
  rw [settle]
  cases isDiff
  · rfl
  · rw [if_neg (by simp), if_neg (by simp), Program.exec_bind, Policy.update, exec_guard]
    cases policy.noUpdate
    · rcases Program.exec answer change s with ⟨_ | _, t⟩ <;> rfl
    · rfl

/-- A pass finds nothing to do for an element exactly if there is nothing to change. -/
lemma exec_settle_unchanged_iff :
    (Program.exec answer (settle policy create (some (plan, isDiff, change))) s).1 =
      .ok .unchanged ↔ isDiff = false := by
  rw [exec_settle_some]
  split
  · next h => exact iff_of_true rfl h
  · next h =>
    refine iff_of_false ?_ h
    split
    · simp
    · rcases Program.exec answer change s with ⟨_ | _, t⟩ <;> simp [Except.map]

end Settle

/-! ## Strictness -/

/-- Two lookups are strict if each of them is. -/
lemma Strict.lookUp {first second : Remote (Option τ)} {same : Bool} (hfirst : Strict first)
    (hsecond : Strict second) : Strict (lookUp first same second) := by
  refine hfirst.bind fun found => ?_
  rcases found with _ | found
  · dsimp only
    split
    · exact .pure _
    · exact hsecond
  · exact .pure _

/-- Settling is strict if what it may do is. -/
lemma Strict.settle {policy : Policy} {create : Remote Unit}
    {found : Option (Plan × Bool × Remote Unit)} (hcreate : Strict create)
    (hchange : ∀ f ∈ found, Strict f.2.2) : Strict (settle policy create found) := by
  rcases found with _ | ⟨plan, isDiff, change⟩
  · refine (Strict.guard hcreate).bind fun g => ?_
    rcases g <;> exact .pure _
  · rw [MonitorSync.settle]
    split
    · exact .pure _
    · refine (Strict.guard (hchange _ rfl)).bind fun g => ?_
      rcases g <;> exact .pure _

end MonitorSync
