import MonitorSync.Proofs.Remote.Course
set_option autoImplicit false

/-!
# The gate of a policy

What a policy promises of a pass, whatever the platform answers: which calls the pass does not make,
and what the calls that it made say about how it ended.

## Main definitions

* `SyncParts.Gated` — what a policy promises of a synchronization.
* `RemovalGated` — what a policy promises of a removal.

## Main results

* `SyncParts.Course.gated` — every course of a synchronization is as the policy promises.
* `Removal.gated` — every course of a removal is as the policy promises.
-/

namespace MonitorSync

variable {τ Plan : Type} {policy : Policy} {es fs : List RemoteExchange} {x : τ}

/-! ## Synchronizations -/

namespace SyncParts

variable {parts : SyncParts τ Plan} {found : Except Failure (Option τ)}

section Lookups

variable (hlooked : Looked parts.reply? parts.lookups es found)

include hlooked

/-- Looking up changes nothing. -/
lemma not_mutates_of_looked : ∀ e ∈ es, ¬ e.Mutates := fun e he =>
  not_not.2 (parts.kind_of_mem_lookups _ (hlooked.call_mem e he))

/-- What a synchronization found is what its lookups came to, whatever it changed after them. -/
lemma found_append_iff (hfs : ∀ e ∈ fs, e.Mutates) :
    parts.Found (es ++ fs) x ↔ found = .ok (some x) := by
  refine ⟨fun ⟨e, he, hx⟩ => ?_, fun h => ?_⟩
  · rcases List.mem_append.1 he with he | he
    · exact hlooked.eq_of_mem (fun h => (parts.kind_of_reply? h).2) he hx
    · exact absurd (parts.kind_of_reply? hx).1 (hfs e he)
  · subst h
    obtain ⟨e, he, hx⟩ := hlooked.mem_of_some
    exact ⟨e, List.mem_append_left _ he, hx⟩

/-- A kind that the calls after the lookups do not have is not there at all. -/
lemma kind_ne_append {kind : CallKind} (hkind : kind ≠ .lookup)
    (hfs : ∀ e ∈ fs, e.call.kind ≠ kind) : ∀ e ∈ es ++ fs, e.call.kind ≠ kind :=
  List.forall_mem_append.2
    ⟨fun e he h => not_mutates_of_looked hlooked e he (by rwa [Exchange.Mutates, h]), hfs⟩

/-- After the lookups, every call that was made changes something. -/
lemma mutations_append (hfs : ∀ e ∈ fs, e.Mutates) :
    ((es ++ fs).filter fun e => e.Mutates) = fs := by
  rw [List.filter_append, List.filter_eq_nil_iff.2, List.nil_append, List.filter_eq_self.2]
  · simpa using hfs
  · simpa using not_mutates_of_looked hlooked

end Lookups

/-- Lookups that came to an end and calls that did not fail. -/
private lemma succeeded_append {y : Option τ}
    (hlooked : Looked parts.reply? parts.lookups es (.ok y)) (hfs : ∀ e ∈ fs, e.Succeeded) :
    ∀ e ∈ es ++ fs, e.Succeeded :=
  List.forall_mem_append.2 ⟨hlooked.succeeded fun h => (parts.kind_of_reply? h).2, hfs⟩

/-- A sequence of calls that is reported made all of them, and none failed. -/
private lemma performed_of_map_ok {calls : List RemoteCall} {result : Except Failure Unit}
    {o o' : Outcome Plan} (h : Performed calls fs result) (ho : result.map (fun _ => o') = .ok o) :
    o = o' ∧ fs.map Exchange.call = calls ∧ ∀ e ∈ fs, e.Succeeded := by
  rcases result with _ | u
  · cases ho
  · cases ho
    exact ⟨rfl, h.calls_eq, h.succeeded⟩

/-- The calls of an addition change something, and the first of them adds. -/
private lemma kind_of_performed_addition {result : Except Failure Unit}
    (h : Performed (parts.addition :: parts.completion) fs result) :
    ∀ e ∈ fs, e.call.kind = .add ∨ e.call.kind = .change := by
  intro e he
  rcases List.mem_cons.1 (h.call_mem e he) with h | h
  · exact .inl (h ▸ parts.kind_addition)
  · exact .inr (parts.kind_of_mem_completion _ h)

/-- The calls of an addition change something. -/
private lemma mutates_of_performed_addition {result : Except Failure Unit}
    (h : Performed (parts.addition :: parts.completion) fs result) : ∀ e ∈ fs, e.Mutates := by
  intro e he
  rcases kind_of_performed_addition h e he with h | h <;> simp [Exchange.Mutates, h]

/-- The calls of a plan change fields that are not ignored. -/
private lemma field_of_performed_changes {ignored : List String} {result : Except Failure Unit}
    (h : Performed (parts.changes (parts.plan ignored x) x) fs result) :
    ∀ e ∈ fs, ∃ f, e.call.field? = some f ∧ f ∉ ignored := fun e he =>
  parts.exists_field ignored x _ (h.call_mem e he)

/-- The calls of a plan are changes. -/
private lemma kind_of_performed_changes {ignored : List String} {result : Except Failure Unit}
    (h : Performed (parts.changes (parts.plan ignored x) x) fs result) :
    ∀ e ∈ fs, e.call.kind = .change := by
  intro e he
  obtain ⟨f, hf, -⟩ := field_of_performed_changes h e he
  exact RemoteCall.kind_of_field? hf

/-- The calls of a plan change something. -/
private lemma mutates_of_performed_changes {ignored : List String} {result : Except Failure Unit}
    (h : Performed (parts.changes (parts.plan ignored x) x) fs result) : ∀ e ∈ fs, e.Mutates := by
  intro e he
  simp [Exchange.Mutates, kind_of_performed_changes h e he]

/-- What a policy promises of a synchronization with the exchanges `es` and the result `result`. -/
structure Gated (parts : SyncParts τ Plan) (policy : Policy) (es : List RemoteExchange)
    (result : Except Failure (Outcome Plan)) : Prop where
  /-- Where creation is forbidden, nothing is added. -/
  noCreate : policy.noCreate = true → ∀ e ∈ es, e.call.kind ≠ .add
  /-- Where creation is forbidden and nothing is found, nothing is changed at all. -/
  noCreate_absent : policy.noCreate = true → (∀ x, ¬ parts.Found es x) → ∀ e ∈ es, ¬ e.Mutates
  /-- Where changes are forbidden and something is found, nothing is changed. -/
  noUpdate : policy.noUpdate = true → ∀ x, parts.Found es x → ∀ e ∈ es, ¬ e.Mutates
  /-- Nothing is deleted. -/
  noDelete : ∀ e ∈ es, e.call.kind ≠ .delete
  /-- Where something is found, only fields are changed that are not excluded. -/
  excluded : ∀ x, parts.Found es x → ∀ e ∈ es, e.Mutates →
    ∃ f, e.call.field? = some f ∧ f ∉ policy.excludeFields
  /-- An addition comes after all of the lookups, and none of them found anything. -/
  add : (∃ e ∈ es, e.call.kind = .add) → ∃ ls fs, es = ls ++ fs ∧
    ls.map Exchange.call = parts.lookups ∧ (∀ e ∈ ls, parts.reply? e = some none) ∧
    ∀ e ∈ fs, e.Mutates
  /-- In a pass that succeeds, every call does. -/
  succeeded : ∀ o, result = .ok o → ∀ e ∈ es, e.Succeeded
  /-- A pass that succeeds reports a creation exactly if it added something. -/
  created : ∀ o, result = .ok o → (o = .created ↔ ∃ e ∈ es, e.call.kind = .add)
  /-- A pass that succeeds reports an update by a plan exactly if it made the calls of that plan on
  what it found, and there were some. -/
  updated : ∀ o plan, result = .ok o → (o = .updated plan ↔ ∃ x, parts.Found es x ∧
    plan = parts.plan policy.excludeFields x ∧ parts.changes plan x ≠ [] ∧
    (es.filter fun e => e.Mutates).map Exchange.call = parts.changes plan x)
  /-- A pass that succeeds reports that nothing was done exactly if nothing was changed. -/
  idle : ∀ o, result = .ok o → (o = .unchanged ∨ o = .skipped ↔ ∀ e ∈ es, ¬ e.Mutates)

namespace Course

variable {result : Except Failure (Outcome Plan)}

/-- A pass that only looked up is as any policy promises, if it reports neither a creation nor an
update. -/
private lemma gated_of_looked (hlooked : Looked parts.reply? parts.lookups es found)
    (hresult : ∀ o, result = .ok o → (o = .unchanged ∨ o = .skipped) ∧ ∃ y, found = .ok y) :
    parts.Gated policy es result := by
  have hidle := not_mutates_of_looked hlooked
  have hkind : ∀ e ∈ es, e.call.kind = .lookup := fun e he => not_not.1 (hidle e he)
  have hadd : ¬ ∃ e ∈ es, e.call.kind = .add := by
    rintro ⟨e, he, h⟩
    rw [hkind e he] at h
    cases h
  exact
    { noCreate := fun _ e he h => hadd ⟨e, he, h⟩
      noCreate_absent := fun _ _ => hidle
      noUpdate := fun _ _ _ => hidle
      noDelete := fun e he h => by
        rw [hkind e he] at h
        cases h
      excluded := fun _ _ e he h => absurd h (hidle e he)
      add := fun h => absurd h hadd
      succeeded := fun o ho => by
        obtain ⟨-, y, rfl⟩ := hresult o ho
        exact hlooked.succeeded fun h => (parts.kind_of_reply? h).2
      created := fun o ho => by
        refine iff_of_false ?_ hadd
        rcases (hresult o ho).1 with rfl | rfl <;> simp
      updated := fun o plan ho => by
        refine iff_of_false ?_ ?_
        · rcases (hresult o ho).1 with rfl | rfl <;> simp
        · rintro ⟨x, -, -, hne, hcalls⟩
          rw [List.filter_eq_nil_iff.2 (by simpa using hidle), List.map_nil] at hcalls
          exact hne hcalls.symm
      idle := fun o ho => iff_of_true (hresult o ho).1 hidle }

/-- A pass that adds, perhaps up to a failing call, is as a policy promises that allows it. -/
private lemma gated_of_added {result : Except Failure Unit}
    (hlooked : Looked parts.reply? parts.lookups es (.ok none)) (hgate : policy.noCreate = false)
    (hperformed : Performed (parts.addition :: parts.completion) fs result) :
    parts.Gated policy (es ++ fs) (result.map fun _ => .created) := by
  have hmutates := mutates_of_performed_addition hperformed
  have habsent (x : τ) : ¬ parts.Found (es ++ fs) x := fun h => by
    cases (found_append_iff hlooked hmutates).1 h
  have hall (o : Outcome Plan) (ho : result.map (fun _ => .created) = .ok o) :=
    performed_of_map_ok hperformed ho
  have hadds (o : Outcome Plan) (ho : result.map (fun _ => .created) = .ok o) :
      ∃ e ∈ es ++ fs, e.call.kind = .add := by
    obtain ⟨e, he, hcall⟩ := List.mem_map.1
      ((hall o ho).2.1 ▸ List.mem_cons_self : parts.addition ∈ fs.map Exchange.call)
    exact ⟨e, List.mem_append_right _ he, hcall ▸ parts.kind_addition⟩
  exact
    { noCreate := fun h => by
        rw [hgate] at h
        cases h
      noCreate_absent := fun h => by
        rw [hgate] at h
        cases h
      noUpdate := fun _ x hx => absurd hx (habsent x)
      noDelete := kind_ne_append hlooked (by simp) fun e he h => by
        rcases kind_of_performed_addition hperformed e he with h' | h' <;> cases h.symm.trans h'
      excluded := fun x hx => absurd hx (habsent x)
      add := fun _ => ⟨es, fs, rfl, hlooked.of_none.1, hlooked.of_none.2, hmutates⟩
      succeeded := fun o ho => succeeded_append hlooked (hall o ho).2.2
      created := fun o ho => iff_of_true (hall o ho).1 (hadds o ho)
      updated := fun o plan ho => by
        refine iff_of_false ?_ fun ⟨x, hx, _⟩ => habsent x hx
        rw [(hall o ho).1]
        simp
      idle := fun o ho => by
        obtain ⟨e, he, hkind⟩ := hadds o ho
        refine iff_of_false ?_ fun h => h e he (by simp [Exchange.Mutates, hkind])
        rw [(hall o ho).1]
        simp }

/-- A pass that changes what it found, perhaps up to a failing call, is as a policy promises that
allows it. -/
private lemma gated_of_changed {result : Except Failure Unit}
    (hlooked : Looked parts.reply? parts.lookups es (.ok (some x)))
    (hdiff : parts.isDiff (parts.plan policy.excludeFields x) = true)
    (hgate : policy.noUpdate = false)
    (hperformed : Performed (parts.changes (parts.plan policy.excludeFields x) x) fs result) :
    parts.Gated policy (es ++ fs)
      (result.map fun _ => .updated (parts.plan policy.excludeFields x)) := by
  have hmutates := mutates_of_performed_changes hperformed
  have hfound : parts.Found (es ++ fs) x := (found_append_iff hlooked hmutates).2 rfl
  have hunique (y : τ) (hy : parts.Found (es ++ fs) y) : x = y := by
    cases (found_append_iff hlooked hmutates).1 hy
    rfl
  have hne : parts.changes (parts.plan policy.excludeFields x) x ≠ [] := by
    rw [Ne, ← parts.isDiff_eq_false_iff, hdiff]
    simp
  -- calls of other kinds than lookups and changes are not made
  have hkind {kind : CallKind} (hlookup : kind ≠ .lookup) (hchange : kind ≠ .change) :
      ∀ e ∈ es ++ fs, e.call.kind ≠ kind :=
    kind_ne_append hlooked hlookup fun e he h =>
      hchange (h.symm.trans (kind_of_performed_changes hperformed e he))
  have hadd : ¬ ∃ e ∈ es ++ fs, e.call.kind = .add := fun ⟨e, he, h⟩ =>
    hkind (by simp) (by simp) e he h
  have hall (o : Outcome Plan)
      (ho : result.map (fun _ => .updated (parts.plan policy.excludeFields x)) = .ok o) :=
    performed_of_map_ok hperformed ho
  exact
    { noCreate := fun _ e he h => hadd ⟨e, he, h⟩
      noCreate_absent := fun _ h => absurd hfound (h x)
      noUpdate := fun h => by
        rw [hgate] at h
        cases h
      noDelete := hkind (by simp) (by simp)
      excluded := fun _ _ e he h => by
        rcases List.mem_append.1 he with he | he
        · exact absurd h (not_mutates_of_looked hlooked e he)
        · exact field_of_performed_changes hperformed e he
      add := fun h => absurd h hadd
      succeeded := fun o ho => succeeded_append hlooked (hall o ho).2.2
      created := fun o ho => by
        refine iff_of_false ?_ hadd
        rw [(hall o ho).1]
        simp
      updated := fun o plan ho => by
        obtain ⟨rfl, hcalls, -⟩ := hall o ho
        rw [mutations_append hlooked hmutates]
        refine ⟨fun h => ?_, fun ⟨y, hy, hplan, _⟩ => ?_⟩
        · cases h
          exact ⟨x, hfound, rfl, hne, hcalls⟩
        · rw [hplan, hunique y hy]
      idle := fun o ho => by
        obtain ⟨rfl, hcalls, -⟩ := hall o ho
        refine iff_of_false (by simp) fun h => hne ?_
        rw [← hcalls, List.map_eq_nil_iff, List.eq_nil_iff_forall_not_mem]
        exact fun e he => h e (List.mem_append_right _ he) (hmutates e he) }

/-- **The gate of a synchronization.** Every course of a synchronization is as the policy
promises. -/
theorem gated (h : parts.Course policy es result) : parts.Gated policy es result := by
  cases h with
  | lost hlooked => exact gated_of_looked hlooked (by simp)
  | barred hlooked hgate => exact gated_of_looked hlooked (by simp)
  | added hlooked hgate hperformed => exact gated_of_added hlooked hgate hperformed
  | settled hlooked hdiff => exact gated_of_looked hlooked (by simp)
  | kept hlooked hgate => exact gated_of_looked hlooked (by simp)
  | changed hlooked hdiff hgate hperformed =>
    exact gated_of_changed hlooked hdiff hgate hperformed

end Course

end SyncParts

/-! ## Removals -/

/-- What a policy promises of a removal with the exchanges `es`: where deletion is forbidden,
nothing is changed; and nothing else is ever done than to delete the element. -/
structure RemovalGated (deletion : RemoteCall) (policy : Policy) (es : List RemoteExchange) :
    Prop where
  noDelete : policy.noDelete = true → ∀ e ∈ es, ¬ e.Mutates
  only : ∀ e ∈ es, e.Mutates → e.call = deletion

/-- **The gate of a removal.** Every course of a removal is as the policy promises. -/
theorem Removal.gated {reply? : RemoteExchange → Option (Option τ)} {lookup deletion : RemoteCall}
    {result : Except Failure Guarded} (hlookup : lookup.kind = .lookup)
    (h : Removal reply? lookup deletion policy es result) : RemovalGated deletion policy es := by
  have hidle {es : List RemoteExchange} {found : Except Failure (Option τ)}
      (hlooked : Looked reply? [lookup] es found) : ∀ e ∈ es, ¬ e.Mutates := by
    intro e he
    rw [Exchange.Mutates, List.mem_singleton.1 (hlooked.call_mem e he), not_not]
    exact hlookup
  cases h with
  | lost hlooked => exact ⟨fun _ => hidle hlooked, fun e he h => absurd h (hidle hlooked e he)⟩
  | gone hlooked => exact ⟨fun _ => hidle hlooked, fun e he h => absurd h (hidle hlooked e he)⟩
  | kept hlooked hgate =>
    exact ⟨fun _ => hidle hlooked, fun e he h => absurd h (hidle hlooked e he)⟩
  | deleted hlooked hgate hperformed =>
    refine ⟨fun h => ?_, fun e he h => ?_⟩
    · rw [hgate] at h
      cases h
    · rcases List.mem_append.1 he with he | he
      · exact absurd h (hidle hlooked e he)
      · exact List.mem_singleton.1 (hperformed.call_mem e he)

end MonitorSync
