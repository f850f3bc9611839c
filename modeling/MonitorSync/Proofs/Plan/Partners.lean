import MonitorSync.Proofs.Plan.Pairing
set_option autoImplicit false

/-!
# Partners of macros

Pairing off takes partners out of the actual macros one after the other. What comes of it is said
here of the lists as they were given: the k-th wanted macro of a name has the k-th actual one of
that name as its partner.

## Main definitions

* `numbered` — macros with their numbers among those of their names.
* `partner?` — the macro of the same name and number in another list.
* `beyond` — the macros whose numbers are not below a bound for their name.

## Main results

* `matchMacros_fst_eq` — the macros to set are those with no partner or one that differs, in order.
* `matchMacros_snd_eq` — the macros left over are those beyond as many as are wanted, in order.
* `macroChanges_of_partners` — both, for the macros to set and to delete.
-/

namespace MonitorSync

variable {m w current : ServiceMacro} {actual expected remaining ms : List ServiceMacro}
  {n a : String} {k : Nat} {bound : String → Nat}

/-! ## Numbers -/

/-- Macros, each with its number among those of its name: how many of them stand before it. -/
def numbered (ms : List ServiceMacro) : List (ServiceMacro × Nat) :=
  ms.mapIdx fun i m => (m, (macroNames (ms.take i)).count m.name)

/-- The number of a macro if one more of the name `a` stands before it. -/
def numberAfter (a : String) (e : ServiceMacro × Nat) : ServiceMacro × Nat :=
  (e.1, if e.1.name = a then e.2 + 1 else e.2)

/-- One more macro in front is the first of its name, and the others of its name come after it. -/
lemma numbered_cons (m : ServiceMacro) (ms : List ServiceMacro) :
    numbered (m :: ms) = (m, 0) :: (numbered ms).map (numberAfter m.name) := by
  have hrest (i : Nat) (v : ServiceMacro) :
      (v, (macroNames ((m :: ms).take (i + 1))).count v.name) =
        numberAfter m.name (v, (macroNames (ms.take i)).count v.name) := by
    rw [List.take_succ_cons, macroNames, List.map_cons, List.count_cons, numberAfter]
    by_cases hv : v.name = m.name
    · simp [hv, macroNames]
    · simp [hv, Ne.symm hv, macroNames]
  rw [numbered, List.mapIdx_cons]
  refine congrArg (List.cons _) (List.mapIdx_eq_iff.2 fun i => ?_)
  rw [List.getElem?_map, numbered, List.getElem?_mapIdx, Option.map_map]
  exact congrArg (fun f => Option.map f ms[i]?) (funext fun v => (hrest i v).symm)

/-- Without their numbers, the macros are as before. -/
lemma map_fst_numbered (ms : List ServiceMacro) : (numbered ms).map Prod.fst = ms := by
  refine List.ext_getElem? fun i => ?_
  rw [List.getElem?_map, numbered, List.getElem?_mapIdx, Option.map_map]
  exact congrFun Option.map_id _

/-- A numbered macro is one of the macros. -/
lemma mem_of_mem_numbered {e : ServiceMacro × Nat} (h : e ∈ numbered ms) : e.1 ∈ ms := by
  rw [← map_fst_numbered ms]
  exact List.mem_map_of_mem h

/-- Of the macros after one more in front, those are chosen that are chosen with their new
numbers. -/
private lemma map_fst_filter_numberAfter (p : ServiceMacro × Nat → Bool)
    (es : List (ServiceMacro × Nat)) :
    ((es.map (numberAfter a)).filter p).map Prod.fst =
      (es.filter fun e => p (numberAfter a e)).map Prod.fst := by
  rw [List.filter_map, List.map_map]
  rfl

/-! ## Partners -/

/-- The partner of a macro: the one of its name and number among others. -/
def partner? (others : List ServiceMacro) (e : ServiceMacro × Nat) : Option ServiceMacro :=
  (macrosNamed e.1.name others)[e.2]?

/-- A macro has no partner exactly if there are no more of its name than come before it. -/
lemma partner?_eq_none_iff {others : List ServiceMacro} {e : ServiceMacro × Nat} :
    partner? others e = none ↔ (macroNames others).count e.1.name ≤ e.2 := by
  rw [partner?, List.getElem?_eq_none_iff, length_macrosNamed]

/-- Taking out the first macro of a name gives every later one of the name the next partner. -/
lemma partner?_of_takeFirst?
    (h : takeFirst? (fun m => m.name = w.name) actual = some (current, remaining))
    (e : ServiceMacro × Nat) : partner? actual (numberAfter w.name e) = partner? remaining e := by
  rw [partner?, partner?, numberAfter]
  by_cases he : e.1.name = w.name
  · rw [if_pos he, he, macrosNamed_of_takeFirst? h, List.getElem?_cons_succ]
  · rw [if_neg he, macrosNamed_of_takeFirst?_of_ne h (Ne.symm he)]

/-- Where no macro of a name can be taken out, none of the name has a partner. -/
lemma partner?_of_takeFirst?_eq_none
    (h : takeFirst? (fun m => m.name = w.name) actual = none) (e : ServiceMacro × Nat) :
    partner? actual (numberAfter w.name e) = partner? actual e := by
  rw [partner?, partner?, numberAfter]
  by_cases he : e.1.name = w.name
  · simp only [he, macrosNamed_of_takeFirst?_eq_none h, List.getElem?_nil]
  · rw [if_neg he]

/-! ## The macros to set -/

/-- A wanted macro has no partner, or one with another value or password flag. -/
def LacksPartner (actual : List ServiceMacro) (e : ServiceMacro × Nat) : Prop :=
  ∀ m ∈ partner? actual e, m.value ≠ e.1.value ∨ m.effectiveFlag ≠ e.1.effectiveFlag

instance (actual : List ServiceMacro) : DecidablePred (LacksPartner actual) := fun _ =>
  inferInstanceAs (Decidable (∀ _ ∈ _, _))

/-- The first wanted macro of a name lacks a partner unless the first actual one meets it. -/
lemma lacksPartner_zero_iff (hpartner : partner? actual (w, 0) = some current)
    (hname : current.name = w.name) : LacksPartner actual (w, 0) ↔ ¬ current.meets w := by
  simp only [LacksPartner, hpartner, Option.mem_some_iff, forall_eq', ServiceMacro.meets, hname,
    true_and, ne_eq, not_and_or]

/-- **The macros to set** are the wanted ones that lack a partner, in order.

**Proof sketch.** Induction on the wanted macros. The first one takes out its partner if there is
one. The others of its name are then one number lower among the wanted macros, and their partners
are one number lower among what remains. -/
theorem matchMacros_fst_eq (actual expected : List ServiceMacro) :
    (matchMacros actual expected).1 =
      ((numbered expected).filter fun e => LacksPartner actual e).map Prod.fst := by
  induction expected generalizing actual with
  | nil => rfl
  | cons w rest ih =>
    rw [numbered_cons, List.filter_cons]
    rcases htake : takeFirst? (fun m => m.name = w.name) actual with _ | ⟨current, remaining⟩
    · have hw : LacksPartner actual (w, 0) := by
        intro m hm
        rw [partner?, macrosNamed_of_takeFirst?_eq_none htake] at hm
        cases hm
      have hrest (e : ServiceMacro × Nat) :
          LacksPartner actual (numberAfter w.name e) ↔ LacksPartner actual e := by
        rw [LacksPartner, partner?_of_takeFirst?_eq_none htake]
        rfl
      rw [matchMacros_cons_of_none htake, if_pos (decide_eq_true hw), List.map_cons,
        map_fst_filter_numberAfter, ih]
      simp only [hrest]
    · have hw : LacksPartner actual (w, 0) ↔ ¬ current.meets w := by
        refine lacksPartner_zero_iff ?_ (name_of_takeFirst? htake)
        rw [partner?, macrosNamed_of_takeFirst? htake]
        rfl
      have hrest (e : ServiceMacro × Nat) :
          LacksPartner actual (numberAfter w.name e) ↔ LacksPartner remaining e := by
        rw [LacksPartner, partner?_of_takeFirst? htake]
        rfl
      have hothers : (((numbered rest).map (numberAfter w.name)).filter fun e =>
          LacksPartner actual e).map Prod.fst = (matchMacros remaining rest).1 := by
        rw [map_fst_filter_numberAfter, ih]
        simp only [hrest]
      rw [matchMacros_cons_of_some htake]
      by_cases hm : current.meets w
      · rw [if_pos hm, if_neg (by simpa [hw] using hm), hothers]
      · rw [if_neg hm, if_pos (by simpa [hw] using hm), List.map_cons, hothers]

/-! ## The macros left over -/

/-- The macros whose numbers are not below the bound for their name, in order. -/
def beyond (bound : String → Nat) (ms : List ServiceMacro) : List ServiceMacro :=
  ((numbered ms).filter fun e => bound e.1.name ≤ e.2).map Prod.fst

/-- Bounds of which the one for a name is lower by one. -/
def lowered (bound : String → Nat) (a : String) (n : String) : Nat :=
  if n = a then bound n - 1 else bound n

lemma lowered_comm (bound : String → Nat) (a b : String) :
    lowered (lowered bound a) b = lowered (lowered bound b) a := by
  funext n
  rw [lowered, lowered, lowered, lowered]
  split <;> split <;> rfl

lemma lowered_of_ne (h : n ≠ a) : lowered bound a n = bound n := if_neg h

/-- Counting names lowers the bound that is left for each of them. -/
lemma lowered_count (ns : List String) :
    lowered (fun n => (a :: ns).count n) a = fun n => ns.count n := by
  funext n
  by_cases hn : n = a
  · simp [lowered, hn]
  · simp [lowered, hn, Ne.symm hn]

/-- The first macro is beyond a bound only if that is zero, and one more of its name has been passed
for the others. -/
lemma beyond_cons (bound : String → Nat) (m : ServiceMacro) (ms : List ServiceMacro) :
    beyond bound (m :: ms) =
      (if bound m.name = 0 then [m] else []) ++ beyond (lowered bound m.name) ms := by
  have hothers : (((numbered ms).map (numberAfter m.name)).filter fun e =>
      bound e.1.name ≤ e.2).map Prod.fst = beyond (lowered bound m.name) ms := by
    rw [map_fst_filter_numberAfter, beyond]
    congr 2
    funext e
    by_cases he : e.1.name = m.name <;> simp [numberAfter, lowered, he]
  rw [beyond, numbered_cons, List.filter_cons]
  simp only [Nat.le_zero_eq, decide_eq_true_eq]
  split
  · rw [List.map_cons, hothers, List.singleton_append]
  · rw [hothers, List.nil_append]

/-- Bounds for names that do not occur are not looked at. -/
lemma beyond_lowered_of_forall_ne (h : ∀ m ∈ ms, m.name ≠ a) :
    beyond (lowered bound a) ms = beyond bound ms := by
  rw [beyond, beyond]
  congr 1
  refine List.filter_congr fun e he => ?_
  rw [lowered_of_ne (h e.1 (mem_of_mem_numbered he))]

/-- Taking out the first macro of a name lowers the bound for the name. -/
lemma beyond_of_takeFirst? (hbound : 0 < bound w.name)
    (h : takeFirst? (fun m => m.name = w.name) actual = some (current, remaining)) :
    beyond bound actual = beyond (lowered bound w.name) remaining := by
  induction actual generalizing bound remaining with
  | nil => cases h
  | cons a actual ih =>
    rw [takeFirst?] at h
    split at h
    · next ha =>
      cases h
      rw [beyond_cons, of_decide_eq_true ha, if_neg (Nat.pos_iff_ne_zero.1 hbound),
        List.nil_append]
    · next ha =>
      obtain ⟨⟨c, rest⟩, hrest, heq⟩ := Option.map_eq_some_iff.1 h
      cases heq
      have hne : a.name ≠ w.name := by simpa using ha
      have hbound' : 0 < lowered bound a.name w.name := by rwa [lowered_of_ne hne.symm]
      rw [beyond_cons, beyond_cons, lowered_of_ne hne, ih hbound' hrest, lowered_comm]

/-- **The macros left over** are the actual ones beyond as many as are wanted of their name, in
order. -/
theorem matchMacros_snd_eq (actual expected : List ServiceMacro) :
    (matchMacros actual expected).2 = beyond (fun n => (macroNames expected).count n) actual := by
  induction expected generalizing actual with
  | nil =>
    have hall : (numbered actual).filter
        (fun e => (macroNames []).count e.1.name ≤ e.2) = numbered actual :=
      List.filter_eq_self.2 fun e _ => decide_eq_true (Nat.zero_le _)
    exact (map_fst_numbered actual).symm.trans (congrArg _ hall.symm)
  | cons w rest ih =>
    have hlowered := lowered_count (a := w.name) (macroNames rest)
    rcases htake : takeFirst? (fun m => m.name = w.name) actual with _ | ⟨current, remaining⟩
    · have hne : ∀ m ∈ actual, m.name ≠ w.name := by simpa using takeFirst?_eq_none htake
      rw [matchMacros_cons_of_none htake, ih, ← hlowered, beyond_lowered_of_forall_ne hne]
      rfl
    · rw [matchMacros_cons_of_some htake, ih, ← hlowered]
      exact (beyond_of_takeFirst? (by simp) htake).symm

/-! ## Main result -/

/-- **Macros to set and to delete.** The partner of the k-th wanted macro of a name is the k-th
actual one of that name, and the other way round. To set are, in the order in which they are wanted,
exactly the wanted macros with no partner or one that has another value or password flag, where no
flag counts as `0`. To delete are, in the order in which they stand, exactly the actual macros
without a partner that come from the service itself and are not empty. -/
theorem macroChanges_of_partners (actual expected : List ServiceMacro) :
    macroChanges actual expected =
      (((numbered expected).filter fun e =>
          ∀ m ∈ partner? actual e, m.value ≠ e.1.value ∨ m.effectiveFlag ≠ e.1.effectiveFlag).map
        Prod.fst,
        ((numbered actual).filter fun e =>
          partner? expected e = none ∧ e.1.source = ServiceMacro.directSource ∧ e.1.value ≠ "").map
        Prod.fst) := by
  refine Prod.ext (matchMacros_fst_eq actual expected) ?_
  have hleft : (matchMacros actual expected).2 =
      ((numbered actual).filter fun e => partner? expected e = none).map Prod.fst := by
    rw [matchMacros_snd_eq, beyond]
    simp only [partner?_eq_none_iff]
  change (matchMacros actual expected).2.filter _ = _
  rw [hleft, List.filter_map, List.filter_filter]
  congr 2
  funext e
  have hempty : e.1.value.isEmpty = decide (e.1.value = "") := by
    rw [Bool.eq_iff_iff, String.isEmpty_iff, decide_eq_true_eq]
  simp [hempty, and_comm]

/-- Of three macros `A`, a wanted one has the first as its partner. The second comes from a
template, so only the third is deleted. -/
example :
    macroChanges [.direct "A" "1", ⟨"A", "2", "", "generic"⟩, .direct "B" "0", .direct "A" "3"]
      [⟨"A", "1", "", "direct"⟩, .direct "B" "9"] =
        ([.direct "B" "9"], [.direct "A" "3"]) := by
  decide

end MonitorSync
