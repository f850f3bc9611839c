import Mathlib.Logic.Relation
import MonitorSync.Proofs.Json.Containment
set_option autoImplicit false

/-!
# Containment as an order

That a value is found in another one is an order on values, where values are the same that are
equal. What has more fields contains more; but a scalar or a list that is wanted is found only as it
is.

## Main definitions

* `Json.valueAt?`, `Json.replaceAt` — the value that keys lead to through objects, and its
  replacement.
* `Json.AddsField` — one more field in an object that is reached through objects.

## Main results

* `Json.contains_trans`, `Json.contains_antisymm` — the laws of an order, beside reflexivity.
* `Json.valueAt?_of_contains`, `Json.contains_replaceAt` — containment below a path.
* `Json.contains_order` — the order, with what added and replaced fields do to it.
-/

namespace MonitorSync

namespace Json

variable {a b c v w new inner : Json} {key : String} {path : List String}

/-! ## The laws of an order -/

/-- **Transitivity.** What is found in a value that is found in another one is found in that.

**Proof sketch.** Induction on what is found. A scalar or a list is found only where it is equal, so
all three values are. Each field of an object is found in the field of the second object, which is
found in that of the third. -/
theorem contains_trans (hb : b.KeysInOrder) (hc : c.KeysInOrder) (hab : a.contains b = true)
    (hbc : b.contains c = true) : a.contains c = true := by
  induction hc generalizing a b with
  | leaf hleaf =>
    have hb' : b.isObject = false := (isObject_of_contains hbc).trans hleaf
    exact (contains_iff_of_leaf hleaf).2
      (((contains_iff_of_leaf hb').1 hab).trans ((contains_iff_of_leaf hleaf).1 hbc))
  | @obj m hm _ ih =>
    obtain ⟨mb, rfl, hfields⟩ := (contains_ofMap_iff hm).1 hbc
    obtain ⟨ma, rfl, hfields'⟩ := (contains_ofMap_iff hb.increasing).1 hab
    refine (contains_ofMap_ofMap_iff hm).2 fun k v hv => ?_
    obtain ⟨y, hy, hyv⟩ := hfields k v hv
    obtain ⟨x, hx, hxy⟩ := hfields' k y hy
    exact ⟨x, hx, ih (k, v) (KeyMap.mem_of_lookup hv) (hb.of_get? hy) hxy hyv⟩

/-- **Antisymmetry.** Values that are found in each other are equal. -/
theorem contains_antisymm (ha : a.KeysInOrder) (hb : b.KeysInOrder) (hab : a.contains b = true)
    (hba : b.contains a = true) : (a == b) = true := by
  rw [beq_iff]
  induction ha generalizing b with
  | leaf hleaf =>
    have hb' : b.isObject = false := (isObject_of_contains hba).trans hleaf
    exact (contains_iff_of_leaf hb').1 hab
  | @obj m hm _ ih =>
    obtain ⟨mb, rfl, hfields⟩ := (contains_ofMap_iff hm).1 hba
    have hfields' := (contains_ofMap_ofMap_iff hb.increasing).1 hab
    refine (unsigned_ofMap_eq_iff hm hb.increasing).2 fun k => ?_
    cases hx : m.get? k with
    | none =>
      cases hy : mb.get? k with
      | none => rfl
      | some y =>
        obtain ⟨x, hx', -⟩ := hfields' k y hy
        cases hx.symm.trans hx'
    | some x =>
      obtain ⟨y, hy, hyx⟩ := hfields k x hx
      obtain ⟨x', hx', hxy⟩ := hfields' k y hy
      obtain rfl : x = x' := Option.some.inj (hx.symm.trans hx')
      rw [hy]
      exact congrArg some
        (ih (k, x) (KeyMap.mem_of_lookup hx) (hb.of_get? hy) hxy hyx)

/-! ## Values below a path -/

/-- The value that keys lead to, through objects only. -/
def valueAt? : List String → Json → Option Json
  | [], v => some v
  | key :: path, v => (v.get? key).bind (valueAt? path)

/-- Puts another value in the place of the one that keys lead to, if they lead to one. -/
def replaceAt : List String → Json → Json → Json
  | [], new, _ => new
  | key :: path, new, v =>
    match v.get? key with
    | some inner => v.set key (replaceAt path new inner)
    | none => v

lemma KeysInOrder.valueAt? (h : v.KeysInOrder) (hat : valueAt? path v = some w) :
    w.KeysInOrder := by
  induction path generalizing v with
  | nil =>
    cases hat
    exact h
  | cons key path ih =>
    obtain ⟨inner, hget, hrest⟩ := Option.bind_eq_some_iff.1 hat
    exact ih (h.of_get? hget) hrest

/-- Only objects have fields. -/
lemma exists_ofMap_of_get? (h : v.get? key = some inner) :
    ∃ m : KeyMap Json, v = ofMap m ∧ m.get? key = some inner := by
  cases v with
  | obj entries => exact ⟨⟨entries⟩, rfl, h⟩
  | _ => cases h

/-- What is put at a path is found there. -/
lemma valueAt?_replaceAt (hat : valueAt? path v = some w) :
    valueAt? path (replaceAt path new v) = some new := by
  induction path generalizing v with
  | nil => rfl
  | cons key path ih =>
    obtain ⟨inner, hget, hrest⟩ := Option.bind_eq_some_iff.1 hat
    obtain ⟨m, rfl, -⟩ := exists_ofMap_of_get? hget
    rw [replaceAt, hget, valueAt?]
    dsimp only
    rw [ofMap, get?_set_obj, if_pos rfl]
    exact ih hrest

/-- **Below a path.** Where keys lead to a value in what is found, they lead to one in which that is
found. -/
theorem valueAt?_of_contains (hb : b.KeysInOrder) (h : a.contains b = true)
    (hat : valueAt? path b = some w) :
    ∃ v, valueAt? path a = some v ∧ v.contains w = true := by
  induction path generalizing a b with
  | nil =>
    cases hat
    exact ⟨a, rfl, h⟩
  | cons key path ih =>
    obtain ⟨inner, hget, hrest⟩ := Option.bind_eq_some_iff.1 hat
    obtain ⟨m, rfl, hinner⟩ := exists_ofMap_of_get? hget
    obtain ⟨ma, rfl, hfields⟩ := (contains_ofMap_iff hb.increasing).1 h
    obtain ⟨x, hx, hcontains⟩ := hfields key inner hinner
    obtain ⟨v, hv, hvw⟩ := ih (hb.of_get? hget) hcontains hrest
    exact ⟨v, Option.bind_eq_some_iff.2 ⟨x, hx, hv⟩, hvw⟩

/-- **Replacing.** What is found in a value is still found if another value is put at a path, in
which the wanted value at that path, if there is one, is found.

**Proof sketch.** Induction on the path. A replaced field is found by the induction hypothesis, and
the fields beside it stay as they are. -/
theorem contains_replaceAt (hb : b.KeysInOrder) (h : a.contains b = true)
    (hnew : ∀ w, valueAt? path b = some w → new.contains w = true) :
    (replaceAt path new a).contains b = true := by
  induction path generalizing a b with
  | nil => exact hnew b rfl
  | cons key path ih =>
    rw [replaceAt]
    split
    · next inner hget =>
      obtain ⟨ma, rfl, hinner⟩ := exists_ofMap_of_get? hget
      obtain ⟨m, rfl⟩ := exists_ofMap_of_isObject (v := b) (isObject_of_contains h ▸ rfl)
      have hfields := (contains_ofMap_ofMap_iff hb.increasing).1 h
      change (ofMap (ma.insert key _)).contains _ = true
      refine (contains_ofMap_ofMap_iff hb.increasing).2 fun k v hv => ?_
      obtain ⟨x, hx, hxv⟩ := hfields k v hv
      rw [KeyMap.get?_insert]
      by_cases hk : key = k
      · subst hk
        obtain rfl : inner = x := Option.some.inj (hinner.symm.trans hx)
        rw [if_pos rfl]
        refine ⟨_, rfl, ih (hb.of_get? hv) hxv fun w hw => hnew w ?_⟩
        exact Option.bind_eq_some_iff.2 ⟨v, hv, hw⟩
      · rw [if_neg hk]
        exact ⟨x, hx, hxv⟩
    · exact h

/-! ## Added fields -/

/-- One more field stands in an object that is reached through objects. -/
inductive AddsField : Json → Json → Prop
  | intro {v inner : Json} (path : List String) (key : String) (added : Json)
    (hat : valueAt? path v = some inner) (hobject : inner.isObject = true)
    (hkey : inner.get? key = none) : AddsField v (replaceAt path (inner.set key added) v)

/-- **One added field.** What is found stays found. -/
theorem AddsField.contains (h : AddsField a c) (hb : b.KeysInOrder) (hab : a.contains b = true) :
    c.contains b = true := by
  obtain ⟨path, key, added, hat, hobject, hkey⟩ := h
  refine contains_replaceAt hb hab fun w hw => ?_
  obtain ⟨v, hv, hvw⟩ := valueAt?_of_contains hb hab hw
  obtain rfl := Option.some.inj (hat.symm.trans hv)
  obtain ⟨m, rfl⟩ := exists_ofMap_of_isObject hobject
  exact contains_set hkey hvw

/-! ## Main result -/

/-- **Containment is an order**, on values whose objects have their keys in order, each key once: it
is reflexive, transitive and antisymmetric. Fields that are added to objects, which are reached
through objects only, never take away what is found. At a path through objects only where a scalar
or a list is wanted, another value than the one there always does. -/
theorem contains_order (ha : a.KeysInOrder) (hb : b.KeysInOrder) (hc : c.KeysInOrder) :
    a.contains a = true ∧
    (a.contains b = true → b.contains c = true → a.contains c = true) ∧
    (a.contains b = true → b.contains a = true → (a == b) = true) ∧
    (a.contains b = true → ∀ a', Relation.ReflTransGen AddsField a a' → a'.contains b = true) ∧
    (a.contains b = true → ∀ path w, valueAt? path b = some w → w.isObject = false →
      ∃ v, valueAt? path a = some v ∧
        ∀ new, (new == v) = false → (replaceAt path new a).contains b = false) := by
  refine ⟨contains_refl ha, contains_trans hb hc, contains_antisymm ha hb,
    fun hab a' hadds => ?_, fun hab path w hw hleaf => ?_⟩
  · induction hadds with
    | refl => exact hab
    | tail _ hadd ih => exact hadd.contains hb ih
  · obtain ⟨v, hv, hvw⟩ := valueAt?_of_contains hb hab hw
    refine ⟨v, hv, fun new hdiffers => ?_⟩
    rw [Bool.eq_false_iff]
    intro hstill
    obtain ⟨v', hv', hnew⟩ := valueAt?_of_contains hb hstill hw
    obtain rfl := Option.some.inj ((valueAt?_replaceAt hv).symm.trans hv')
    refine Bool.false_ne_true (hdiffers.symm.trans (beq_iff.2 ?_))
    exact ((contains_iff_of_leaf hleaf).1 hnew).trans ((contains_iff_of_leaf hleaf).1 hvw).symm

/-- A specification with a policy, of which less is wanted: a default is added to the policy,
another host is put in, and the zeros of a double are told apart by their signs only. -/
theorem contains_order_policy :
    let wanted := ofEntries [("host", .str "web"), ("policy", ofEntries [])]
    let actual := ofEntries [("activate", .bool false), ("host", .str "web"),
      ("policy", ofEntries [("noCreate", .bool true)])]
    let less := ofEntries [("policy", ofEntries [])]
    let zero (sign : Bool) := Json.num (.float (.zero sign))
    actual.contains less = true ∧ (zero false == zero true) = true ∧
      (replaceAt ["policy"] ((ofEntries [("noCreate", .bool true)]).set "noDelete" (.bool false))
        actual).contains wanted = true ∧
      (replaceAt ["host"] (.str "db") actual).contains wanted = false := by
  intro wanted actual less zero
  have hpolicy : ∀ b, (ofEntries [("noCreate", .bool b)]).KeysInOrder := fun b =>
    keysInOrder_ofEntries (by simp)
  have hempty : (ofEntries []).KeysInOrder := keysInOrder_ofEntries (by simp)
  have hactual : actual.KeysInOrder := keysInOrder_ofEntries (by simp [hpolicy])
  have hwanted : wanted.KeysInOrder := keysInOrder_ofEntries (by simp [hempty])
  have hless : less.KeysInOrder := keysInOrder_ofEntries (by simp [hempty])
  obtain ⟨-, htrans, -, hadds, hreplaced⟩ := contains_order hactual hwanted hless
  obtain ⟨v, hv, hother⟩ := hreplaced (by decide +kernel) ["host"] (.str "web") rfl rfl
  cases hv
  refine ⟨htrans (by decide +kernel) (by decide +kernel), ?_, ?_, hother (.str "db") (by decide)⟩
  · exact (contains_order (.leaf rfl) (.leaf rfl) (.leaf rfl) (c := zero true)).2.2.1
      (by decide) (by decide)
  · exact hadds (by decide +kernel) _
      (.single (.intro ["policy"] "noDelete" (.bool false) rfl rfl rfl))

end Json

end MonitorSync
