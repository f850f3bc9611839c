import Mathlib.Data.List.Nodup
import MonitorSync.Remote.InMemory
set_option autoImplicit false

/-!
# One element among others

A platform keeps its services and its groups in lists, and a call changes one element in place. A
slot is such a list without the element, so that "everything else is unchanged" is said by filling
one slot twice.

## Main definitions

* `Slot`, `Slot.fill` — a list around a place, and the list with an element at the place.
* `Slot.Free` — no other element has a key.

## Main results

* `Slot.exists_of_find?` — a list in which an element was found is a slot filled with it.
* `Slot.find?_fill`, `Slot.find?_fill_eq_none` — lookup by key in a filled slot.
* `Slot.modifyFirst_fill` — a change by key fills the slot anew.
-/

namespace MonitorSync

/-- A list around one place. -/
structure Slot (α : Type) where
  before : List α
  after : List α

namespace Slot

variable {α κ : Type} {k : Slot α} {x y : α}

/-- The list with an element at the place. -/
def fill (k : Slot α) (x : α) : List α := k.before ++ x :: k.after

/-- The other elements. -/
def others (k : Slot α) : List α := k.before ++ k.after

/-- No other element has the key `i`. -/
def Free (k : Slot α) (key : α → κ) (i : κ) : Prop := ∀ t ∈ k.others, key t ≠ i

@[simp] lemma mem_fill : y ∈ k.fill x ↔ y = x ∨ y ∈ k.others := by
  simp only [fill, others, List.mem_append, List.mem_cons]
  tauto

@[simp] lemma length_fill : (k.fill x).length = k.others.length + 1 := by
  simp only [fill, others, List.length_append, List.length_cons]
  omega

/-- A place holds one element. -/
lemma fill_injective (k : Slot α) : Function.Injective k.fill := by
  intro x y h
  exact (List.cons.inj (List.append_cancel_left h)).1

/-- A list in which an element was found is a slot filled with it, and no element before it is like
it. -/
theorem exists_of_find? {l : List α} {p : α → Bool} (h : l.find? p = some x) :
    ∃ k : Slot α, l = k.fill x ∧ p x ∧ ∀ t ∈ k.before, ¬ p t := by
  obtain ⟨hx, before, after, rfl, hb⟩ := List.find?_eq_some_iff_append.1 h
  exact ⟨⟨before, after⟩, rfl, hx, fun t ht => by simpa using hb t ht⟩

section Keys

variable {key : α → κ} {i : κ}

lemma Free.before (h : k.Free key i) {t : α} (ht : t ∈ k.before) : key t ≠ i :=
  h t (List.mem_append_left _ ht)

lemma free_iff : k.Free key i ↔ i ∉ k.others.map key := by
  simp [Free]

/-- The keys of a filled slot differ if the others do and the key of the element is free. -/
lemma nodup_fill : ((k.fill x).map key).Nodup ↔ (k.others.map key).Nodup ∧ k.Free key (key x) := by
  rw [free_iff, others, fill, List.map_append, List.map_cons, List.nodup_middle,
    ← List.map_append, List.nodup_cons, and_comm]

/-- An element whose key no other one has stands at one place only. -/
lemma eq_of_fill_eq {j : Slot α} (h : k.fill x = j.fill x) (hk : k.Free key (key x)) : k = j := by
  have hbefore : x ∉ k.before := fun hx => hk.before hx rfl
  have hafter : x ∉ k.after := fun hx => hk x (List.mem_append_right _ hx) rfl
  obtain ⟨hb, -, ha⟩ := (List.append_cons_inj_of_notMem hbefore hafter).1 h
  rcases k with ⟨before, after⟩
  exact congrArg₂ Slot.mk hb ha

variable {p : α → Bool}

/-- The element is found under its key if no other one has it. -/
theorem find?_fill (hp : ∀ t, p t ↔ key t = i) (hx : key x = i) (hf : k.Free key i) :
    (k.fill x).find? p = some x := by
  rw [fill, List.find?_append, List.find?_eq_none.2, Option.none_or,
    List.find?_cons_of_pos ((hp x).2 hx)]
  exact fun t ht h => hf.before ht ((hp t).1 h)

/-- Nothing is found under a key that is free and not the key of the element. -/
theorem find?_fill_eq_none (hp : ∀ t, p t ↔ key t = i) (hx : key x ≠ i) (hf : k.Free key i) :
    (k.fill x).find? p = none := by
  refine List.find?_eq_none.2 fun t ht h => ?_
  rcases mem_fill.1 ht with rfl | ht
  · exact hx ((hp t).1 h)
  · exact hf t ht ((hp t).1 h)

/-- A key under which nothing is found is free. -/
lemma Free.of_find?_fill (hp : ∀ t, p t ↔ key t = i) (h : (k.fill x).find? p = none) :
    k.Free key i := by
  intro t ht hi
  exact List.find?_eq_none.1 h t (mem_fill.2 (.inr ht)) ((hp t).2 hi)

/-- A change of the element of a key fills the slot anew. -/
theorem modifyFirst_fill (hp : ∀ t, p t ↔ key t = i) (hx : key x = i) (hf : k.Free key i)
    (f : α → α) : InMemoryPlatform.modifyFirst p f (k.fill x) = k.fill (f x) := by
  obtain ⟨before, after⟩ := k
  induction before with
  | nil => simp [fill, InMemoryPlatform.modifyFirst, (hp x).2 hx]
  | cons t before ih =>
    have ht : ¬ p t := fun h => hf t (by simp [others]) ((hp t).1 h)
    have hrest : Free ⟨before, after⟩ key i := fun u hu => hf u (List.mem_cons_of_mem _ hu)
    have := ih hrest
    simp only [fill, List.cons_append] at this ⊢
    rw [InMemoryPlatform.modifyFirst, if_neg ht, this]

end Keys

end Slot

end MonitorSync
