import Mathlib

/- Tables with a fixed number of slots that are searched from the first slot on. -/
namespace SlotTable
open List Option

structure Table (α : Type) (n : Nat) where
  slots : List α
  size : slots.length = n

variable {α : Type} {n : Nat}

def filled (n : Nat) (value : α) : Table α n := ⟨List.replicate n value, List.length_replicate⟩

def Table.set (t : Table α n) (i : Nat) (value : α) : Table α n :=
  ⟨t.slots.set i value, List.length_set.trans t.size⟩

def replaceFirst (p : α → Bool) (new : α) : List α → Option (List α)
  | [] => none
  | slot :: slots =>
    if p slot then some (new :: slots) else (replaceFirst p new slots).map (slot :: ·)

variable {p : α → Bool} {new : α} {slots slots' : List α}

theorem replaceFirst_some (replaced : replaceFirst p new slots = some slots') :
    ∃ front old back, slots = front ++ old :: back ∧ (∀ slot ∈ front, p slot = false) ∧
      p old = true ∧ slots' = front ++ new :: back := by
  induction slots generalizing slots' with
  | nil => cases replaced
  | cons slot slots ih =>
    rw [replaceFirst] at replaced
    by_cases here : p slot = true
    · rw [if_pos here, some_inj] at replaced
      exact ⟨[], slot, slots, rfl, by simp, here, replaced.symm⟩
    · rw [if_neg here, map_eq_some_iff] at replaced
      obtain ⟨rest, later, rfl⟩ := replaced
      obtain ⟨front, old, back, split, before, found, result⟩ := ih later
      refine ⟨slot :: front, old, back, by rw [split]; rfl, ?_, found, by rw [result]; rfl⟩
      intro other member
      rcases mem_cons.mp member with rfl | member
      · exact Bool.eq_false_iff.mpr here
      · exact before other member

theorem replaceFirst_none {slots : List α} :
    replaceFirst p new slots = none ↔ ∀ slot ∈ slots, p slot = false := by
  induction slots with
  | nil => simp [replaceFirst]
  | cons slot slots ih =>
    rw [replaceFirst, forall_mem_cons, ← ih]
    by_cases here : p slot = true
    · simp [here]
    · simp [here]

theorem replaceFirst_at {slot : α} (new : α) {front back : List α}
    (before : ∀ other ∈ front, p other = false) (here : p slot = true) :
    replaceFirst p new (front ++ slot :: back) = some (front ++ new :: back) := by
  induction front with
  | nil => exact if_pos here
  | cons first front ih =>
    rw [forall_mem_cons] at before
    rw [cons_append, replaceFirst, if_neg (Bool.eq_false_iff.mp before.1), ih before.2]
    rfl

theorem replaceFirst_length (replaced : replaceFirst p new slots = some slots') :
    slots'.length = slots.length := by
  obtain ⟨front, old, back, split, _, _, result⟩ := replaceFirst_some replaced
  rw [split, result, length_append, length_append, length_cons, length_cons]

def Table.replaceFirst (t : Table α n) (p : α → Bool) (new : α) : Option (Table α n) :=
  (SlotTable.replaceFirst p new t.slots).attach.map fun slots =>
    ⟨slots.1, (replaceFirst_length slots.2).trans t.size⟩

theorem Table.replaceFirst_slots {t t' : Table α n} (replaced : t.replaceFirst p new = some t') :
    SlotTable.replaceFirst p new t.slots = some t'.slots := by
  rw [Table.replaceFirst, map_eq_some_iff] at replaced
  obtain ⟨⟨slots, found⟩, _, rfl⟩ := replaced
  exact found

theorem Table.replaceFirst_none {t : Table α n} :
    t.replaceFirst p new = none ↔ ∀ slot ∈ t.slots, p slot = false := by
  rw [Table.replaceFirst, map_eq_none_iff, attach_eq_none_iff,
    SlotTable.replaceFirst_none]

variable {slots : List α} {slot : α} {p : α → Bool} {i : Nat}

theorem findIdx?_some (found : slots.findIdx? p = some i) :
    ∃ slot, slots[i]? = some slot ∧ p slot = true ∧
      ∀ j other, j < i → slots[j]? = some other → p other = false := by
  obtain ⟨inside, holds, first⟩ := findIdx?_eq_some_iff_getElem.mp found
  refine ⟨slots[i], List.getElem?_eq_getElem inside, holds, ?_⟩
  intro j other before here
  obtain ⟨inside', same⟩ := List.getElem?_eq_some_iff.mp here
  rw [← same]
  exact Bool.eq_false_iff.mpr (first j before)

theorem findIdx?_first (here : slots[i]? = some slot) (holds : p slot = true)
    (first : ∀ j other, j < i → slots[j]? = some other → p other = false) :
    slots.findIdx? p = some i := by
  obtain ⟨inside, same⟩ := List.getElem?_eq_some_iff.mp here
  apply List.findIdx?_eq_some_iff_getElem.mpr
  refine ⟨inside, by rw [same]; exact holds, ?_⟩
  intro j before
  have within : j < slots.length := Nat.lt_trans before inside
  exact Bool.eq_false_iff.mp (first j _ before (getElem?_eq_getElem within))

end SlotTable
