import Mathlib

/- A ring of slots that holds a list: the elements stand in consecutive slots from the first one
   on, and all other slots are empty. -/
namespace RingBuffer
open List Function Nat

variable {α : Type}

structure Holds (size : Nat) (slots : Nat → Option α) (first last : Nat) (held : List α) :
    Prop where
  room : held.length ≤ size
  first_lt : first < size
  last_eq : last = (first + held.length) % size
  filled : ∀ j, j < size → slots ((first + j) % size) = held[j]?

section

variable {size first j k : Nat}

theorem index_inj (left : j < size) (right : k < size)
    (same : (first + j) % size = (first + k) % size) : j = k := by
  have congruent : j % size = k % size := Nat.ModEq.add_left_cancel' first same
  rw [mod_eq_of_lt left, mod_eq_of_lt right] at congruent
  exact congruent

theorem index_succ (first j size : Nat) :
    ((first + 1) % size + j) % size = (first + (j + 1)) % size := by
  rw [mod_add_mod, add_right_comm, add_assoc]

theorem index_zero (inside : first < size) : (first + 0) % size = first :=
  mod_eq_of_lt inside

end

variable {size first last : Nat} {slots : Nat → Option α} {held : List α}

theorem Holds.start (positive : 0 < size) (empty : ∀ j, j < size → slots j = none) :
    Holds size slots 0 0 [] where
  room := zero_le size
  first_lt := positive
  last_eq := (zero_mod size).symm
  filled j inside := by
    rw [zero_add, mod_eq_of_lt inside, empty j inside]
    rfl

section
variable (holds : Holds size slots first last held)
include holds

theorem Holds.last_lt : last < size := by
  rw [holds.last_eq]
  exact mod_lt _ (lt_of_le_of_lt (zero_le _) holds.first_lt)

theorem Holds.first_slot : slots first = held.head? := by
  have here := holds.filled 0 (lt_of_le_of_lt (zero_le _) holds.first_lt)
  rw [index_zero holds.first_lt] at here
  rw [here, head?_eq_getElem?]

theorem Holds.last_slot : slots last = none ↔ held.length < size := by
  constructor
  · intro empty
    by_contra full
    have whole : held.length = size := le_antisymm holds.room (not_lt.mp full)
    have same : last = first := by
      rw [holds.last_eq, whole, add_mod_right, mod_eq_of_lt holds.first_lt]
    rw [same, holds.first_slot, head?_eq_none_iff] at empty
    have positive := holds.first_lt
    rw [empty, length_nil] at whole
    omega
  · intro space
    rw [holds.last_eq, holds.filled _ space, getElem?_eq_none (le_refl _)]

omit holds in
theorem filterMap_range_getElem? (held : List α) :
    ∀ size, held.length ≤ size → (List.range size).filterMap (fun j => held[j]?) = held := by
  induction held with
  | nil =>
    intro size _
    simp
  | cons value rest ih =>
    intro size room
    obtain ⟨size, rfl⟩ := Nat.exists_eq_add_of_le' (Nat.le_trans (Nat.succ_pos _) room)
    have rest_eq := ih size (Nat.le_of_succ_le_succ room)
    simp [range_succ_eq_map, filterMap_map, rest_eq]

theorem Holds.once_around :
    (List.range size).filterMap (fun j => slots ((first + j) % size)) = held := by
  have cells : (List.range size).filterMap (fun j => slots ((first + j) % size)) =
      (List.range size).filterMap (fun j => held[j]?) := by
    apply filterMap_congr
    intro j inside
    exact holds.filled j (mem_range.mp inside)
  rw [cells]
  exact filterMap_range_getElem? held size holds.room

theorem Holds.push (space : held.length < size) (value : α) :
    Holds size (update slots last (some value)) first ((last + 1) % size)
      (held ++ [value]) where
  room := by rw [length_append]; exact space
  first_lt := holds.first_lt
  last_eq := by rw [holds.last_eq, mod_add_mod, length_append]; rfl
  filled j inside := by
    by_cases here : j = held.length
    · rw [here, ← holds.last_eq, update_self, getElem?_concat_length]
    · have other : (first + j) % size ≠ last := by
        rw [holds.last_eq]
        exact fun same => here (index_inj inside space same)
      rw [update_of_ne other, holds.filled j inside]
      by_cases before : j < held.length
      · rw [getElem?_append_left before]
      · rw [getElem?_eq_none (by omega),
          getElem?_eq_none (by rw [length_append, length_singleton]; omega)]

end

theorem Holds.pop {value : α} (holds : Holds size slots first last (value :: held)) :
    Holds size (update slots first none) ((first + 1) % size) last held where
  room := le_of_succ_le holds.room
  first_lt := mod_lt _ (lt_of_le_of_lt (zero_le _) holds.first_lt)
  last_eq := by rw [holds.last_eq, index_succ, length_cons]
  filled j inside := by
    have room := holds.room
    rw [length_cons] at room
    rw [index_succ]
    by_cases wraps : j + 1 = size
    · have first_eq : (first + (j + 1)) % size = first := by
        rw [wraps, add_mod_right, mod_eq_of_lt holds.first_lt]
      rw [first_eq, update_self, getElem?_eq_none (by omega)]
    · have next : j + 1 < size := by omega
      have other : (first + (j + 1)) % size ≠ first := by
        intro same
        have zero := index_inj next (lt_of_le_of_lt (zero_le _) next)
          (same.trans (index_zero holds.first_lt).symm)
        cases zero
      rw [update_of_ne other, holds.filled (j + 1) next, getElem?_cons_succ]

end RingBuffer
