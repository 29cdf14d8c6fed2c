import Mathlib

/- Items that pass from a client to a keeper and back, over and over. Every item that the keeper
   accepted is inside the keeper once or has been returned; while it is offered it is not
   inside. The four lists of a custody are histories or multisets: only counts matter. -/
namespace Custody
open List

variable {α : Type} [DecidableEq α]

structure Balanced (accepted offered inside returned : List α) : Prop where
  balance : ∀ item, accepted.count item = inside.count item + returned.count item
  single : ∀ item, inside.count item + offered.count item ≤ 1

variable {accepted offered inside inside' returned : List α} {item : α}

theorem Balanced.start : Balanced ([] : List α) [] [] [] where
  balance _ := rfl
  single _ := Nat.zero_le 1

variable (balanced : Balanced accepted offered inside returned)
include balanced

theorem Balanced.offer (fresh : item ∉ offered) (back : accepted.count item = returned.count item) :
    Balanced accepted (item :: offered) inside returned where
  balance := balanced.balance
  single other := by
    have single := balanced.single other
    have balance := balanced.balance item
    by_cases same : item = other
    · subst same
      rw [count_cons_self, count_eq_zero_of_not_mem fresh]
      omega
    · rw [count_cons_of_ne same]
      exact single

theorem Balanced.refuse :
    Balanced accepted (offered.erase item) inside returned where
  balance := balanced.balance
  single other := Nat.le_trans
    (Nat.add_le_add_left (List.Sublist.count_le other (erase_sublist)) _)
    (balanced.single other)

theorem Balanced.accept (member : item ∈ offered) (inserted : inside'.Perm (item :: inside)) :
    Balanced (accepted ++ [item]) (offered.erase item) inside' returned where
  balance other := by
    have balance := balanced.balance other
    rw [inserted.count_eq, count_append, count_singleton, count_cons]
    omega
  single other := by
    have single := balanced.single other
    rw [inserted.count_eq, count_cons, count_erase]
    have positive := count_pos_iff.mpr member
    by_cases same : item = other
    · subst same
      simp
      omega
    · simp [same]
      exact single

theorem Balanced.giveBack (removed : inside.Perm (item :: inside')) :
    Balanced accepted offered inside' (returned ++ [item]) where
  balance other := by
    have balance := balanced.balance other
    rw [removed.count_eq, count_cons] at balance
    rw [count_append, count_singleton]
    omega
  single other := by
    have single := balanced.single other
    rw [removed.count_eq, count_cons] at single
    omega

theorem Balanced.move (moved : inside'.Perm inside) : Balanced accepted offered inside' returned where
  balance other := by rw [moved.count_eq]; exact balanced.balance other
  single other := by rw [moved.count_eq]; exact balanced.single other

end Custody
