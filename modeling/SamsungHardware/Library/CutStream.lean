import Mathlib

/- A stream that arrives in pieces and leaves in frames. A detector looks at one piece at a time
   for the end of the current frame, and only knows whether something of the frame came with
   earlier pieces. -/
namespace CutStream
open List

variable {α : Type} (find : List α → Bool → Option Nat)

/-- From the bytes held of the current frame and the pieces to come to the frames and what is
    held at the end. -/
inductive Delivers : List α → List (List α) → List (List α) → List α → Prop where
  | done (held : List α) : Delivers held [] [] held
  | more {held piece : List α} {pieces frames : List (List α)} {rest : List α}
      (none : find piece held.isEmpty = none) (after : Delivers (held ++ piece) pieces frames rest) :
      Delivers held (piece :: pieces) frames rest
  | frame {held piece : List α} {pieces frames : List (List α)} {rest : List α} {n : Nat}
      (found : find piece held.isEmpty = some n)
      (after : Delivers [] (piece.drop n :: pieces) frames rest) :
      Delivers held (piece :: pieces) ((held ++ piece.take n) :: frames) rest

variable {find} {held : List α} {pieces frames : List (List α)} {rest : List α}

theorem Delivers.conserved (delivers : Delivers find held pieces frames rest) :
    frames.flatten ++ rest = held ++ pieces.flatten := by
  induction delivers with
  | done held => simp
  | more none after ih => simpa using ih
  | frame found after ih =>
    rw [flatten_cons, append_assoc, ih, nil_append, flatten_cons,
      append_assoc, ← append_assoc (List.take _ _), take_append_drop,
      flatten_cons]

/-- A detector that never ends a frame in front of its first byte, or behind the piece. -/
structure Progresses (find : List α → Bool → Option Nat) : Prop where
  positive : ∀ piece n, find piece true = some n → 0 < n
  inside : ∀ piece empty n, find piece empty = some n → n < piece.length

theorem Delivers.nonempty (progresses : Progresses find)
    (delivers : Delivers find held pieces frames rest) : ∀ frame ∈ frames, frame ≠ [] := by
  induction delivers with
  | done held => intro frame member; cases member
  | more none after ih => exact ih
  | @frame held piece pieces frames rest n found after ih =>
    intro frame member
    rcases mem_cons.mp member with rfl | later
    · cases held with
      | cons byte held => simp
      | nil =>
        have positive := progresses.positive piece n found
        have inside := progresses.inside piece true n found
        rw [nil_append, Ne, take_eq_nil_iff]
        rintro (zero | empty)
        · omega
        · rw [empty] at inside
          cases inside
    · exact ih frame later

theorem length_le_flatten {lists : List (List α)} (nonempty : ∀ list ∈ lists, list ≠ []) :
    lists.length ≤ lists.flatten.length := by
  induction lists with
  | nil => exact Nat.le_refl 0
  | cons list lists ih =>
    have rest := ih fun other member => nonempty other (mem_cons_of_mem _ member)
    have first := length_pos_iff.mpr (nonempty list mem_cons_self)
    rw [length_cons, flatten_cons, length_append]
    omega

theorem Delivers.count (progresses : Progresses find)
    (delivers : Delivers find held pieces frames rest) :
    frames.length ≤ held.length + pieces.flatten.length := by
  have few := length_le_flatten (delivers.nonempty progresses)
  have total := congrArg List.length delivers.conserved
  rw [length_append, length_append] at total
  omega

theorem delivers_exists (progresses : Progresses find) (held : List α) (pieces : List (List α)) :
    ∃ frames rest, Delivers find held pieces frames rest := by
  obtain ⟨m, measure⟩ : ∃ m, 2 * pieces.flatten.length + pieces.length +
      (if held.isEmpty then 0 else 1) = m := ⟨_, rfl⟩
  induction m using Nat.strongRecOn generalizing held pieces with
  | _ m ih =>
    cases pieces with
    | nil => exact ⟨[], held, .done held⟩
    | cons piece pieces =>
      rw [flatten_cons, length_append, length_cons] at measure
      cases search : find piece held.isEmpty with
      | none =>
        have smaller : 2 * pieces.flatten.length + pieces.length +
            (if (held ++ piece).isEmpty then 0 else 1) < m := by
          cases piece with
          | nil => rw [append_nil]; omega
          | cons byte piece =>
            rw [length_cons] at measure
            split_ifs <;> omega
        obtain ⟨frames, rest, after⟩ := ih _ smaller (held ++ piece) pieces rfl
        exact ⟨frames, rest, .more search after⟩
      | some n =>
        have inside := progresses.inside piece _ n search
        have smaller : 2 * (piece.drop n :: pieces).flatten.length +
            (piece.drop n :: pieces).length + (if ([] : List α).isEmpty then 0 else 1) < m := by
          rw [flatten_cons, length_append, length_cons, length_drop]
          cases held with
          | nil =>
            have positive := progresses.positive piece n search
            simp only [isEmpty_nil, if_true] at measure ⊢
            omega
          | cons byte held =>
            rw [if_neg (by simp)] at measure
            simp only [isEmpty_nil, if_true]
            omega
        obtain ⟨frames, rest, after⟩ := ih _ smaller [] (piece.drop n :: pieces) rfl
        exact ⟨_, rest, .frame search after⟩

end CutStream
