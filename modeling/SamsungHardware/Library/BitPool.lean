import Mathlib

/- A machine word as a pool of single-bit tickets, and the list of the tickets that are out.
   `Ledger tickets pool` says that the two agree. -/
namespace BitPool
open List
open BitVec hiding not_and_self

variable {w : Nat}

def IsBit (t : BitVec w) : Prop := ∃ i < w, t = BitVec.twoPow w i

def union (tickets : List (BitVec w)) : BitVec w := tickets.foldr (· ||| ·) 0

structure Ledger (tickets : List (BitVec w)) (pool : BitVec w) : Prop where
  bits : ∀ t ∈ tickets, IsBit t
  distinct : tickets.Nodup
  sum : pool = union tickets

theorem getLsbD_union (tickets : List (BitVec w)) (i : Nat) :
    (union tickets).getLsbD i = tickets.any (·.getLsbD i) := by
  induction tickets with
  | nil => simp [union]
  | cons t tickets ih =>
    rw [any_cons, ← ih]
    exact getLsbD_or

theorem twoPow_inj {i j : Nat} (left : i < w) (same : twoPow w i = twoPow w j) :
    i = j := by
  have bit := congrArg (fun t => t.getLsbD i) same
  simp only [getLsbD_twoPow, left, decide_true, Bool.true_and] at bit
  exact (of_decide_eq_true (Bool.and_eq_true _ _ ▸ bit.symm).2).symm

theorem IsBit.ne_zero {t : BitVec w} (single : IsBit t) : t ≠ 0 := by
  obtain ⟨i, less, rfl⟩ := single
  intro zero
  have bit := congrArg (fun t => t.getLsbD i) zero
  simp [less] at bit

theorem and_bit_eq_self {i : Nat} (less : i < w) (pool : BitVec w) :
    pool &&& twoPow w i = twoPow w i ↔ pool.getLsbD i = true := by
  have nonzero : twoPow w i ≠ 0 := IsBit.ne_zero ⟨i, less, rfl⟩
  rw [and_twoPow]
  cases pool.getLsbD i
  · simpa using nonzero.symm
  · simp

theorem take_give {pool t : BitVec w} (free : pool &&& t = 0) : (pool ||| t) &&& ~~~t = pool := by
  apply eq_of_getLsbD_eq
  intro i less
  have bit := congrArg (fun word => word.getLsbD i) free
  simp only [getLsbD_and] at bit
  rw [getLsbD_and, getLsbD_or, getLsbD_not, decide_eq_true less]
  cases left : pool.getLsbD i <;> cases right : t.getLsbD i <;> simp_all

theorem give_ne {pool t : BitVec w} (within : pool &&& t = t) (nonzero : t ≠ 0) :
    pool &&& ~~~t ≠ pool := by
  intro same
  apply nonzero
  calc t = pool &&& t := within.symm
    _ = pool &&& ~~~t &&& t := by rw [same]
    _ = pool &&& (~~~t &&& t) := BitVec.and_assoc pool _ _
    _ = 0 := by rw [BitVec.not_and_self]; exact BitVec.and_zero

namespace Ledger

variable {front back tickets : List (BitVec w)} {pool t : BitVec w}

theorem empty : Ledger ([] : List (BitVec w)) 0 := ⟨by simp, nodup_nil, rfl⟩

theorem getLsbD_pool (ledger : Ledger tickets pool) {i : Nat} (less : i < w) :
    pool.getLsbD i = true ↔ twoPow w i ∈ tickets := by
  rw [ledger.sum, getLsbD_union, any_eq_true]
  constructor
  · rintro ⟨t, member, bit⟩
    obtain ⟨j, _, rfl⟩ := ledger.bits t member
    rw [getLsbD_twoPow, Bool.and_eq_true, decide_eq_true_iff, decide_eq_true_iff] at bit
    rw [← bit.2]
    exact member
  · intro member
    exact ⟨_, member, by simp [less]⟩

theorem mem_iff (ledger : Ledger tickets pool) (single : IsBit t) :
    t ∈ tickets ↔ pool &&& t = t := by
  obtain ⟨i, less, rfl⟩ := single
  rw [and_bit_eq_self less, ledger.getLsbD_pool less]

theorem fresh (ledger : Ledger tickets pool) (single : IsBit t) (free : pool &&& t = 0) :
    t ∉ tickets := by
  intro member
  rw [ledger.mem_iff single, free] at member
  exact single.ne_zero member.symm

theorem insert (ledger : Ledger (front ++ back) pool) (single : IsBit t)
    (free : pool &&& t = 0) : Ledger (front ++ t :: back) (pool ||| t) := by
  have new := ledger.fresh single free
  obtain ⟨bits, distinct, sum⟩ := ledger
  refine ⟨?_, ?_, ?_⟩
  · intro u member
    rcases mem_append.mp member with old | here
    · exact bits u (mem_append_left _ old)
    · rcases mem_cons.mp here with rfl | old
      · exact single
      · exact bits u (mem_append_right _ old)
  · exact nodup_middle.mpr (nodup_cons.mpr ⟨new, distinct⟩)
  · apply eq_of_getLsbD_eq
    intro i _
    rw [getLsbD_or, sum, getLsbD_union, getLsbD_union]
    simp only [any_append, any_cons]
    grind

theorem remove (ledger : Ledger (front ++ t :: back) pool) :
    Ledger (front ++ back) (pool &&& ~~~t) := by
  have here : t ∈ front ++ t :: back := by simp
  have single := ledger.bits t here
  have split := nodup_cons.mp (nodup_middle.mp ledger.distinct)
  have rest : ∀ u ∈ front ++ back, IsBit u := by
    intro u member
    refine ledger.bits u ?_
    simp only [mem_append, mem_cons] at member ⊢
    tauto
  have after : Ledger (front ++ back) (union (front ++ back)) := ⟨rest, split.2, rfl⟩
  refine ⟨rest, split.2, ?_⟩
  apply eq_of_getLsbD_eq
  intro i less
  have old := ledger.getLsbD_pool less
  have new := after.getLsbD_pool less
  obtain ⟨j, inside, rfl⟩ := single
  rw [Bool.eq_iff_iff, new, getLsbD_and, Bool.and_eq_true, old]
  by_cases same : i = j
  · subst same
    simp [split.1, less]
  · have other : twoPow w i ≠ twoPow w j := fun eq => same (twoPow_inj less eq)
    simp [other, less, same]

theorem length_lt (ledger : Ledger tickets pool) (single : IsBit t) (free : pool &&& t = 0) :
    tickets.length < w := by
  have new := ledger.fresh single free
  have subset : t :: tickets ⊆ (List.range w).map (twoPow w) := by
    intro u member
    have bit : IsBit u := by
      rcases mem_cons.mp member with rfl | old
      · exact single
      · exact ledger.bits u old
    obtain ⟨i, less, rfl⟩ := bit
    exact mem_map.mpr ⟨i, mem_range.mpr less, rfl⟩
  have bound := (nodup_cons.mpr ⟨new, ledger.distinct⟩).length_le_of_subset subset
  rw [length_cons, length_map, length_range] at bound
  exact bound

end Ledger

end BitPool
