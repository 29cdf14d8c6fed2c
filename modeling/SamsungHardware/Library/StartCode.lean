import Mathlib

/- Start codes in a stream of bytes: 00 00 01, which a third zero in front makes a long one. What
   a scanner has to know of the bytes it has read is their phase; a shift register that holds
   the last four bytes knows it. -/
namespace StartCode
open List Option Nat

/-- How the bytes end: with no zero, one zero, two zeros, more zeros, a start code behind two
    zeros or one behind more. -/
inductive Phase where
  | other | zero | zeros | more | short | long
  deriving DecidableEq, Repr

namespace Phase

variable (phase : Phase) (byte : UInt8)

def push : Phase :=
  if byte = 0 then
    match phase with
    | .zero => .zeros
    | .zeros | .more => .more
    | .other | .short | .long => .zero
  else if byte = 1 then
    match phase with
    | .zeros => .short
    | .more => .long
    | .other | .zero | .short | .long => .other
  else .other

def endsZero : Phase → Bool
  | .zero | .zeros | .more => true
  | .other | .short | .long => false

def endsZeros : Phase → Bool
  | .zeros | .more => true
  | .other | .zero | .short | .long => false

def isCode : Phase → Bool
  | .short | .long => true
  | .other | .zero | .zeros | .more => false

theorem push_endsZero : (phase.push byte).endsZero = true ↔ byte = 0 := by
  unfold push
  split_ifs with zero one <;> cases phase <;> simp [endsZero, zero]

theorem push_endsZeros : (phase.push byte).endsZeros = true ↔ byte = 0 ∧ phase.endsZero = true := by
  unfold push
  split_ifs with zero one <;> cases phase <;> simp [endsZeros, endsZero, zero]

theorem push_more : phase.push byte = .more ↔ byte = 0 ∧ phase.endsZeros = true := by
  unfold push
  split_ifs with zero one <;> cases phase <;> simp [endsZeros, zero]

theorem push_isCode : (phase.push byte).isCode = true ↔ byte = 1 ∧ phase.endsZeros = true := by
  unfold push
  by_cases zero : byte = 0
  · rw [if_pos zero, zero]
    cases phase <;> simp [isCode]
  rw [if_neg zero]
  by_cases one : byte = 1
  · rw [if_pos one]
    cases phase <;> simp [isCode, endsZeros, one]
  · simp [isCode, one]

theorem push_long : phase.push byte = .long ↔ byte = 1 ∧ phase = .more := by
  unfold push
  by_cases zero : byte = 0
  · rw [if_pos zero, zero]
    cases phase <;> simp
  rw [if_neg zero]
  by_cases one : byte = 1
  · rw [if_pos one]
    cases phase <;> simp [one]
  · simp [one]

/-- A byte other than zero behind a start code can be forgotten when another byte follows. -/
theorem push_skip {phase : Phase} (code : phase.isCode = true) {byte : UInt8} (nonzero : byte ≠ 0)
    (next : UInt8) : (phase.push byte).push next = phase.push next := by
  have other : phase.push byte = .other := by
    unfold push
    rw [if_neg nonzero]
    cases phase <;> simp_all [isCode]
  rw [other]
  cases phase <;> simp_all [push, isCode]

end Phase

def phaseAt (bytes : List UInt8) (k : Nat) : Phase := (bytes.take k).foldl Phase.push .other

def CodeAt (bytes : List UInt8) (p : Nat) : Prop :=
  bytes[p]? = some 0 ∧ bytes[p + 1]? = some 0 ∧ bytes[p + 2]? = some 1

section

variable {bytes : List UInt8} {k : Nat} {byte : UInt8}

theorem phaseAt_succ (read : bytes[k]? = some byte) :
    phaseAt bytes (k + 1) = (phaseAt bytes k).push byte := by
  rw [phaseAt, take_add_one, read, toList_some, foldl_append]
  rfl

theorem endsZero_iff (inside : k < bytes.length) :
    (phaseAt bytes (k + 1)).endsZero = true ↔ bytes[k]? = some 0 := by
  rw [phaseAt_succ (getElem?_eq_getElem inside), Phase.push_endsZero,
    getElem?_eq_getElem inside, some_inj]

theorem endsZeros_iff (inside : k + 1 < bytes.length) :
    (phaseAt bytes (k + 2)).endsZeros = true ↔ bytes[k]? = some 0 ∧ bytes[k + 1]? = some 0 := by
  rw [phaseAt_succ (getElem?_eq_getElem inside), Phase.push_endsZeros,
    endsZero_iff (lt_of_succ_lt inside), getElem?_eq_getElem inside, some_inj,
    and_comm]

theorem more_iff (inside : k + 2 < bytes.length) :
    phaseAt bytes (k + 3) = .more ↔
      bytes[k]? = some 0 ∧ bytes[k + 1]? = some 0 ∧ bytes[k + 2]? = some 0 := by
  rw [phaseAt_succ (getElem?_eq_getElem inside), Phase.push_more,
    endsZeros_iff (lt_of_succ_lt inside), getElem?_eq_getElem inside, some_inj,
    and_comm, and_assoc]

theorem isCode_iff (inside : k + 2 < bytes.length) :
    (phaseAt bytes (k + 3)).isCode = true ↔ CodeAt bytes k := by
  rw [phaseAt_succ (getElem?_eq_getElem inside), Phase.push_isCode,
    endsZeros_iff (lt_of_succ_lt inside), CodeAt, getElem?_eq_getElem inside,
    some_inj, and_comm, and_assoc]

theorem three_of_isCode (inside : k ≤ bytes.length) (code : (phaseAt bytes k).isCode = true) :
    3 ≤ k := by
  match k with
  | 0 => cases code
  | 1 =>
    rw [phaseAt_succ (getElem?_eq_getElem inside), Phase.push_isCode] at code
    cases code.2
  | 2 =>
    rw [phaseAt_succ (getElem?_eq_getElem inside), Phase.push_isCode,
      phaseAt_succ (getElem?_eq_getElem (lt_of_succ_lt inside)),
      Phase.push_endsZeros] at code
    cases code.2.2
  | k + 3 => omega

theorem long_iff (inside : k + 2 < bytes.length) (code : CodeAt bytes k) :
    phaseAt bytes (k + 3) = .long ↔ 0 < k ∧ bytes[k - 1]? = some 0 := by
  obtain ⟨first, second, third⟩ := code
  rw [phaseAt_succ third, Phase.push_long]
  cases k with
  | zero =>
    refine iff_of_false ?_ fun positive => absurd positive.1 (Nat.lt_irrefl 0)
    rw [phaseAt_succ second, Phase.push_more, phaseAt_succ first, Phase.push_endsZeros]
    rintro ⟨_, _, _, none⟩
    cases none
  | succ k =>
    rw [more_iff (by omega)]
    simp [first, second]

theorem CodeAt.apart {p q : Nat} (left : CodeAt bytes p) (right : CodeAt bytes q)
    (before : p < q) : p + 3 ≤ q := by
  by_contra close
  have near : q = p + 1 ∨ q = p + 2 := by omega
  rcases near with rfl | rfl
  · cases left.2.2.symm.trans right.2.1
  · cases left.2.2.symm.trans right.1

end

/-- What a register of the last bytes shows in each phase. -/
def Tracks (register : BitVec 32) : Phase → Prop
  | .other => register.toNat % 2 ^ 8 ≠ 0 ∧ register.toNat % 2 ^ 24 ≠ 1
  | .zero => register.toNat % 2 ^ 8 = 0 ∧ register.toNat % 2 ^ 16 ≠ 0
  | .zeros => register.toNat % 2 ^ 16 = 0 ∧ register.toNat % 2 ^ 24 ≠ 0
  | .more => register.toNat % 2 ^ 24 = 0
  | .short => register.toNat % 2 ^ 24 = 1 ∧ register ≠ 1
  | .long => register = 1

def shift (register : BitVec 32) (byte : UInt8) : BitVec 32 :=
  (register <<< 8) + BitVec.ofNat 32 byte.toNat

theorem shift_toNat (register : BitVec 32) (byte : UInt8) :
    (shift register byte).toNat = register.toNat % 2 ^ 24 * 2 ^ 8 + byte.toNat := by
  have small := byte.toNat_lt
  rw [shift, BitVec.toNat_add, BitVec.toNat_shiftLeft, BitVec.toNat_ofNat, shiftLeft_eq]
  omega

variable {register : BitVec 32} {phase : Phase}

theorem Tracks.start : Tracks (BitVec.ofInt 32 (-1)) .other :=
  ⟨by decide, by decide⟩

variable (tracks : Tracks register phase)
include tracks

theorem Tracks.push (byte : UInt8) :
    Tracks (shift register byte) (phase.push byte) := by
  have value := shift_toNat register byte
  have small := byte.toNat_lt
  have zero : byte = 0 ↔ byte.toNat = 0 := by rw [← UInt8.toNat_inj]; rfl
  have one : byte = 1 ↔ byte.toNat = 1 := by rw [← UInt8.toNat_inj]; rfl
  have unit : shift register byte = 1 ↔ (shift register byte).toNat = 1 := by
    rw [← BitVec.toNat_inj]; rfl
  have bound := register.isLt
  unfold Phase.push
  split_ifs with isZero isOne
  · rw [zero] at isZero
    cases phase <;> simp only [Tracks] at tracks ⊢
    case long => subst tracks; simp only [value, isZero]; decide
    all_goals omega
  · rw [one] at isOne
    cases phase <;> simp only [Tracks, unit, ne_eq] at tracks ⊢
    case long => subst tracks; simp only [value, isOne]; decide
    all_goals omega
  · rw [zero] at isZero
    rw [one] at isOne
    simp only [Tracks]
    omega

theorem Tracks.code_iff :
    (register = 1 ∨ register <<< 8 = 0x100) ↔ phase.isCode = true := by
  have unit : register = 1 ↔ register.toNat = 1 := by rw [← BitVec.toNat_inj]; rfl
  have shifted : register <<< 8 = 0x100 ↔ register.toNat % 2 ^ 24 = 1 := by
    have value : (0x100 : BitVec 32).toNat = 2 ^ 8 := rfl
    rw [← BitVec.toNat_inj, BitVec.toNat_shiftLeft, shiftLeft_eq, value]
    omega
  rw [unit, shifted]
  cases phase <;>
    simp only [Tracks, Phase.isCode, unit, ne_eq, Bool.false_eq_true, iff_false, iff_true]
      at tracks ⊢ <;>
    omega

theorem Tracks.long_iff (code : phase.isCode = true) :
    register = 1 ↔ phase = .long := by
  cases phase <;> simp_all [Tracks, Phase.isCode]

end StartCode
