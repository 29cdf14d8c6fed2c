import Mathlib

/- Rounding sizes to a power-of-two page by masks, in wrapping 32-bit arithmetic
   and in exact Nat arithmetic, with the bridge between the two. -/
namespace PageRounding
open Nat

def maskUp (pagesize x : UInt32) : UInt32 :=
  (x + (pagesize - 1)) &&& ~~~(pagesize - 1)

def roundUp (p x : Nat) : Nat := (x + (p - 1)) / p * p

theorem and_high_mask (a k : Nat) (width : k ≤ 32) (bound : a < 2 ^ 32) :
    a &&& (2 ^ 32 - 1 - (2 ^ k - 1)) = a / 2 ^ k * 2 ^ k := by
  have low : 2 ^ k - 1 < 2 ^ 32 := by
    have := Nat.pow_le_pow_right (show 0 < 2 by omega) width
    omega
  apply Nat.eq_of_testBit_eq
  intro i
  rw [Nat.sub_sub, Nat.add_comm, Nat.testBit_and, Nat.testBit_two_pow_sub_succ low,
    Nat.testBit_two_pow_sub_one, ← Nat.shiftRight_eq_div_pow, ← Nat.shiftLeft_eq,
    Nat.testBit_shiftLeft]
  by_cases below : i < k
  · simp [below, not_le.mpr below]
  · have high : k ≤ i := by omega
    simp only [below, high, decide_true, decide_false, Bool.not_false, Bool.and_true,
      Bool.true_and, Nat.testBit_shiftRight, Nat.add_sub_cancel' high]
    by_cases inside : i < 32
    · simp [inside]
    · have outside : a.testBit i = false :=
        Nat.testBit_lt_two_pow (Nat.lt_of_lt_of_le bound
          (Nat.pow_le_pow_right (by omega) (by omega)))
      simp [outside]

variable {k : Nat} {p : Nat}

theorem exponent_le (pagesize : UInt32) (power : pagesize.toNat = 2 ^ k) : k < 32 := by
  have bound := pagesize.toNat_lt
  rw [power] at bound
  exact (Nat.pow_lt_pow_iff_right (by omega)).mp bound

theorem pagemask_toNat (pagesize : UInt32) (power : pagesize.toNat = 2 ^ k) :
    (pagesize - 1).toNat = 2 ^ k - 1 := by
  have positive : 0 < 2 ^ k := Nat.two_pow_pos k
  have bound := pagesize.toNat_lt
  rw [UInt32.toNat_sub, power]
  simp only [UInt32.toNat_one]
  rw [power] at bound
  omega

variable (pagesize x : UInt32)

theorem maskUp_toNat (power : pagesize.toNat = 2 ^ k) :
    (maskUp pagesize x).toNat = (x.toNat + (2 ^ k - 1)) % 2 ^ 32 / 2 ^ k * 2 ^ k := by
  rw [maskUp, UInt32.toNat_and, UInt32.toNat_not, UInt32.toNat_add, pagemask_toNat pagesize power]
  exact and_high_mask _ k (le_of_lt (exponent_le pagesize power)) (mod_lt _ (by decide))

theorem and_pagemask_toNat (power : pagesize.toNat = 2 ^ k) :
    (x &&& (pagesize - 1)).toNat = x.toNat % 2 ^ k := by
  rw [UInt32.toNat_and, pagemask_toNat pagesize power, and_two_pow_sub_one_eq_mod]

theorem roundUp_dvd (p x : Nat) : p ∣ roundUp p x := dvd_mul_left p _

theorem le_roundUp (positive : 0 < p) (x : Nat) : x ≤ roundUp p x := by
  have split := div_add_mod (x + (p - 1)) p
  have small := mod_lt (x + (p - 1)) positive
  rw [roundUp, mul_comm]
  omega

theorem roundUp_le {p x m : Nat} (positive : 0 < p) (multiple : p ∣ m) (reach : x ≤ m) :
    roundUp p x ≤ m := by
  obtain ⟨q, rfl⟩ := multiple
  rw [roundUp, Nat.mul_comm p q]
  apply Nat.mul_le_mul_right
  apply Nat.le_of_lt_succ
  rw [Nat.div_lt_iff_lt_mul positive, Nat.succ_mul, Nat.mul_comm q p]
  omega

theorem roundUp_of_dvd {p x : Nat} (positive : 0 < p) (multiple : p ∣ x) : roundUp p x = x :=
  le_antisymm (roundUp_le positive multiple (le_refl x)) (le_roundUp positive x)

theorem roundUp_eq (positive : 0 < p) (x : Nat) :
    roundUp p x = x + if x % p = 0 then 0 else p - x % p := by
  have small := mod_lt x positive
  have split := div_add_mod x p
  by_cases whole : x % p = 0
  · rw [if_pos whole, roundUp_of_dvd positive (dvd_of_mod_eq_zero whole), add_zero]
  · rw [if_neg whole, roundUp,
      show x + (p - 1) = x % p - 1 + p * (x / p + 1) by rw [mul_add]; omega,
      add_mul_div_left _ _ positive, div_eq_of_lt (by omega), zero_add, add_mul,
      mul_comm]
    omega

/-- The distance to the next page is the same for two sizes exactly when they end at the same
    place in their pages. -/
theorem roundUp_gap (positive : 0 < p) (a b : Nat) :
    b + (roundUp p a - a) = roundUp p b ↔ a % p = b % p := by
  have first := mod_lt a positive
  have second := mod_lt b positive
  rw [roundUp_eq positive a, roundUp_eq positive b]
  split_ifs <;> omega

theorem maskUp_exact (power : pagesize.toNat = 2 ^ k) (small : x.toNat < 2 ^ 31) :
    (maskUp pagesize x).toNat = roundUp (2 ^ k) x.toNat := by
  have half : 2 ^ k ≤ 2 ^ 31 :=
    Nat.pow_le_pow_right (by omega) (by have := exponent_le pagesize power; omega)
  rw [maskUp_toNat pagesize x power, roundUp, Nat.mod_eq_of_lt (by omega)]

theorem maskUp_dvd (power : pagesize.toNat = 2 ^ k) : 2 ^ k ∣ (maskUp pagesize x).toNat := by
  rw [maskUp_toNat pagesize x power]
  exact dvd_mul_left _ _

end PageRounding
