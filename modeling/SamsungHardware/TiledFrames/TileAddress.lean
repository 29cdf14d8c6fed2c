import Mathlib

/- Addresses inside an NV12T plane, which stores tiles of 64 by 32 bytes in Z order over pairs
   of tile rows. `tile4x2Read` is the bit-level address function of swconvertor.c and
   color_space_convertor.c; `tiledOffset` is the tile formula that the other conversion
   functions repeat. Offsets are `unsigned int` in the source and do not wrap for planes of
   at most 2^32 bytes. -/
namespace TileAddress
open Nat

def tile4x2Read (xSize ySize xPos yPos : Nat) : Nat :=
  let pixelXM1 := xSize - 1
  let pixelYM1 := ySize - 1
  let roundupX := (pixelXM1 >>> 7) + 1
  let xAddr := xPos >>> 2
  let linearAddr0 := ((yPos &&& 0x1f) <<< 4) ||| (xAddr &&& 0xf)
  let linearAddr1 :=
    if ySize ≤ yPos + 32 ∧ yPos < ySize ∧ (pixelYM1 >>> 5) &&& 0x1 = 0 ∧
        (yPos >>> 5) &&& 0x1 = 0 then
      ((yPos >>> 6) &&& 0xff) * roundupX + ((xAddr >>> 6) &&& 0x3f)
    else ((yPos >>> 6) &&& 0xff) * roundupX + ((xAddr >>> 5) &&& 0x7f)
  let bankAddr :=
    if (xAddr >>> 5) &&& 0x1 = (yPos >>> 5) &&& 0x1 then (xAddr >>> 4) &&& 0x1
    else 0x2 ||| ((xAddr >>> 4) &&& 0x1)
  (linearAddr1 <<< 13) ||| (bankAddr <<< 11) ||| (linearAddr0 <<< 2)

def xBlockNum (width : Nat) : Nat := ((width + 127) >>> 7) <<< 7 >>> 6

def tiledOffset (width height i j : Nat) : Nat :=
  let x := j >>> 6
  let y := i >>> 5
  if y &&& 0x1 = 1 then
    -- odd
    ((y - 1) * xBlockNum width + x + 2 + ((x >>> 2) <<< 2)) <<< 11
  else if i + 32 < ((height + 31) >>> 5) <<< 5 then
    -- even1
    (x + (((x + 2) >>> 2) <<< 2) + y * xBlockNum width) <<< 11
  else
    -- even2
    (y * xBlockNum width + x) <<< 11

variable (width height x y : Nat)

def tileAddr : Nat :=
  tiledOffset width height y x + 64 * (y % 32) + x % 64

def tileIndex : Nat :=
  if y % 2 = 1 then (y - 1) * (2 * ((width + 127) / 128)) + x + 2 + x / 4 * 4
  else if y + 1 < (height + 31) / 32 then
    x + (x + 2) / 4 * 4 + y * (2 * ((width + 127) / 128))
  else y * (2 * ((width + 127) / 128)) + x

theorem xBlockNum_eq (width : Nat) : xBlockNum width = 2 * ((width + 127) / 128) := by
  simp only [xBlockNum, shiftRight_eq_div_pow, shiftLeft_eq]
  omega

theorem tiledOffset_eq (width height i j : Nat) :
    tiledOffset width height i j = tileIndex width height (j / 64) (i / 32) * 2048 := by
  have even : (i + 32 < (height + 31) / 32 * 32) ↔ i / 32 + 1 < (height + 31) / 32 := by omega
  simp only [tiledOffset, tileIndex, xBlockNum_eq, shiftRight_eq_div_pow, shiftLeft_eq,
    and_one_is_mod, reducePow, even]
  split_ifs <;> rfl

theorem tileAddr_eq :
    tileAddr width height x y =
      tileIndex width height (x / 64) (y / 32) * 2048 + 64 * (y % 32) + x % 64 := by
  rw [tileAddr, tiledOffset_eq]

theorem tileAddr_add {width height x y t : Nat} (inside : x % 64 + t < 64) :
    tileAddr width height (x + t) y = tileAddr width height x y + t := by
  rw [tileAddr_eq, tileAddr_eq, show (x + t) / 64 = x / 64 by omega]
  omega

theorem tiledOffset_line {width height i j r : Nat} (line : i % 32 + r < 32) :
    tiledOffset width height i j + j % 64 + 64 * (i % 32 + r) =
      tileAddr width height j (i + r) := by
  rw [tileAddr_eq, tiledOffset_eq, show (i + r) / 32 = i / 32 by omega]
  omega

theorem tileAddr_line {width height x i r : Nat} (line : i % 32 + r < 32) :
    tileAddr width height x (i + r) = tileAddr width height x i + 64 * r := by
  rw [← tiledOffset_line line, tileAddr]
  omega

def readAddr : Nat := tile4x2Read width height x y + x % 4

def readIndex : Nat :=
  4 * (y / 64 % 256 * ((width - 1) / 128 + 1) +
      if height ≤ y + 32 ∧ y < height ∧ (height - 1) / 32 % 2 = 0 ∧ y / 32 % 2 = 0 then
        x / 4 % 64
      else x / 2 % 128) +
    if x / 2 % 2 = y / 32 % 2 then x % 2 else 2 + x % 2

theorem shift_or {a b k : Nat} (small : b < 2 ^ k) : (a <<< k) ||| b = a * 2 ^ k + b := by
  rw [← shiftLeft_add_eq_or_of_lt small, shiftLeft_eq]

theorem trans_addr_eq {bank line : Nat} (linear : Nat) (banks : bank < 4) (lines : line < 512) :
    (linear <<< 13) ||| (bank <<< 11) ||| (line <<< 2) =
      (4 * linear + bank) * 2048 + 4 * line := by
  have first : (linear <<< 13) ||| (bank <<< 11) = (4 * linear + bank) <<< 11 := by
    rw [shift_or (by rw [shiftLeft_eq]; omega), shiftLeft_eq, shiftLeft_eq]
    omega
  rw [first, shift_or (by rw [shiftLeft_eq]; omega), shiftLeft_eq]
  omega

theorem bank_addr_eq (same : Prop) [Decidable same] (x : Nat) :
    (if same then x &&& 0x1 else 0x2 ||| (x &&& 0x1)) = if same then x % 2 else 2 + x % 2 := by
  rw [and_one_is_mod]
  rcases mod_two_eq_zero_or_one x with even | odd
  · rw [even]; rfl
  · rw [odd]; rfl

theorem readAddr_eq :
    readAddr width height x y =
      readIndex width height (x / 64) y * 2048 + 64 * (y % 32) + x % 64 := by
  have row (a : Nat) : a &&& 0x1f = a % 32 := and_two_pow_sub_one_eq_mod a 5
  have word (a : Nat) : a &&& 0xf = a % 16 := and_two_pow_sub_one_eq_mod a 4
  have pair (a : Nat) : a &&& 0xff = a % 256 := and_two_pow_sub_one_eq_mod a 8
  have quad (a : Nat) : a &&& 0x3f = a % 64 := and_two_pow_sub_one_eq_mod a 6
  have double (a : Nat) : a &&& 0x7f = a % 128 := and_two_pow_sub_one_eq_mod a 7
  have line : ((y &&& 0x1f) <<< 4) ||| ((x >>> 2) &&& 0xf) = y % 32 * 16 + x / 4 % 16 := by
    have small : x / 4 % 16 < 2 ^ 4 := mod_lt _ (by decide)
    rw [row, word, shiftRight_eq_div_pow]
    exact shift_or small
  simp only [readAddr, tile4x2Read, line, bank_addr_eq]
  rw [trans_addr_eq _ (by split <;> omega) (by omega)]
  simp only [readIndex, pair, quad, double, Nat.and_one_is_mod, Nat.shiftRight_eq_div_pow,
    Nat.div_div_eq_div_mul, Nat.reducePow, Nat.reduceMul]
  split_ifs <;> omega

theorem readAddr_add {width height x y t : Nat} (inside : x % 64 + t < 64) :
    readAddr width height (x + t) y = readAddr width height x y + t := by
  rw [readAddr_eq, readAddr_eq, show (x + t) / 64 = x / 64 by omega]
  omega

/-- The field widths of `tile4x2Read` hold rows and columns below 16384; inside a plane it
    then selects the tile of the formula. -/
theorem readIndex_eq {width height x y : Nat} (inside : y < height) (some : 0 < width)
    (columns : x < 256) (rows : y < 16384) :
    readIndex width height x y = tileIndex width height x (y / 32) := by
  have blocks : (width - 1) / 128 + 1 = (width + 127) / 128 := by omega
  have pairs : y / 64 % 256 = y / 32 / 2 := by omega
  have last : (height ≤ y + 32 ∧ y < height ∧ (height - 1) / 32 % 2 = 0 ∧ y / 32 % 2 = 0) ↔
      (y / 32 % 2 = 0 ∧ ¬ y / 32 + 1 < (height + 31) / 32) := by omega
  simp only [readIndex, tileIndex, blocks, pairs, last]
  obtain ⟨n, block⟩ : ∃ n, n = (width + 127) / 128 := ⟨_, rfl⟩
  rw [← block]
  by_cases odd : y / 32 % 2 = 1
  · have half : y / 32 - 1 = 2 * (y / 32 / 2) := by omega
    rw [if_neg (by omega), if_pos odd, half,
      show 2 * (y / 32 / 2) * (2 * n) = 4 * (y / 32 / 2 * n) by ring]
    split_ifs <;> omega
  · have half : y / 32 = 2 * (y / 32 / 2) := by omega
    have product : y / 32 * (2 * n) = 4 * (y / 32 / 2 * n) := by
      conv => lhs; rw [half]
      ring
    rw [if_neg odd, product]
    split_ifs <;> omega

theorem readAddr_tileAddr {width height x y : Nat} (inside : y < height) (some : 0 < width)
    (columns : x < 16384) (rows : y < 16384) :
    readAddr width height x y = tileAddr width height x y := by
  rw [readAddr_eq, tileAddr_eq, readIndex_eq inside some (by omega) rows]

def pairOffset (height x y : Nat) : Nat :=
  if y % 2 = 1 then x + 2 + x / 4 * 4
  else if y + 1 < (height + 31) / 32 then x + (x + 2) / 4 * 4
  else x

theorem tileIndex_split :
    tileIndex width height x y = y / 2 * (4 * ((width + 127) / 128)) + pairOffset height x y := by
  obtain ⟨n, block⟩ : ∃ n, n = (width + 127) / 128 := ⟨_, rfl⟩
  rw [tileIndex, pairOffset, ← block]
  by_cases odd : y % 2 = 1
  · have half : (y - 1) * (2 * n) = y / 2 * (4 * n) := by
      rw [show y - 1 = 2 * (y / 2) by omega]
      ring
    rw [if_pos odd, if_pos odd, half]
    omega
  · have half : y * (2 * n) = y / 2 * (4 * n) := by
      conv => lhs; rw [show y = 2 * (y / 2) by omega]
      ring
    rw [if_neg odd, if_neg odd, half]
    split_ifs <;> omega

theorem pairOffset_lt {width height x y : Nat} (column : x < 2 * ((width + 127) / 128)) :
    pairOffset height x y < 4 * ((width + 127) / 128) := by
  unfold pairOffset
  split_ifs <;> omega

/-- The tiles of the plane are numbered inside its 64-byte columns and 32-line rows. -/
theorem tileIndex_lt {width height x y : Nat} (column : x < 2 * ((width + 127) / 128))
    (row : y < (height + 31) / 32) :
    tileIndex width height x y < 2 * ((width + 127) / 128) * ((height + 31) / 32) := by
  have inside : pairOffset height x y < 4 * ((width + 127) / 128) := pairOffset_lt column
  obtain ⟨n, block⟩ : ∃ n, n = (width + 127) / 128 := ⟨_, rfl⟩
  obtain ⟨m, lines⟩ : ∃ m, m = (height + 31) / 32 := ⟨_, rfl⟩
  rw [tileIndex_split, ← block, ← lines]
  rw [← block] at column inside
  rw [← lines] at row
  by_cases paired : y / 2 + 1 ≤ m / 2
  · have room : (y / 2 + 1) * (4 * n) ≤ m / 2 * (4 * n) := mul_le_mul_right _ paired
    have total : m / 2 * (4 * n) ≤ 2 * n * m := by
      calc m / 2 * (4 * n) = 2 * n * (2 * (m / 2)) := by ring
        _ ≤ 2 * n * m := mul_le_mul_left _ (by omega)
    rw [succ_mul] at room
    omega
  · -- The last row has no partner.
    have alone : pairOffset height x y = x := by
      rw [pairOffset, if_neg (by omega), if_neg (by omega)]
    have total : 2 * n * m = y / 2 * (4 * n) + 2 * n := by
      rw [show m = 2 * (y / 2) + 1 by omega]
      ring
    omega

theorem quotient_of_lt {d r : Nat} (small : r < d) (q : Nat) : (q * d + r) / d = q := by
  rw [mul_comm, mul_add_div (by omega), div_eq_of_lt small, add_zero]

theorem tileIndex_inj {width height x y x' y' : Nat}
    (column : x < 2 * ((width + 127) / 128)) (row : y < (height + 31) / 32)
    (column' : x' < 2 * ((width + 127) / 128)) (row' : y' < (height + 31) / 32)
    (same : tileIndex width height x y = tileIndex width height x' y') : x = x' ∧ y = y' := by
  have inside : pairOffset height x y < 4 * ((width + 127) / 128) := pairOffset_lt column
  have inside' : pairOffset height x' y' < 4 * ((width + 127) / 128) := pairOffset_lt column'
  rw [tileIndex_split, tileIndex_split] at same
  have pair : y / 2 = y' / 2 := by
    rw [← quotient_of_lt inside (y / 2), same, quotient_of_lt inside']
  rw [pair] at same
  have offset : pairOffset height x y = pairOffset height x' y' := by omega
  unfold pairOffset at offset
  split_ifs at offset <;> omega

theorem tileAddr_inj {width height x y x' y' : Nat} (column : x < width) (row : y < height)
    (column' : x' < width) (row' : y' < height)
    (same : tileAddr width height x y = tileAddr width height x' y') : x = x' ∧ y = y' := by
  rw [tileAddr_eq, tileAddr_eq] at same
  have tile : tileIndex width height (x / 64) (y / 32) =
      tileIndex width height (x' / 64) (y' / 32) := by omega
  have tiles := tileIndex_inj (by omega) (by omega) (by omega) (by omega) tile
  omega

theorem tileAddr_lt {width height x y : Nat} (column : x < width) (row : y < height) :
    tileAddr width height x y < (width + 127) / 128 * 128 * ((height + 31) / 32 * 32) := by
  have tile : tileIndex width height (x / 64) (y / 32) <
      2 * ((width + 127) / 128) * ((height + 31) / 32) := tileIndex_lt (by omega) (by omega)
  have plane : (width + 127) / 128 * 128 * ((height + 31) / 32 * 32) =
      2 * ((width + 127) / 128) * ((height + 31) / 32) * 2048 := by ring
  rw [tileAddr_eq, plane]
  omega

end TileAddress
