import SamsungHardware.TiledFrames.TiledToLinear

/- The fast conversion against the address function of a single byte. A window of 64 to 255
   bytes is read with one partial tile, at most two whole tiles and one last copy; when that
   copy is longer than a tile it runs into the next line of the same tile. -/
namespace CropRefinement
open ByteMemory TileAddress TiledToLinear Nat

def InWindow (c : Crop) (i x : Nat) : Prop :=
  c.top ≤ i ∧ i < c.height - c.buttom ∧ c.left ≤ x ∧ x < c.width - c.right

def linearPosition (c : Crop) (i x : Nat) : Nat :=
  (i - c.top) * (c.width - c.left - c.right) + (x - c.left)

/-- What the conversion is for: every byte of the window comes from its address, in row
    order, and nothing else is written. -/
structure Refines (c : Crop) (src dest out : Memory) : Prop where
  window : ∀ i x, InWindow c i x →
    out (linearPosition c i x) = src (tile4x2Read c.width c.height x i + x % 4)
  others : ∀ a, (∀ i x, InWindow c i x → a ≠ linearPosition c i x) → out a = dest a

def LongTail (c : Crop) : Prop :=
  64 ≤ realWidth c ∧ realWidth c < 256 ∧ 256 < c.left % 64 + realWidth c

instance (c : Crop) : Decidable (LongTail c) := by unfold LongTail; infer_instance

variable {c : Crop}

theorem linearPosition_eq (c : Crop) (i x : Nat) :
    linearPosition c i x = realWidth c * (i - c.top) + (x - c.left) := by
  rw [linearPosition, realWidth, Nat.sub_right_comm, Nat.mul_comm]

theorem linearPosition_lt {i x : Nat} (inside : InWindow c i x) :
    linearPosition c i x < realWidth c * realHeight c := by
  obtain ⟨top, height, left, width⟩ := inside
  have row : i - c.top + 1 ≤ realHeight c := by rw [realHeight]; omega
  have rows := mul_le_mul_left (realWidth c) row
  rw [linearPosition_eq]
  rw [mul_succ] at rows
  have column : x - c.left < realWidth c := by rw [realWidth]; omega
  omega

theorem linearPosition_of_lt {a : Nat} (inside : a < realWidth c * realHeight c) :
    InWindow c (c.top + a / realWidth c) (c.left + a % realWidth c) ∧
      a = linearPosition c (c.top + a / realWidth c) (c.left + a % realWidth c) := by
  have positive : 0 < realWidth c := Nat.pos_of_mul_pos_right (by omega : 0 < _ * realHeight c)
  have row : a / realWidth c < realHeight c := Nat.div_lt_of_lt_mul inside
  have column := Nat.mod_lt a positive
  have whole := Nat.div_add_mod a (realWidth c)
  constructor
  · generalize a / realWidth c = r, a % realWidth c = x at row column
    rw [realHeight] at row
    rw [realWidth] at column
    unfold InWindow
    omega
  · rw [linearPosition_eq, Nat.add_sub_cancel_left, Nat.add_sub_cancel_left, whole]

section

variable (valid : EvenWindow c)
include valid

theorem crop_at (src dest : Memory) {i x : Nat}
    (inside : InWindow c i x) :
    cscTiledToLinearCrop dest src c (linearPosition c i x) = src (columnOf c i x) := by
  have less := linearPosition_lt inside
  obtain ⟨top, _, left, width⟩ := inside
  rw [cscTiledToLinearCrop_eq valid, fill, if_pos ⟨zero_le _, less⟩, linearPosition_eq,
    sourceOf_row left width, add_sub_of_le top]

theorem tailStart_bounds (middle : 64 ≤ realWidth c) :
    c.left < tailStart c ∧ tailStart c % 64 = 0 ∧
      (realWidth c < 256 → (tailStart c + 64 < c.width - c.right ↔
        256 < c.left % 64 + realWidth c)) := by
  obtain ⟨_, _, _, columns, _⟩ := valid
  have wide : realWidth c = c.width - c.right - c.left := rfl
  unfold tailStart wholeTileEnd
  split_ifs <;> omega

theorem columnOf_eq (short : ¬ LongTail c) (columns : c.width ≤ 16384)
    (rows : c.height ≤ 16384) {i x : Nat} (inside : InWindow c i x) :
    columnOf c i x = readAddr c.width c.height x i := by
  obtain ⟨_, height, left, width⟩ := inside
  by_cases large : 256 ≤ realWidth c
  · rw [columnOf_wide large]
    exact (readAddr_tileAddr (by omega) (by omega) (by omega) (by omega)).symm
  by_cases middle : 64 ≤ realWidth c
  · obtain ⟨_, aligned, long⟩ := tailStart_bounds valid middle
    rw [columnOf_middle large middle, tileColumn]
    by_cases before : x < tailStart c
    · rw [if_pos before]
    · have tail : ¬ 256 < c.left % 64 + realWidth c := fun more => short ⟨middle, by omega, more⟩
      have short := long (by omega)
      rw [if_neg before, ← readAddr_add (by omega), add_sub_of_le (by omega)]
  · rw [columnOf_narrow large middle]

/-- In a too long copy the byte behind the first tile is read one line below its tile. -/
theorem columnOf_wrong (long : LongTail c) :
    InWindow c c.top (tailStart c + 64) ∧
      columnOf c c.top (tailStart c + 64) ≠
        readAddr c.width c.height (tailStart c + 64) c.top := by
  obtain ⟨middle, small, more⟩ := long
  obtain ⟨left, aligned, reach⟩ := tailStart_bounds valid middle
  have inside := (reach small).mpr more
  have rows := valid.rows
  refine ⟨⟨by omega, by omega, by omega, inside⟩, ?_⟩
  rw [columnOf_middle (by omega) middle, tileColumn, if_neg (by omega), Nat.add_sub_cancel_left,
    readAddr_eq, readAddr_eq]
  omega

end

/-- For every even window of a plane of at most 16384 by 16384 bytes, the fast conversion
    agrees with the address function on every source if and only if its rows do not end in a
    copy longer than a tile. -/
theorem crop_refines_iff (c : Crop) (valid : EvenWindow c) (columns : c.width ≤ 16384)
    (rows : c.height ≤ 16384) :
    (∀ src dest, Refines c src dest (cscTiledToLinearCrop dest src c)) ↔ ¬ LongTail c := by
  constructor
  · intro refines long
    obtain ⟨inside, wrong⟩ := columnOf_wrong valid long
    have same := (refines (fun a => if a = readAddr c.width c.height (tailStart c + 64) c.top
      then 1 else 0) (fun _ => 0)).window _ _ inside
    rw [crop_at valid _ _ inside, if_neg wrong, ← readAddr, if_pos rfl] at same
    exact absurd same (by decide)
  · intro short src dest
    constructor
    · intro i x inside
      rw [crop_at valid src dest inside, columnOf_eq valid short columns rows inside, readAddr]
    · intro a outside
      rw [cscTiledToLinearCrop_eq valid, fill, if_neg]
      rintro ⟨_, less⟩
      obtain ⟨inside, same⟩ := linearPosition_of_lt less
      exact outside _ _ inside same

theorem crop_refines_luma : EvenWindow (wholePlane 1920 1080) ∧
    ((∀ src dest, Refines (wholePlane 1920 1080) src dest
        (cscTiledToLinearCrop dest src (wholePlane 1920 1080))) ↔
      ¬ LongTail (wholePlane 1920 1080)) := by
  have valid : EvenWindow (wholePlane 1920 1080) := by constructor <;> decide
  exact ⟨valid, crop_refines_iff _ valid (by decide) (by decide)⟩

/-- A window of 200 bytes from column 62: the byte of column 256 should come from the tile at
    its own address, and is taken from the second line of the tile before it. -/
theorem column_256_from_wrong_tile :
    ¬ Refines ⟨262, 2, 62, 0, 0, 0⟩ (fun a => if a = readAddr 262 2 256 0 then 1 else 0)
      (fun _ => 0) (cscTiledToLinearCrop (fun _ => 0)
        (fun a => if a = readAddr 262 2 256 0 then 1 else 0) ⟨262, 2, 62, 0, 0, 0⟩) := by
  intro refines
  have same := refines.window 0 256 (by unfold InWindow; decide)
  exact absurd same (by decide)

end CropRefinement
