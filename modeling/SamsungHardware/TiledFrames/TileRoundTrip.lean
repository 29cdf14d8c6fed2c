import SamsungHardware.TiledFrames.CropRefinement
import SamsungHardware.TiledFrames.LinearToTiled

/- A plane that was tiled by one of the encoders and read back by the whole-plane decoders.
   Every byte is written at `tileAddr` and read at `columnOf`; the two agree unless the plane is
   narrow, and so read through `tile_4x2_read`, and has more rows than its eight bit number of
   tile row pairs can tell apart. -/
namespace TileRoundTrip
open CountedLoop ByteMemory TileAddress TiledToLinear LinearToTiled CropRefinement Nat

def Addressable (width height : Nat) : Prop := width < 256 → height ≤ 16384

instance (width height : Nat) : Decidable (Addressable width height) := by
  unfold Addressable; infer_instance

variable {width height : Nat}

section

variable (even : width % 2 = 0)
include even

theorem wholePlane_even (columns : 0 < width) (rows : 0 < height) :
    EvenWindow (wholePlane width height) :=
  ⟨even, rfl, rfl, columns, rows⟩

variable (reach : Addressable width height)
include reach

theorem columnOf_whole {x y : Nat} (column : x < width) (row : y < height) :
    columnOf (wholePlane width height) y x = tileAddr width height x y := by
  by_cases wide : 256 ≤ width
  · exact congrFun (columnOf_wide (c := wholePlane width height) wide y) x
  · have lines := reach (by omega)
    have valid : EvenWindow (wholePlane width height) :=
      wholePlane_even even (by omega) (by omega)
    have short : ¬ LongTail (wholePlane width height) := by
      rintro ⟨_, small, long⟩
      change 256 < 0 % 64 + _ at long
      omega
    have here : InWindow (wholePlane width height) y x := ⟨zero_le _, row, zero_le _, column⟩
    have read := columnOf_eq valid short (by change width ≤ 16384; omega) lines here
    have same : readAddr width height x y = tileAddr width height x y :=
      readAddr_tileAddr row (by omega) (by omega) (by omega)
    exact read.trans same

theorem sourceOf_whole {a : Nat} (inside : a < width * height) :
    sourceOf (wholePlane width height) a = tileAddr width height (a % width) (a / width) := by
  have positive : 0 < width := Nat.pos_of_mul_pos_right (by omega : 0 < _ * height)
  have read := columnOf_whole even reach (Nat.mod_lt a positive) (Nat.div_lt_of_lt_mul inside)
  rw [sourceOf]
  change columnOf (wholePlane width height) (0 + a / width) (0 + a % width) = _
  rw [zero_add, zero_add, read]

omit reach in
omit even in
theorem tiledToLinear_empty {Dest : Type} (scale : Nat) (copy : Dest → Nat → Nat → Nat → Dest)
    (empty : width = 0 ∨ height = 0) (dest : Dest) :
    tiledToLinear scale copy (wholePlane width height) dest = dest := by
  rcases empty with rfl | rfl
  · refine forUp_one (P := fun _ m => m = dest) rfl ?_
    rintro n m _ rfl
    exact congrArg Reader.dest (forUp_none (by omega) (le_refl 0) _ _)
  · exact forUp_none one_pos (le_refl 0) _ _

omit reach in
omit even in
def Stored (width height : Nat) (image src : Memory) : Prop :=
  ∀ x < width, ∀ y < height, src (tileAddr width height x y) = image (width * y + x)

variable {image src : Memory}

theorem read_stored (stored : Stored width height image src) {a : Nat} (inside : a < width * height) :
    src (sourceOf (wholePlane width height) a) = image a := by
  have positive : 0 < width := Nat.pos_of_mul_pos_right (by omega : 0 < _ * height)
  rw [sourceOf_whole even reach inside,
    stored _ (Nat.mod_lt a positive) _ (Nat.div_lt_of_lt_mul inside), Nat.div_add_mod]

omit reach in
theorem empty_or_even (height : Nat) :
    (width = 0 ∨ height = 0) ∨ EvenWindow (wholePlane width height) := by
  by_cases empty : width = 0 ∨ height = 0
  · exact Or.inl empty
  · exact Or.inr (wholePlane_even even (by omega) (by omega))

theorem cscTiledToLinearCrop_whole (stored : Stored width height image src) (dest : Memory) :
    cscTiledToLinearCrop dest src (wholePlane width height) =
      fill 0 (width * height) image dest := by
  rcases empty_or_even even height with empty | valid
  · have none : width * height = 0 := Nat.mul_eq_zero.mpr empty
    rw [cscTiledToLinearCrop, tiledToLinear_empty _ _ empty, none, fill_empty]
  · rw [cscTiledToLinearCrop_eq valid]
    exact fill_congr (fun a inside => read_stored even reach stored inside) dest

theorem cscTiledToLinearDeinterleaveCrop_whole (stored : Stored width height image src)
    (u v : Memory) :
    cscTiledToLinearDeinterleaveCrop u v src (wholePlane width height) =
      (fill 0 (width / 2 * height) (fun a => image (2 * a)) u,
        fill 0 (width / 2 * height) (fun a => image (2 * a + 1)) v) := by
  have double : width * height = 2 * (width / 2 * height) := by
    rw [← Nat.mul_assoc, Nat.mul_div_cancel' (Nat.dvd_of_mod_eq_zero even)]
  have read {a : Nat} := read_stored even reach stored (a := a)
  generalize width / 2 * height = half at double ⊢
  rcases empty_or_even even height with empty | valid
  · have none : half = 0 := by
      have := Nat.mul_eq_zero.mpr empty
      omega
    rw [cscTiledToLinearDeinterleaveCrop, tiledToLinear_empty _ _ empty, none, fill_empty,
      fill_empty]
  · have size : realWidth (wholePlane width height) * realHeight (wholePlane width height) / 2 =
        half := by
      change width * height / 2 = half
      omega
    rw [cscTiledToLinearDeinterleaveCrop_eq valid, size]
    exact Prod.ext (fill_congr (fun a _ => read (by omega)) u)
      (fill_congr (fun a _ => read (by omega)) v)

end

section

variable {c : Crop}

def cropped (c : Crop) (src : Memory) (a : Nat) : UInt8 :=
  src (c.left + a % (c.width - c.left - c.right) +
    c.width * (a / (c.width - c.left - c.right) + c.top))

theorem crop_stored (valid : EvenWindow c) (pairs : (c.height - c.top - c.buttom) % 2 = 0)
    (tiled src : Memory) :
    Stored (c.width - c.left - c.right) (c.height - c.top - c.buttom) (cropped c src)
      (cscLinearToTiledCrop tiled src c) := by
  intro x column y row
  obtain ⟨even, left, right, columns, _⟩ := valid
  rw [cscLinearToTiledCrop_at (by omega) pairs tiled src column row, cropped, mul_add_div
    (by omega), mul_add_mod, div_eq_of_lt column, mod_eq_of_lt column, add_zero]

theorem cropped_whole (width height : Nat) (src : Memory) :
    cropped (wholePlane width height) src = src := by
  funext a
  change src (0 + a % width + width * (a / width + 0)) = src a
  rw [zero_add, add_zero, mod_add_div]

/-- Reading back the plane that was tiled from a window gives the image of the window; the
    whole plane comes back unchanged. No offset leaves the range of `unsigned int`. -/
theorem luma_round_trip (c : Crop) (valid : EvenWindow c) (top : c.top % 2 = 0)
    (height : c.height % 2 = 0) (buttom : c.buttom % 2 = 0) (columns : c.width ≤ 16384)
    (rows : c.height ≤ 16384) (src tiled dest : Memory) :
    cscTiledToLinearY dest (cscLinearToTiledCrop tiled src c) (c.width - c.left - c.right)
        (c.height - c.top - c.buttom) =
      fill 0 ((c.width - c.left - c.right) * (c.height - c.top - c.buttom)) (cropped c src) dest ∧
    cscTiledToLinearY dest (cscLinearToTiledY tiled src c.width c.height) c.width c.height =
      fill 0 (c.width * c.height) src dest ∧
    ∀ x < c.width, ∀ y < c.height, tileAddr c.width c.height x y < 2 ^ 32 := by
  refine ⟨?_, ?_, ?_⟩
  · have stored := crop_stored valid (by omega) tiled src
    obtain ⟨even, left, right, _, _⟩ := valid
    exact cscTiledToLinearCrop_whole (by omega) (fun _ => by omega) stored dest
  · have whole : EvenWindow (wholePlane c.width c.height) :=
      wholePlane_even valid.width (zero_lt_of_lt valid.columns) (zero_lt_of_lt valid.rows)
    have stored := crop_stored whole height tiled src
    rw [cropped_whole] at stored
    exact cscTiledToLinearCrop_whole valid.width (fun _ => rows) stored dest
  · intro x column y row
    have plane : (c.width + 127) / 128 * 128 * ((c.height + 31) / 32 * 32) ≤ 16384 * 16384 :=
      Nat.mul_le_mul (by omega) (by omega)
    exact Nat.lt_of_lt_of_le (tileAddr_lt column row) (Nat.le_trans plane (by decide))

/-- A frame of 1920 by 1080 pixels, cut to columns 62 to 461 and rows 2 to 1075. -/
theorem luma_round_trip_window :
    EvenWindow ⟨1920, 1080, 62, 2, 1458, 4⟩ ∧ ∃ src : Memory, src 3902 = 7 ∧
      cscTiledToLinearY (fun _ => 0)
        (cscLinearToTiledCrop (fun _ => 0) src ⟨1920, 1080, 62, 2, 1458, 4⟩) 400 1074 =
      fill 0 (400 * 1074) (cropped ⟨1920, 1080, 62, 2, 1458, 4⟩ src) (fun _ => 0) := by
  have valid : EvenWindow ⟨1920, 1080, 62, 2, 1458, 4⟩ := by constructor <;> decide
  refine ⟨valid, fun a => if a = 3902 then 7 else 0, rfl, ?_⟩
  exact (luma_round_trip ⟨1920, 1080, 62, 2, 1458, 4⟩ valid rfl rfl rfl (by decide) (by decide)
    _ _ _).1

end

theorem interleaved_stored (even : width % 2 = 0) (tiled u v : Memory) :
    Stored width height (fun a => interleaved u v a (a / 2))
      (cscLinearToTiledUv tiled u v width height) := by
  intro x column y row
  have placed := cscLinearToTiledInterleaveCrop_at (c := wholePlane width height) even tiled u v
    column row
  have double : width * y = 2 * (width / 2 * y) := by
    rw [← Nat.mul_assoc, Nat.mul_div_cancel' (Nat.dvd_of_mod_eq_zero even)]
  refine placed.trans ?_
  change interleaved u v x (0 / 2 + x / 2 + width / 2 * (y + 0)) = _
  simp only [add_zero, double, interleaved]
  generalize width / 2 * y = row
  rw [show (2 * row + x) % 2 = x % 2 by omega, show (2 * row + x) / 2 = 0 / 2 + x / 2 + row by omega]

/-- The two planes come back from the tiled chroma plane, apart or interleaved, and none of
    the offsets leaves the range of `unsigned int`. -/
theorem chroma_round_trip (width height : Nat) (even : width % 2 = 0)
    (reach : Addressable width height)
    (fits : (width + 127) / 128 * 128 * ((height + 31) / 32 * 32) ≤ 2 ^ 32)
    (u v tiled uDst vDst uvDst : Memory) :
    cscTiledToLinearUvDeinterleave uDst vDst (cscLinearToTiledUv tiled u v width height) width
        height =
      (fill 0 (width / 2 * height) u uDst, fill 0 (width / 2 * height) v vDst) ∧
    cscTiledToLinearUv uvDst (cscLinearToTiledUv tiled u v width height) width height =
      fill 0 (width * height) (fun a => if a % 2 = 0 then u (a / 2) else v (a / 2)) uvDst ∧
    ∀ x < width, ∀ y < height, tileAddr width height x y < 2 ^ 32 := by
  have stored : Stored width height _ _ := interleaved_stored even tiled u v
  refine ⟨?_, cscTiledToLinearCrop_whole even reach stored uvDst, ?_⟩
  · have apart := cscTiledToLinearDeinterleaveCrop_whole even reach stored uDst vDst
    have first (a : Nat) : interleaved u v (2 * a) (2 * a / 2) = u a := by
      rw [interleaved, if_pos (by omega), Nat.mul_div_cancel_left a (by omega)]
    have second (a : Nat) : interleaved u v (2 * a + 1) ((2 * a + 1) / 2) = v a := by
      rw [interleaved, if_neg (by omega), show (2 * a + 1) / 2 = a by omega]
    simp only [first, second] at apart
    exact apart
  · intro x column y row
    exact lt_of_lt_of_le (tileAddr_lt column row) fits

/-- A narrow plane with an odd number of rows. -/
theorem chroma_round_trip_narrow : Addressable 34 4095 ∧ ∃ u v : Memory, u 0 ≠ v 0 ∧
    cscTiledToLinearUvDeinterleave (fun _ => 9) (fun _ => 9)
        (cscLinearToTiledUv (fun _ => 9) u v 34 4095) 34 4095 =
      (fill 0 (17 * 4095) u (fun _ => 9), fill 0 (17 * 4095) v (fun _ => 9)) := by
  refine ⟨by decide, fun _ => 1, fun _ => 2, by decide, ?_⟩
  exact (chroma_round_trip 34 4095 rfl (by decide) (by decide) _ _ _ _ _ (fun _ => 0)).1

/-- In a plane of two columns row 16384 is read from the first tile: its byte, the only
    non-zero one of the plane, is lost. -/
theorem narrow_plane_row_16384_lost :
    cscTiledToLinearUvDeinterleave (fun _ => 0) (fun _ => 0)
        (cscLinearToTiledUv (fun _ => 0) (fun a => if a = 16384 then 1 else 0) (fun _ => 0)
          2 16386) 2 16386 ≠
      (fill 0 (2 / 2 * 16386) (fun a => if a = 16384 then 1 else 0) (fun _ => 0),
        fill 0 (2 / 2 * 16386) (fun _ => 0) (fun _ => 0)) := by
  intro same
  have valid : EvenWindow (wholePlane 2 16386) := by constructor <;> decide
  have read : sourceOf (wholePlane 2 16386) (2 * 16384) = tileAddr 2 16386 0 0 := by decide
  have stored : Stored 2 16386 _ _ := interleaved_stored rfl (fun _ => 0)
    (fun a => if a = 16384 then 1 else 0) (fun _ => 0)
  have first := stored 0 (by omega) 0 (by omega)
  have lost := congrFun (congrArg Prod.fst same) 16384
  rw [cscTiledToLinearUvDeinterleave, cscTiledToLinearDeinterleaveCrop_eq valid] at lost
  simp only [fill, read, first] at lost
  exact absurd lost (by decide)

end TileRoundTrip
