import SamsungHardware.TiledFrames.TiledToLinear

/- The cropping conversions from linear to tiled planes. Whole tiles, the lines below them and
   the columns beside them are written by three loops; `csc_linear_to_tiled_crop` takes the
   last two in pairs of lines, `csc_linear_to_tiled_interleave_crop` line by line. -/
namespace LinearToTiled
open CountedLoop ByteMemory TileAddress TiledToLinear Nat

section

/- `copy m d i j n` writes at `d` the `n` tiled bytes from column `j` of line `i`. -/
variable (copy : Memory → Nat → Nat → Nat → Nat → Memory)

/-- For the lines from `i0` to `i1` in groups of `lines`, and the columns from `j0` to `j1` in
    groups of `n`, copy each line of the group to the place `offset i j r`. -/
def copyTiles (offset : Nat → Nat → Nat → Nat) (i0 i1 lines j0 j1 n : Nat) (m : Memory) : Memory :=
  forUp i0 i1 lines (fun i m => forUp j0 j1 n (fun j m =>
    forUp 0 lines 1 (fun r m => copy m (offset i j r) (i + r) j n) m) m) m

def linearToTiled (lines width height : Nat) (m : Memory) : Memory :=
  let alignedY := (height >>> 5) <<< 5
  let alignedX := (width >>> 6) <<< 6
  -- whole tiles, 32 unrolled copies each
  let m := copyTiles copy (fun i j r => tiledOffset width height i j + 64 * r)
    0 alignedY 32 0 alignedX 64 m
  -- lines below the last whole tile
  let m := copyTiles copy
    (fun i j r => tiledOffset width height i j + 64 * ((i &&& 0x1f) + r))
    alignedY height lines 0 alignedX 64 m
  -- columns right of the last whole tile
  copyTiles copy
    (fun i j r => tiledOffset width height i j + (j &&& 0x3f) + 64 * ((i &&& 0x1f) + r))
    0 height lines alignedX width 2 m

end

def cscLinearToTiledCrop (nv12tDest yuv420Src : Memory) (c : Crop) : Memory :=
  linearToTiled
    (fun m d i j n => memcpy m d yuv420Src (c.left + j + c.width * (i + c.top)) n)
    2 (c.width - c.left - c.right) (c.height - c.top - c.buttom) nv12tDest

def cscInterleaveMemcpy (dest : Memory) (d : Nat) (src1 src2 : Memory) (s srcSize : Nat) : Memory :=
  forUp 0 srcSize 1 (fun i m =>
    Function.update (Function.update m (d + i * 2) (src1 (s + i))) (d + (i * 2 + 1))
      (src2 (s + i))) dest

def cscLinearToTiledInterleaveCrop (nv12tUvDest yuv420USrc yuv420VSrc : Memory) (c : Crop) :
    Memory :=
  linearToTiled
    (fun m d i j n => cscInterleaveMemcpy m d yuv420USrc yuv420VSrc
      (c.left / 2 + j / 2 + c.width / 2 * (i + c.top)) (n / 2))
    1 (c.width - c.left - c.right) (c.height - c.top - c.buttom) nv12tUvDest

def cscLinearToTiledY (yDst ySrc : Memory) (width height : Nat) : Memory :=
  cscLinearToTiledCrop yDst ySrc (wholePlane width height)

def cscLinearToTiledUv (uvDst uSrc vSrc : Memory) (width height : Nat) : Memory :=
  cscLinearToTiledInterleaveCrop uvDst uSrc vSrc (wholePlane width height)

section

variable {width height : Nat} {value : Nat → Nat → UInt8}
  {copy : Memory → Nat → Nat → Nat → Nat → Memory}

def Placed (width height : Nat) (value : Nat → Nat → UInt8) (known : Nat × Nat → Prop)
    (m : Memory) : Prop :=
  ∀ p, known p → p.1 < width → p.2 < height → m (tileAddr width height p.1 p.2) = value p.1 p.2

def WritesLine (width height : Nat) (value : Nat → Nat → UInt8)
    (copy : Memory → Nat → Nat → Nat → Nat → Memory) : Prop :=
  ∀ m d i j n, j % 2 = 0 → n % 2 = 0 → j + n ≤ width → i < height →
    (∀ t < n, copy m d i j n (d + t) = value (j + t) i) ∧
      ∀ a, (∀ t < n, a ≠ d + t) → copy m d i j n a = m a

def Rect (i0 i1 j0 j1 : Nat) (p : Nat × Nat) : Prop := i0 ≤ p.2 ∧ p.2 < i1 ∧ j0 ≤ p.1 ∧ p.1 < j1

variable {m : Memory} {A : Nat × Nat → Prop}

theorem Placed.weaken {A B : Nat × Nat → Prop} (sub : ∀ p, B p → A p)
    (known : Placed width height value A m) : Placed width height value B m :=
  fun p here => known p (sub p here)

section
variable (writes : WritesLine width height value copy)
include writes

section
variable (known : Placed width height value A m)
include known

theorem placed_line {d i j n : Nat} (even : j % 2 = 0) (pairs : n % 2 = 0) (tile : j % 64 + n ≤ 64)
    (columns : j + n ≤ width) (line : i < height) (place : d = tileAddr width height j i) :
    Placed width height value (fun p => A p ∨ Rect i (i + 1) j (j + n) p) (copy m d i j n) := by
  obtain ⟨inside, outside⟩ := writes m d i j n even pairs columns line
  have address (t : Nat) (less : t < n) : d + t = tileAddr width height (j + t) i := by
    rw [place, tileAddr_add (by omega)]
  rintro ⟨x, y⟩ old column row
  by_cases here : ∃ t < n, tileAddr width height x y = d + t
  · obtain ⟨t, less, same⟩ := here
    have point := tileAddr_inj column row (by omega) line (same.trans (address t less))
    rw [same, inside t less, point.1, point.2]
  · rcases old with old | ⟨low, high, first, last⟩
    · rw [outside _ fun t less same => here ⟨t, less, same⟩]
      exact known (x, y) old column row
    · refine absurd ⟨x - j, ?_, ?_⟩ here
      · dsimp only at first last
        omega
      · dsimp only at low high first last
        rw [address (x - j) (by omega), show j + (x - j) = x by omega, show i = y by omega]

theorem placed_group {offset : Nat → Nat} {i j n lines : Nat} (even : j % 2 = 0) (pairs : n % 2 = 0)
    (tile : j % 64 + n ≤ 64) (columns : j + n ≤ width) (bottom : i + lines ≤ height)
    (place : ∀ r < lines, offset r = tileAddr width height j (i + r)) :
    Placed width height value (fun p => A p ∨ Rect i (i + lines) j (j + n) p)
      (forUp 0 lines 1 (fun r m => copy m (offset r) (i + r) j n) m) := by
  refine Placed.weaken ?_ (forUp_collect (fun r => Rect (i + r) (i + r + 1) j (j + n))
    one_pos Placed.weaken known ?_)
  · rintro p (old | ⟨low, high, first, last⟩)
    · exact Or.inl old
    · exact Or.inr ⟨p.2 - i, by omega, by omega, by omega, first, last⟩
  · intro r B s less known
    exact placed_line writes known even pairs tile columns (by omega) (place _ less)

theorem placed_groups {offset : Nat → Nat → Nat} {i lines j0 j1 n : Nat} (filled : 0 < n)
    (blocks : n ∣ j1 - j0) (right : j1 ≤ width) (pairs : n % 2 = 0)
    (even : ∀ b, (j0 + n * b) % 2 = 0 ∧ (j0 + n * b) % 64 + n ≤ 64) (bottom : i + lines ≤ height)
    (place : ∀ b r, r < lines → offset (j0 + n * b) r = tileAddr width height (j0 + n * b) (i + r)) :
    Placed width height value (fun p => A p ∨ Rect i (i + lines) j0 j1 p) (forUp j0 j1 n (fun j m =>
        forUp 0 lines 1 (fun r m => copy m (offset j r) (i + r) j n) m) m) := by
  refine Placed.weaken ?_ (forUp_interval Prod.fst (fun p => i ≤ p.2 ∧ p.2 < i + lines) filled
    Placed.weaken known ?_)
  · intro p covered
    refine covered.imp_right fun inside => ?_
    unfold Rect at inside
    omega
  · intro b B s less known
    refine Placed.weaken ?_ (placed_group writes known (even b).1 pairs (even b).2
      (le_trans (turn_le blocks less) right) bottom (place b))
    intro p covered
    refine covered.imp_right fun inside => ?_
    unfold Rect
    omega

theorem placed_rect {offset : Nat → Nat → Nat → Nat} {i0 i1 lines j0 j1 n : Nat} (some : 0 < lines)
    (filled : 0 < n) (groups : lines ∣ i1 - i0) (blocks : n ∣ j1 - j0) (bottom : i1 ≤ height)
    (right : j1 ≤ width) (pairs : n % 2 = 0)
    (even : ∀ b, (j0 + n * b) % 2 = 0 ∧ (j0 + n * b) % 64 + n ≤ 64)
    (place : ∀ a b r, r < lines → offset (i0 + lines * a) (j0 + n * b) r = tileAddr width height (j0 + n * b) (i0 + lines * a + r)) :
    Placed width height value (fun p => A p ∨ Rect i0 i1 j0 j1 p)
      (copyTiles copy offset i0 i1 lines j0 j1 n m) := by
  refine Placed.weaken ?_ (forUp_interval Prod.snd (fun p => j0 ≤ p.1 ∧ p.1 < j1) some
    Placed.weaken known ?_)
  · intro p covered
    refine covered.imp_right fun inside => ?_
    unfold Rect at inside
    omega
  · intro a B s less known
    refine Placed.weaken ?_ (placed_groups writes known filled blocks right pairs even
      (le_trans (turn_le groups less) bottom) (place a))
    intro p covered
    refine covered.imp_right fun inside => ?_
    unfold Rect
    omega

end

theorem linearToTiled_placed {lines : Nat} (step : lines = 1 ∨ lines = 2) (even : width % 2 = 0)
    (groups : height % lines = 0) (m : Memory) :
    Placed width height value (fun _ => True) (linearToTiled copy lines width height m) := by
  have line (i : Nat) : i &&& 0x1f = i % 32 := and_two_pow_sub_one_eq_mod i 5
  have column (j : Nat) : j &&& 0x3f = j % 64 := and_two_pow_sub_one_eq_mod j 6
  simp only [linearToTiled, shiftRight_eq_div_pow, shiftLeft_eq, reducePow, line,
    column]
  have start : Placed width height value (fun _ => False) m := fun _ none => none.elim
  intro p _ inside row
  refine placed_rect writes (placed_rect writes (placed_rect writes start
    ?_ ?_ ?_ ?_ ?_ ?_ rfl ?_ ?tiles) ?_ ?_ ?_ ?_ ?_ ?_ rfl ?_ ?below) ?_ ?_ ?_ ?_ ?_ ?_ rfl ?_
    ?beside p ?covered inside row
  case tiles =>
    intro a b r less
    rw [← tiledOffset_line (by omega)]
    omega
  case below =>
    intro a b r less
    rw [← tiledOffset_line (by rcases step with rfl | rfl <;> omega)]
    omega
  case beside =>
    intro a b r less
    exact tiledOffset_line (by rcases step with rfl | rfl <;> omega)
  case covered =>
    unfold Rect
    omega
  all_goals rcases step with rfl | rfl <;> omega

end

theorem memcpy_writesLine (src : Memory) (addr : Nat → Nat → Nat)
    (follow : ∀ x y t, addr (x + t) y = addr x y + t) :
    WritesLine width height (fun x y => src (addr x y))
      fun m d i j n => memcpy m d src (addr j i) n := by
  intro m d i j n _ _ _ _
  refine ⟨fun t less => ?_, fun a outside => memcpy_outside outside⟩
  change memcpy m d src (addr j i) n (d + t) = src (addr (j + t) i)
  rw [memcpy_inside less, follow]

theorem cscInterleaveMemcpy_eq {f u v : Memory} {d s n : Nat}
    (first : ∀ t < n, f (d + t * 2) = u (s + t))
    (second : ∀ t < n, f (d + (t * 2 + 1)) = v (s + t)) (dest : Memory) :
    cscInterleaveMemcpy dest d u v s n = fill d (d + n * 2) f dest := by
  refine forUp_one (P := fun k m => m = fill d (d + k * 2) f dest) (fill_empty d f dest).symm ?_
  intro k m less done
  rw [zero_add] at less
  simp only [zero_add]
  rw [done, ← first k less, ← second k less, update_fill, update_fill, succ_mul]

def interleaved (u v : Memory) (x a : Nat) : UInt8 := if x % 2 = 0 then u a else v a

theorem interleave_writesLine (u v : Memory) (addr : Nat → Nat → Nat)
    (follow : ∀ x y t, x % 2 = 0 → addr (x + t) y = addr x y + t / 2) :
    WritesLine width height (fun x y => interleaved u v x (addr x y))
      fun m d i j n => cscInterleaveMemcpy m d u v (addr j i) (n / 2) := by
  intro m d i j n even pairs _ _
  have distance (t k : Nat) (half : t / 2 = k) : addr (j + (d + t - d)) i = addr j i + k := by
    rw [Nat.add_sub_cancel_left, follow _ _ _ even, half]
  have copied : cscInterleaveMemcpy m d u v (addr j i) (n / 2) = fill d (d + n / 2 * 2)
      (fun a => interleaved u v (j + (a - d)) (addr (j + (a - d)) i)) m :=
    cscInterleaveMemcpy_eq
      (fun t _ => by rw [interleaved, if_pos (by omega), distance _ t (by omega)])
      (fun t _ => by rw [interleaved, if_neg (by omega), distance _ t (by omega)]) m
  simp only [copied, fill]
  constructor
  · intro t less
    rw [if_pos (by omega), Nat.add_sub_cancel_left]
  · intro a outside
    rw [if_neg]
    rintro ⟨low, high⟩
    exact outside (a - d) (by omega) (by omega)

end

variable {c : Crop} {x y : Nat}

/-- Every byte of the window is stored at its place in the tiled plane of the window. -/
theorem cscLinearToTiledCrop_at (even : (c.width - c.left - c.right) % 2 = 0)
    (pairs : (c.height - c.top - c.buttom) % 2 = 0) (dest src : Memory)
    (column : x < c.width - c.left - c.right) (row : y < c.height - c.top - c.buttom) :
    cscLinearToTiledCrop dest src c
        (tileAddr (c.width - c.left - c.right) (c.height - c.top - c.buttom) x y) =
      src (c.left + x + c.width * (y + c.top)) := by
  have writes : WritesLine (c.width - c.left - c.right) (c.height - c.top - c.buttom) _ _ :=
    memcpy_writesLine src (fun x y => c.left + x + c.width * (y + c.top)) (fun x y t => by omega)
  exact linearToTiled_placed writes (Or.inr rfl) even pairs dest (x, y) trivial column row

theorem cscLinearToTiledInterleaveCrop_at (even : (c.width - c.left - c.right) % 2 = 0)
    (dest u v : Memory) (column : x < c.width - c.left - c.right)
    (row : y < c.height - c.top - c.buttom) :
    cscLinearToTiledInterleaveCrop dest u v c
        (tileAddr (c.width - c.left - c.right) (c.height - c.top - c.buttom) x y) =
      interleaved u v x (c.left / 2 + x / 2 + c.width / 2 * (y + c.top)) := by
  have writes : WritesLine (c.width - c.left - c.right) (c.height - c.top - c.buttom) _ _ :=
    interleave_writesLine u v (fun x y => c.left / 2 + x / 2 + c.width / 2 * (y + c.top))
      (fun x y t _ => by omega)
  exact linearToTiled_placed writes (Or.inl rfl) even (mod_one _) dest (x, y) trivial column row

end LinearToTiled
