import SamsungHardware.TiledFrames.CropRefinement

/- `csc_tiled_to_linear` of the S5PC110 color_space_convertor.c against the cropping conversion
   of swconvertor.c. It copies 1024, 512, 256, 128 and 64 columns of all lines by unrolled
   loops, each at most once, and the columns that are left four by four; the last two loops
   take four lines at a time. -/
namespace UnrolledTiles
open CountedLoop ByteMemory TileAddress TiledToLinear CropRefinement Nat

structure Offsets where
  (tiled tiled1 tiled2 tiled3 stride : Nat)

def unrolledOffsets (width height aligned i : Nat) : Offsets :=
  let y := i >>> 5
  if y &&& 0x1 = 1 then
    -- odd
    let tiled := ((y - 1) * xBlockNum width + 2 + (aligned >>> 5)) <<< 11
    ⟨tiled, tiled + 2048 * 1, tiled + 2048 * 2, tiled + 2048 * 3, 8⟩
  else
    let tiled := (y * xBlockNum width) <<< 11
    if i + 32 < ((height + 31) >>> 5) <<< 5 then
      let tiled := tiled + ((aligned >>> 5) <<< 11)
      ⟨tiled, tiled + 2048 * 1, tiled + 2048 * 6, tiled + 2048 * 7, 8⟩
    else
      let tiled := tiled + ((aligned >>> 6) <<< 11)
      ⟨tiled, tiled + 2048 * 1, tiled + 2048 * 2, tiled + 2048 * 3, 4⟩

def Offsets.next (o : Offsets) : Offsets :=
  ⟨o.tiled + o.stride * 2048, o.tiled1 + o.stride * 2048, o.tiled2 + o.stride * 2048,
    o.tiled3 + o.stride * 2048, o.stride⟩

section

variable (nv12tSrc : Memory) (width height : Nat)

def copyBlocks (line : Nat) : Nat → Nat → Offsets → Memory → Memory
  | 0, _, _, m => m
  | blocks + 1, d, o, m =>
    let m := memcpy m d nv12tSrc (o.tiled + line) 64
    let m := memcpy m (d + 64 * 1) nv12tSrc (o.tiled1 + line) 64
    let m := memcpy m (d + 64 * 2) nv12tSrc (o.tiled2 + line) 64
    let m := memcpy m (d + 64 * 3) nv12tSrc (o.tiled3 + line) 64
    copyBlocks line blocks (d + 256) o.next m

/-- The loops for 1024, 512 and 256 columns are four, two and one block wide. -/
def blockLines (blocks aligned : Nat) (m : Memory) : Memory :=
  forUp 0 height 1 (fun i m => copyBlocks nv12tSrc (64 * (i &&& 0x1f)) blocks
    (aligned + width * i) (unrolledOffsets width height aligned i) m) m

def pairLines (aligned : Nat) (m : Memory) : Memory :=
  forUp 0 height 2 (fun i m =>
    let o := unrolledOffsets width height aligned i
    let temp1 := i &&& 0x1f
    let m := memcpy m (aligned + width * i) nv12tSrc (o.tiled + 64 * temp1) 64
    let m := memcpy m (aligned + width * i + 64) nv12tSrc (o.tiled1 + 64 * temp1) 64
    let m := memcpy m (aligned + width * (i + 1)) nv12tSrc (o.tiled + 64 * (temp1 + 1)) 64
    memcpy m (aligned + width * (i + 1) + 64) nv12tSrc (o.tiled1 + 64 * (temp1 + 1)) 64) m

def fourLines (n i j : Nat) (m : Memory) : Memory :=
  forUp 0 4 1 (fun r m => memcpy m (j + width * (i + r)) nv12tSrc
    (tiledOffset width height i j + (j &&& 0x3f) + 64 * ((i &&& 0x1f) + r)) n) m

def tileLines (aligned : Nat) (m : Memory) : Memory :=
  forUp 0 height 4 (fun i m => fourLines nv12tSrc width height 64 i aligned m) m

def restColumns (aligned : Nat) (m : Memory) : Memory :=
  forUp 0 height 4 (fun i m =>
    forUp aligned width 4 (fun j m => fourLines nv12tSrc width height 4 i j m) m) m

abbrev Progress := Nat × Memory

def stage (columns : Nat) (copyLines : Nat → Memory → Memory) (p : Progress) : Progress :=
  if columns ≤ width - p.1 then (p.1 + columns, copyLines p.1 p.2) else p

def wideStages (m : Memory) : Progress :=
  let p := stage width 1024 (blockLines nv12tSrc width height 4) (0, m)
  let p := stage width 512 (blockLines nv12tSrc width height 2) p
  let p := stage width 256 (blockLines nv12tSrc width height 1) p
  stage width 128 (pairLines nv12tSrc width height) p

end

def cscTiledToLinear (yuv420Dest nv12tSrc : Memory) (width height : Nat) : Memory :=
  let p := wideStages nv12tSrc width height yuv420Dest
  let p := stage width 64 (tileLines nv12tSrc width height) p
  if width ≠ p.1 then restColumns nv12tSrc width height p.1 p.2 else p.2

variable {width height : Nat} {src dest : Memory} {m : Memory}

section

variable {A : Nat × Nat → Prop}

/-- The columns and lines in `known` are at their linear place, and nothing behind the plane has
    changed. -/
structure Filled (width height : Nat) (src dest : Memory) (known : Nat × Nat → Prop)
    (m : Memory) : Prop where
  placed : ∀ p, known p → p.1 < width → m (p.1 + width * p.2) = src (tileAddr width height p.1 p.2)
  behind : ∀ a, width * height ≤ a → m a = dest a

theorem Filled.weaken {A B : Nat × Nat → Prop} {m : Memory} (sub : ∀ p, B p → A p)
    (known : Filled width height src dest A m) : Filled width height src dest B m :=
  ⟨fun p here => known.placed p (sub p here), known.behind⟩

theorem position_inj {x i x' i' : Nat} (column : x < width) (column' : x' < width)
    (same : x + width * i = x' + width * i') : x = x' ∧ i = i' := by
  have quotient := congrArg (· / width) same
  have remainder := congrArg (· % width) same
  have positive : 0 < width := by omega
  simp only [add_mul_div_left _ _ positive, div_eq_of_lt column,
    div_eq_of_lt column', zero_add] at quotient
  simp only [add_mul_mod_self_left, mod_eq_of_lt column,
    mod_eq_of_lt column'] at remainder
  exact ⟨remainder, quotient⟩

theorem position_lt {x i : Nat} (column : x < width) (row : i < height) :
    x + width * i < width * height := by
  have rows := mul_le_mul_left width (succ_le_of_lt row)
  rw [mul_succ] at rows
  omega

theorem Filled.copy (known : Filled width height src dest A m) {d s x i n : Nat}
    (inside : x % 64 + n ≤ 64 ∧ x + n ≤ width ∧ i < height) (place : d = x + width * i)
    (source : s = tileAddr width height x i) :
    Filled width height src dest (fun p => A p ∨ p.2 = i ∧ x ≤ p.1 ∧ p.1 < x + n)
      (memcpy m d src s n) := by
  subst place source
  constructor
  · intro p here column
    by_cases written : p.2 = i ∧ x ≤ p.1 ∧ p.1 < x + n
    · obtain ⟨line, low, high⟩ := written
      obtain ⟨t, offset⟩ := Nat.exists_eq_add_of_le low
      rw [line, offset, Nat.add_right_comm, memcpy_inside (by omega), tileAddr_add (by omega)]
    · have old : A p := here.resolve_right written
      rw [memcpy_outside]
      · exact known.placed p old column
      · intro t less same
        have point : p.1 = x + t ∧ p.2 = i := position_inj column (by omega) (by omega)
        exact written ⟨point.2, by omega, by omega⟩
  · intro a outside
    rw [memcpy_outside]
    · exact known.behind a outside
    · intro t less same
      have bound := position_lt (by omega : x + t < width) inside.2.2
      omega

structure AtBlock (width height x i : Nat) (o : Offsets) : Prop where
  first : o.tiled + 64 * (i % 32) = tileAddr width height x i
  second : o.tiled1 + 64 * (i % 32) = tileAddr width height (x + 64) i
  third : o.tiled2 + 64 * (i % 32) = tileAddr width height (x + 128) i
  fourth : o.tiled3 + 64 * (i % 32) = tileAddr width height (x + 192) i
  stride : o.stride = blockStride height i

variable {o : Offsets}

theorem AtBlock.next {q i : Nat} (here : AtBlock width height (256 * q) i o) :
    AtBlock width height (256 * (q + 1)) i o.next := by
  obtain ⟨first, second, third, fourth, stride⟩ := here
  obtain ⟨left, right⟩ := tileAddr_next width height q i
  rw [tileAddr_second] at second
  rw [tileAddr_fourth] at fourth
  constructor <;> dsimp only [Offsets.next]
  · rw [left, stride]
    omega
  · rw [tileAddr_second, left, stride]
    omega
  · rw [right, stride]
    omega
  · rw [tileAddr_fourth, right, stride]
    omega
  · exact stride

theorem unrolledOffsets_at (width height q i : Nat) :
    AtBlock width height (256 * q) i (unrolledOffsets width height (256 * q) i) := by
  have even : (i + 32 < (height + 31) / 32 * 32) ↔ i / 32 + 1 < (height + 31) / 32 := by omega
  obtain ⟨n, blocks⟩ : ∃ n, n = (width + 127) / 128 := ⟨_, rfl⟩
  have address (x : Nat) : tileAddr width height x i =
      tileIndex width height (x / 64) (i / 32) * 2048 + 64 * (i % 32) + x % 64 :=
    tileAddr_eq width height x i
  have column0 : 256 * q / 64 = 4 * q := by omega
  have column1 : (256 * q + 64) / 64 = 4 * q + 1 := by omega
  have column2 : (256 * q + 128) / 64 = 4 * q + 2 := by omega
  have column3 : (256 * q + 192) / 64 = 4 * q + 3 := by omega
  constructor <;>
    simp only [unrolledOffsets, address, column0, column1, column2, column3, tileIndex, blockStride,
      shiftRight_eq_div_pow, shiftLeft_eq, and_one_is_mod, xBlockNum_eq, reducePow,
      even, ← blocks] <;> split_ifs <;> dsimp only <;> omega

variable (known : Filled width height src dest A m)
include known

theorem Filled.blocks {blocks q i d : Nat} (here : AtBlock width height (256 * q) i o)
    (row : i < height) (columns : 256 * q + 256 * blocks ≤ width) (place : d = 256 * q + width * i) :
    Filled width height src dest
      (fun p => A p ∨ p.2 = i ∧ 256 * q ≤ p.1 ∧ p.1 < 256 * q + 256 * blocks)
      (copyBlocks src (64 * (i % 32)) blocks d o m) := by
  induction blocks generalizing q d o m A with
  | zero =>
    refine known.weaken ?_
    intro p covered
    rcases covered with old | none
    · exact old
    · omega
  | succ blocks ih =>
    have room : 256 * q + 256 ≤ width :=
      Nat.le_trans (Nat.add_le_add_left (Nat.le_mul_of_pos_right 256 blocks.succ_pos) _) columns
    have tile0 := known.copy (n := 64) (by omega) place here.first
    have tile1 := tile0.copy (x := 256 * q + 64) (d := d + 64 * 1) (n := 64)
      (by omega) (by omega) here.second
    have tile2 := tile1.copy (x := 256 * q + 128) (d := d + 64 * 2) (n := 64)
      (by omega) (by omega) here.third
    have tile3 := tile2.copy (x := 256 * q + 192) (d := d + 64 * 3) (n := 64)
      (by omega) (by omega) here.fourth
    have rest := ih (d := d + 256) tile3 here.next (by omega) (by omega)
    refine rest.weaken ?_
    intro p covered
    rcases covered with old | ⟨line, low, high⟩
    · exact Or.inl (Or.inl (Or.inl (Or.inl (Or.inl old))))
    · omega

omit known in
def InColumns (height x z : Nat) (p : Nat × Nat) : Prop :=
  (x ≤ p.1 ∧ p.1 < z) ∧ 0 ≤ p.2 ∧ p.2 < height

theorem Filled.add_blockLines {blocks q : Nat} (columns : 256 * q + 256 * blocks ≤ width) :
    Filled width height src dest
      (fun p => A p ∨ InColumns height (256 * q) (256 * q + 256 * blocks) p)
      (blockLines src width height blocks (256 * q) m) := by
  refine forUp_interval Prod.snd _ one_pos Filled.weaken known ?_
  intro n B s row known
  have line : (0 + 1 * n) &&& 0x1f = (0 + 1 * n) % 32 := and_two_pow_sub_one_eq_mod _ 5
  rw [line]
  refine (known.blocks (unrolledOffsets_at width height q _) row columns rfl).weaken ?_
  intro p covered
  rcases covered with old | ⟨inside, low, high⟩
  · exact Or.inl old
  · exact Or.inr ⟨by omega, inside⟩

theorem Filled.add_pairLines {q : Nat} (columns : 256 * q + 128 ≤ width) (pairs : height % 2 = 0) :
    Filled width height src dest (fun p => A p ∨ InColumns height (256 * q) (256 * q + 128) p)
      (pairLines src width height (256 * q) m) := by
  refine forUp_interval Prod.snd _ two_pos Filled.weaken known ?_
  intro n B s row known
  obtain ⟨i, index⟩ : ∃ i, i = 0 + 2 * n := ⟨_, rfl⟩
  rw [← index] at row ⊢
  have here := unrolledOffsets_at width height q i
  have line : i &&& 0x1f = i % 32 := and_two_pow_sub_one_eq_mod _ 5
  have below (x : Nat) : tileAddr width height x (i + 1) = tileAddr width height x i + 64 * 1 :=
    tileAddr_line (by omega)
  dsimp only
  rw [line]
  have tile0 := known.copy (n := 64) (by omega) rfl here.first
  have tile1 := tile0.copy (x := 256 * q + 64) (d := 256 * q + width * i + 64) (n := 64)
    (by omega) (by omega) here.second
  have tile2 := tile1.copy (x := 256 * q) (n := 64) (i := i + 1)
    (s := (unrolledOffsets width height (256 * q) i).tiled + 64 * (i % 32 + 1))
    (by omega) rfl (by rw [below, ← here.first]; omega)
  have tile3 := tile2.copy (x := 256 * q + 64) (n := 64) (i := i + 1)
    (d := 256 * q + width * (i + 1) + 64)
    (s := (unrolledOffsets width height (256 * q) i).tiled1 + 64 * (i % 32 + 1))
    (by omega) (by omega) (by rw [below, ← here.second]; omega)
  refine tile3.weaken ?_
  intro p covered
  rcases covered with old | inside
  · exact Or.inl (Or.inl (Or.inl (Or.inl old)))
  · omega

theorem Filled.add_fourLines {n i j : Nat} (tile : j % 64 + n ≤ 64) (columns : j + n ≤ width)
    (rows : i + 4 ≤ height) (group : i % 4 = 0) :
    Filled width height src dest
      (fun p => A p ∨ (j ≤ p.1 ∧ p.1 < j + n) ∧ i ≤ p.2 ∧ p.2 < i + 4)
      (fourLines src width height n i j m) := by
  have line : i &&& 0x1f = i % 32 := and_two_pow_sub_one_eq_mod i 5
  have column : j &&& 0x3f = j % 64 := and_two_pow_sub_one_eq_mod j 6
  have run : Filled width height src dest
      (fun p => A p ∨ (j ≤ p.1 ∧ p.1 < j + n ∧ i ≤ p.2) ∧ 0 ≤ p.2 - i ∧ p.2 - i < 4)
      (fourLines src width height n i j m) := by
    refine forUp_interval (fun p : Nat × Nat => p.2 - i)
      (fun p => j ≤ p.1 ∧ p.1 < j + n ∧ i ≤ p.2) one_pos Filled.weaken known ?_
    intro r B s less known
    rw [line, column, tiledOffset_line (by omega)]
    refine (known.copy ⟨tile, columns, by omega⟩ rfl rfl).weaken ?_
    intro p covered
    rcases covered with old | inside
    · exact Or.inl old
    · exact Or.inr (by omega)
  refine run.weaken ?_
  intro p covered
  rcases covered with old | inside
  · exact Or.inl old
  · exact Or.inr (by omega)

theorem Filled.add_tileLines {x : Nat} (aligned : x % 64 = 0) (columns : x + 64 ≤ width)
    (groups : height % 4 = 0) :
    Filled width height src dest (fun p => A p ∨ InColumns height x (x + 64) p)
      (tileLines src width height x m) := by
  refine forUp_interval Prod.snd _ (by decide : 0 < 4) Filled.weaken known ?_
  intro n B s row known
  exact known.add_fourLines (by omega) columns (by omega) (by omega)

theorem Filled.add_restColumns {x : Nat} (aligned : x % 64 = 0) (words : height = 0 ∨ width % 4 = 0)
    (groups : height % 4 = 0) :
    Filled width height src dest (fun p => A p ∨ InColumns height x width p)
      (restColumns src width height x m) := by
  refine forUp_interval Prod.snd _ (by decide : 0 < 4) Filled.weaken known ?_
  intro n B s row known
  have line : Filled width height src dest
      (fun p => B p ∨ (0 + 4 * n ≤ p.2 ∧ p.2 < 0 + 4 * n + 4) ∧ x ≤ p.1 ∧ p.1 < width)
      (forUp x width 4 (fun j m => fourLines src width height 4 (0 + 4 * n) j m) s) := by
    refine forUp_interval Prod.fst _ (by decide : 0 < 4) Filled.weaken known ?_
    intro b C s column known
    refine (known.add_fourLines (by omega) (by omega) (by omega) (by omega)).weaken ?_
    exact fun p covered => covered.imp_right And.symm
  exact line.weaken fun p covered => covered.imp_right And.symm

end

section

structure Reached (width height : Nat) (src dest : Memory) (unit : Nat) (p : Progress) :
    Prop where
  aligned : unit ∣ p.1
  inside : p.1 ≤ width
  filled : Filled width height src dest (InColumns height 0 p.1) p.2

theorem Reached.start (width height : Nat) (src dest : Memory) (unit : Nat) :
    Reached width height src dest unit (0, dest) := by
  refine ⟨dvd_zero unit, zero_le width, ?_, fun _ _ => rfl⟩
  intro p none
  exact absurd none.1.2 (not_lt_zero _)

variable {p : Progress}

theorem Reached.stage {unit next columns : Nat} {copyLines : Nat → Memory → Memory}
    (here : Reached width height src dest unit p) (finer : next ∣ unit) (whole : next ∣ columns)
    (copies : ∀ {A m x}, unit ∣ x → x + columns ≤ width → Filled width height src dest A m → Filled width height src dest (fun p => A p ∨ InColumns height x (x + columns) p) (copyLines x m)) :
    Reached width height src dest next (stage width columns copyLines p) := by
  obtain ⟨aligned, inside, filled⟩ := here
  have fine := dvd_trans finer aligned
  unfold UnrolledTiles.stage
  by_cases room : columns ≤ width - p.1
  · rw [if_pos room]
    refine ⟨Nat.dvd_add fine whole, by dsimp only; omega,
      (copies aligned (by omega) filled).weaken ?_⟩
    intro q covered
    unfold InColumns at covered ⊢
    dsimp only at covered
    omega
  · rw [if_neg room]
    exact ⟨fine, inside, filled⟩

theorem Reached.blockStage (here : Reached width height src dest 256 p) (blocks : Nat) :
    Reached width height src dest 256
      (UnrolledTiles.stage width (256 * blocks) (blockLines src width height blocks) p) := by
  refine here.stage (dvd_refl 256) (dvd_mul_right 256 blocks) ?_
  intro A m x aligned columns known
  obtain ⟨q, rfl⟩ := aligned
  exact known.add_blockLines columns

theorem wideStages_reached (pairs : height % 2 = 0) :
    Reached width height src dest 128 (wideStages src width height dest) := by
  have blocks := (((Reached.start width height src dest 256).blockStage 4).blockStage 2).blockStage 1
  refine blocks.stage (by decide) (dvd_refl 128) ?_
  intro A m x aligned columns known
  obtain ⟨q, rfl⟩ := aligned
  exact known.add_pairLines columns pairs

theorem tileStage_reached (here : Reached width height src dest 128 p) (groups : height % 4 = 0) :
    Reached width height src dest 64 (stage width 64 (tileLines src width height) p) := by
  refine here.stage (by decide) (dvd_refl 64) ?_
  intro A m x aligned columns known
  exact known.add_tileLines (by omega) columns groups

theorem stage_columns (width columns : Nat) (copyLines : Nat → Memory → Memory) (p : Progress) :
    (stage width columns copyLines p).1 = if columns ≤ width - p.1 then p.1 + columns else p.1 := by
  unfold stage
  split <;> rfl

/-- The stages that take at most two lines at a time copy all columns of planes of a multiple of
    128 columns, if there are fewer than 2048. -/
theorem wideStages_all (src dest : Memory) (width height : Nat) :
    (wideStages src width height dest).1 = width ↔ width % 128 = 0 ∧ width < 2048 := by
  simp only [wideStages, stage_columns]
  split_ifs <;> omega

theorem cscTiledToLinear_filled (pairs : height % 2 = 0)
    (fits : height = 0 ∨ width % 4 = 0 ∧ (height % 4 = 0 ∨ width % 128 = 0 ∧ width < 2048)) :
    Filled width height src dest (InColumns height 0 width)
      (cscTiledToLinear dest src width height) := by
  have wide : Reached width height src dest 128 _ := wideStages_reached pairs
  have all := wideStages_all src dest width height
  dsimp only [cscTiledToLinear]
  generalize wideStages src width height dest = p at wide all
  by_cases groups : height % 4 = 0
  · obtain ⟨aligned, inside, filled⟩ := tileStage_reached wide groups
    generalize stage width 64 (tileLines src width height) p = q at aligned inside filled
    by_cases rest : width ≠ q.1
    · rw [if_pos rest]
      refine (filled.add_restColumns (by omega) (by omega) groups).weaken ?_
      intro point covered
      unfold InColumns at covered ⊢
      omega
    · rw [if_neg rest, not_ne_iff.mp rest]
      rw [not_ne_iff.mp rest] at filled
      exact filled
  · have done : p.1 = width := all.mpr (by omega)
    have none : stage width 64 (tileLines src width height) p = p := by
      rw [stage, if_neg (by omega)]
    have filled := wide.filled
    rw [done] at filled
    rw [none, if_neg (not_ne_iff.mpr done.symm)]
    exact filled

end

section

/- A plane of ones copied into zeros shows which positions are written. -/

variable {width height x a : Nat}

def zeros : Memory := fun _ => 0

def ones : Memory := fun _ => 1

def Written (a : Nat) (m : Memory) : Prop := m a = 1

variable {d s n : Nat}

theorem memcpy_keeps (one : Written a m) : Written a (memcpy m d ones s n) := by
  unfold Written memcpy ones
  split
  · rfl
  · exact one

theorem memcpy_writes (low : d ≤ a) (high : a < d + n) : Written a (memcpy m d ones s n) := by
  rw [Written, memcpy, if_pos ⟨low, high⟩, ones]

theorem fourLines_keeps {n i j : Nat} (one : Written a m) :
    Written a (fourLines ones width height n i j m) :=
  forUp_keeps (P := Written a) one_pos one fun _ _ one => memcpy_keeps one

theorem fourLines_writes {n i j : Nat} (r : Nat) (line : r < 4) (low : j + width * (i + r) ≤ a)
    (high : a < j + width * (i + r) + n) (m : Memory) :
    Written a (fourLines ones width height n i j m) := by
  refine forUp_turn (P := Written a) one_pos r (by omega) ?_ ?_
  · intro m
    rw [one_mul, zero_add]
    exact memcpy_writes low high
  · intro i m one
    exact memcpy_keeps one

theorem columns_keep {i : Nat} (one : Written a m) :
    Written a (forUp x width 4 (fun j m => fourLines ones width height 4 i j m) m) :=
  forUp_keeps (P := Written a) (by decide : 0 < 4) one fun _ _ one => fourLines_keeps one

theorem restColumns_keeps (one : Written a m) : Written a (restColumns ones width height x m) :=
  forUp_keeps (P := Written a) (by decide : 0 < 4) one fun _ _ one => columns_keep one

theorem restColumns_writes {n b r : Nat} (line : r < 4) (row : 4 * n < height)
    (column : x + 4 * b < width) (low : x + 4 * b + width * (4 * n + r) ≤ a)
    (high : a < x + 4 * b + width * (4 * n + r) + 4) (m : Memory) :
    Written a (restColumns ones width height x m) := by
  refine forUp_turn (P := Written a) (by decide : 0 < 4) n (by omega) ?_ ?_
  · intro m
    rw [zero_add]
    refine forUp_turn (P := Written a) (by decide : 0 < 4) b column ?_ ?_
    · intro m
      exact fourLines_writes r line low high m
    · intro j m one
      exact fourLines_keeps one
  · intro i m one
    exact columns_keep one

/-- Two lines below the last one of a height that is not a multiple of four. -/
theorem tileLines_overrun (half : height % 4 = 2) (m : Memory) :
    Written (x + width * height) (tileLines ones width height x m) := by
  have line : 4 * (height / 4) + 2 = height := by omega
  refine forUp_turn (P := Written (x + width * height)) (by decide : 0 < 4) (height / 4)
    (by omega) ?_ ?_
  · intro m
    rw [zero_add]
    exact fourLines_writes 2 (by decide) (by rw [line]) (by rw [line]; omega) m
  · intro i m one
    exact fourLines_keeps one

theorem restColumns_overrun (half : height % 4 = 2) (rest : x < width) (m : Memory) :
    Written (x + width * height) (restColumns ones width height x m) := by
  have line : 4 * (height / 4) + 2 = height := by omega
  exact restColumns_writes (b := 0) (r := 2) (by decide) (by omega : 4 * (height / 4) < height)
    (by omega) (by rw [line]; omega) (by rw [line]; omega) m

/-- The last four columns of a width that is not a multiple of four reach into the next line. -/
theorem restColumns_wraps (half : width % 4 = 2) (aligned : x % 4 = 0) (rest : x < width)
    (some : 0 < height) (m : Memory) :
    Written (width * height) (restColumns ones width height x m) := by
  have last : 4 * ((height - 1) / 4) + (height - 1) % 4 = height - 1 := by omega
  have total : width * height = width * (height - 1) + width := by
    rw [← mul_succ]
    congr 1
    omega
  have column : x + 4 * ((width - x) / 4) + 2 = width := by omega
  exact restColumns_writes (mod_lt _ (by decide)) (by omega : 4 * ((height - 1) / 4) < height)
    (by omega : x + 4 * ((width - x) / 4) < width) (by rw [last]; omega) (by rw [last]; omega) m

theorem cscTiledToLinear_overrun (even : width % 2 = 0) (pairs : height % 2 = 0)
    (short : ¬ (height = 0 ∨ width % 4 = 0 ∧ (height % 4 = 0 ∨ width % 128 = 0 ∧ width < 2048))) :
    ∃ a, width * height ≤ a ∧ Written a (cscTiledToLinear zeros ones width height) := by
  obtain ⟨aligned, inside, _⟩ : Reached width height ones zeros 128 _ := wideStages_reached pairs
  have all := wideStages_all ones zeros width height
  dsimp only [cscTiledToLinear]
  generalize wideStages ones width height zeros = p at aligned inside all
  by_cases tile : 64 ≤ width - p.1
  · rw [stage, if_pos tile]
    dsimp only
    by_cases words : width % 4 = 0
    · refine ⟨p.1 + width * height, by omega, ?_⟩
      have written : Written (p.1 + width * height) (tileLines ones width height p.1 p.2) :=
        tileLines_overrun (by omega) p.2
      split
      · exact restColumns_keeps written
      · exact written
    · rw [if_pos (by omega)]
      exact ⟨_, le_refl _, restColumns_wraps (by omega) (by omega) (by omega) (by omega) _⟩
  · rw [stage, if_neg tile]
    by_cases words : width % 4 = 0
    · have rest : p.1 ≠ width := fun done => short (Or.inr ⟨words, Or.inr (all.mp done)⟩)
      rw [if_pos rest.symm]
      exact ⟨p.1 + width * height, by omega, restColumns_overrun (by omega) (by omega) p.2⟩
    · rw [if_pos (by omega)]
      exact ⟨_, le_refl _, restColumns_wraps (by omega) (by omega) (by omega) (by omega) _⟩

end

/-- The conversion writes the bytes of the plane as the cropping conversion does, and nothing
    behind it. -/
def Agrees (width height : Nat) : Prop :=
  ∀ src dest : Memory,
    (∀ a < width * height, cscTiledToLinear dest src width height a =
      cscTiledToLinearCrop dest src (wholePlane width height) a) ∧
    ∀ a, width * height ≤ a → cscTiledToLinear dest src width height a = dest a

theorem crop_wholePlane {width height x i : Nat} (even : width % 2 = 0) (columns : width ≤ 16384)
    (rows : height ≤ 16384) (column : x < width) (row : i < height) (src dest : Memory) :
    cscTiledToLinearCrop dest src (wholePlane width height) (x + width * i) =
      src (tileAddr width height x i) := by
  have valid : EvenWindow (wholePlane width height) := by
    constructor <;> dsimp only [wholePlane] <;> omega
  have inside : InWindow (wholePlane width height) i x :=
    ⟨zero_le i, row, zero_le x, column⟩
  have short : ¬ LongTail (wholePlane width height) := by
    rintro ⟨_, small, long⟩
    dsimp only [wholePlane, realWidth] at small long
    omega
  have place : linearPosition (wholePlane width height) i x = x + width * i := by
    dsimp only [linearPosition, wholePlane]
    rw [Nat.sub_zero, Nat.sub_zero, Nat.sub_zero, Nat.sub_zero, Nat.mul_comm, Nat.add_comm]
  have address : readAddr width height x i = tileAddr width height x i :=
    readAddr_tileAddr row (by omega) (by omega) (by omega)
  rw [← place, crop_at valid src dest inside, columnOf_eq valid short columns rows inside]
  exact congrArg src address

/-- For every even width and height up to 16384 the two conversions agree if and only if the
    loops that take four columns or four lines at a time end with the plane or do not run. -/
theorem tiled_to_linear_agrees_iff (width height : Nat) (even : width % 2 = 0)
    (pairs : height % 2 = 0) (columns : width ≤ 16384) (rows : height ≤ 16384) :
    Agrees width height ↔ height = 0 ∨
      width % 4 = 0 ∧ (height % 4 = 0 ∨ width % 128 = 0 ∧ width < 2048) := by
  constructor
  · intro agrees
    by_contra short
    obtain ⟨a, outside, written⟩ := cscTiledToLinear_overrun even pairs short
    have kept := (agrees ones zeros).2 a outside
    rw [Written] at written
    rw [written, zeros] at kept
    exact absurd kept (by decide)
  · intro fits src dest
    have filled : Filled width height src dest _ _ := cscTiledToLinear_filled pairs fits
    refine ⟨?_, filled.behind⟩
    intro a inside
    have positive : 0 < width := Nat.pos_of_mul_pos_right (by omega : 0 < width * height)
    have column := Nat.mod_lt a positive
    have row : a / width < height := Nat.div_lt_of_lt_mul inside
    have split : a = a % width + width * (a / width) := (Nat.mod_add_div a width).symm
    rw [split, crop_wholePlane even columns rows column row]
    exact filled.placed (a % width, a / width) ⟨⟨zero_le _, column⟩, zero_le _, row⟩ column

theorem agrees_720p : Agrees 1280 720 ↔
    720 = 0 ∨ 1280 % 4 = 0 ∧ (720 % 4 = 0 ∨ 1280 % 128 = 0 ∧ 1280 < 2048) :=
  tiled_to_linear_agrees_iff 1280 720 (by decide) (by decide) (by decide) (by decide)

/-- With six columns the first byte of the second line is overwritten by what stands behind the
    first line in the tile. -/
theorem six_columns_differ : ¬ Agrees 6 2 := by
  intro agrees
  have same := (agrees (fun a => if a = 6 then 1 else 0) zeros).1 6 (by decide)
  exact absurd same (by decide)

end UnrolledTiles
