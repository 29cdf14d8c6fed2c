import SamsungHardware.Library.CountedLoop
import SamsungHardware.Library.ByteMemory
import SamsungHardware.TiledFrames.TileAddress

/- The cropping conversions from tiled to linear planes. `csc_tiled_to_linear_crop` and
   `csc_tiled_to_linear_deinterleave_crop` walk a row in the same three ways, chosen by the
   width of the window; they differ in the copy they make and in the unit of the output. -/
namespace TiledToLinear
open CountedLoop ByteMemory TileAddress Function Nat

structure Crop where
  (width height left top right buttom : Nat)
  deriving DecidableEq, Repr

section

/- `copy dest d s n` reads `n` tiled bytes at `s` and writes at `d`; `scale` tiled bytes make
   one byte of each output plane. -/
variable {Dest : Type} (scale : Nat) (copy : Dest → Nat → Nat → Nat → Dest) (c : Crop)

def blockOffsets (i : Nat) : Nat × Nat × Nat :=
  let x := ((c.left >>> 8) <<< 8) >>> 6
  let y := i >>> 5
  let line := 64 * (i &&& 0x1f)
  if y &&& 0x1 = 1 then
    let tiled := ((y - 1) * xBlockNum c.width + x + 2 + ((x >>> 2) <<< 2)) <<< 11
    (tiled + line, tiled + 2048 * 2 + line, 8)
  else if i + 32 < ((c.height + 31) >>> 5) <<< 5 then
    let tiled := (x + (((x + 2) >>> 2) <<< 2) + y * xBlockNum c.width) <<< 11
    (tiled + line, tiled + 2048 * 6 + line, 8)
  else
    let tiled := (y * xBlockNum c.width + x) <<< 11
    (tiled + line, tiled + 2048 * 2 + line, 4)

def firstBlock (tiled tiled1 linear : Nat) (dest : Dest) : Dest × Nat :=
  let temp3 := (((c.left + 256) >>> 8) <<< 8) - c.left
  let temp1 := c.left &&& 0x3f
  let skip := temp1 / scale
  if 192 < temp3 then
    let dest := copy dest linear (tiled + temp1) (64 - temp1)
    let dest := copy dest (linear + (64 / scale - skip)) (tiled + 2048) 64
    let dest := copy dest (linear + (128 / scale - skip)) tiled1 64
    let dest := copy dest (linear + (192 / scale - skip)) (tiled1 + 2048) 64
    (dest, linear + 256 / scale - skip)
  else if 128 < temp3 then
    let dest := copy dest linear (tiled + 2048 + temp1) (64 - temp1)
    let dest := copy dest (linear + (64 / scale - skip)) tiled1 64
    let dest := copy dest (linear + (128 / scale - skip)) (tiled1 + 2048) 64
    (dest, linear + 192 / scale - skip)
  else if 64 < temp3 then
    let dest := copy dest linear (tiled1 + temp1) (64 - temp1)
    let dest := copy dest (linear + (64 / scale - skip)) (tiled1 + 2048) 64
    (dest, linear + 128 / scale - skip)
  else
    let dest := copy dest linear (tiled1 + 2048 + temp1) (64 - temp1)
    (dest, linear + 64 / scale - skip)

structure Cursor (Dest : Type) where
  dest : Dest
  (j tiled tiled1 linear : Nat)

def middleBlock (stride : Nat) (cur : Cursor Dest) : Cursor Dest :=
  let dest := copy cur.dest cur.linear cur.tiled 64
  let tiled1 := cur.tiled1 + stride * 2048
  let dest := copy dest (cur.linear + 64 / scale) (cur.tiled + 2048) 64
  let dest := copy dest (cur.linear + 128 / scale) tiled1 64
  let dest := copy dest (cur.linear + 192 / scale) (tiled1 + 2048) 64
  ⟨dest, cur.j + 256, cur.tiled + stride * 2048, tiled1, cur.linear + 256 / scale⟩

def lastBlock (temp2 tiled tiled1 linear : Nat) (dest : Dest) : Dest :=
  if 192 < temp2 then
    let dest := copy dest linear tiled 64
    let dest := copy dest (linear + 64 / scale) (tiled + 2048) 64
    let dest := copy dest (linear + 128 / scale) tiled1 64
    copy dest (linear + 192 / scale) (tiled1 + 2048) (temp2 - 192)
  else if 128 < temp2 then
    let dest := copy dest linear tiled 64
    let dest := copy dest (linear + 64 / scale) (tiled + 2048) 64
    copy dest (linear + 128 / scale) tiled1 (temp2 - 128)
  else if 64 < temp2 then
    let dest := copy dest linear tiled 64
    copy dest (linear + 64 / scale) (tiled + 2048) (temp2 - 64)
  else copy dest linear tiled temp2

/-- A row of a window of at least 256 bytes: blocks of four tiles. -/
def wideRow (i : Nat) (dest : Dest) : Dest :=
  let (tiled, tiled1, stride) := blockOffsets c i
  let linear := (c.width - c.left - c.right) * (i - c.top) / scale
  let (dest, linear) := firstBlock scale copy c tiled tiled1 linear dest
  let j := ((c.left >>> 8) <<< 8) + 256
  let cur := forUp j (c.width - c.right - 256 + 1) 256
    (fun _ cur => middleBlock scale copy stride cur)
    ⟨dest, j, tiled + stride * 2048, tiled1, linear⟩
  lastBlock scale copy (c.width - c.right - cur.j) cur.tiled (cur.tiled1 + stride * 2048)
    cur.linear cur.dest

structure Reader (Dest : Type) where
  dest : Dest
  (j linear : Nat)

def wholeTile (i : Nat) (r : Reader Dest) : Reader Dest :=
  if r.j + 64 ≤ c.width - c.right then
    ⟨copy r.dest r.linear (tile4x2Read c.width c.height r.j i) 64, r.j + 64, r.linear + 64 / scale⟩
  else r

/-- A row of a window of 64 to 255 bytes: the first tile, at most two whole tiles, the rest. -/
def tileRow (i : Nat) (dest : Dest) : Dest :=
  let temp3 := c.width - c.right
  let temp2 := (((c.left + 64) >>> 6) <<< 6) - c.left
  let linear := (temp3 - c.left) * (i - c.top) / scale
  let dest := copy dest linear (tile4x2Read c.width c.height c.left i + (c.left &&& 0x3)) temp2
  let r : Reader Dest := ⟨dest, c.left + temp2, linear + temp2 / scale⟩
  let r := wholeTile scale copy c i r
  let r := wholeTile scale copy c i r
  if r.j < temp3 then
    copy r.dest r.linear (tile4x2Read c.width c.height r.j i) (temp3 - r.j)
  else r.dest

def copyPair (i j : Nat) (r : Reader Dest) : Reader Dest :=
  ⟨copy r.dest r.linear (tile4x2Read c.width c.height j i + (j &&& 0x3)) 2, j + 2,
    r.linear + 2 / scale⟩

/-- A row of a window below 64 bytes: two bytes at a time. -/
def pairRow (i : Nat) (dest : Dest) : Dest :=
  let linear := (c.width - c.right - c.left) * (i - c.top) / scale
  (forUp c.left (c.width - c.right) 2 (copyPair scale copy c i) ⟨dest, c.left, linear⟩).dest

def tiledToLinear (dest : Dest) : Dest :=
  let temp1 := c.width - c.right - c.left
  let row := if 256 ≤ temp1 then wideRow scale copy c
    else if 64 ≤ temp1 then tileRow scale copy c
    else pairRow scale copy c
  forUp c.top (c.height - c.buttom) 1 row dest

end

def cscTiledToLinearCrop (yuv420Dest nv12tSrc : Memory) (c : Crop) : Memory :=
  tiledToLinear 1 (fun dest d s n => memcpy dest d nv12tSrc s n) c yuv420Dest

def cscDeinterleaveMemcpy (dest : Memory × Memory) (d : Nat) (src : Memory) (s srcSize : Nat) :
    Memory × Memory :=
  forUp 0 (srcSize / 2) 1 (fun i m =>
    (update m.1 (d + i) (src (s + i * 2)), update m.2 (d + i) (src (s + (i * 2 + 1))))) dest

def cscTiledToLinearDeinterleaveCrop (yuv420UDest yuv420VDest nv12tUvSrc : Memory) (c : Crop) :
    Memory × Memory :=
  tiledToLinear 2 (fun dest d s n => cscDeinterleaveMemcpy dest d nv12tUvSrc s n) c
    (yuv420UDest, yuv420VDest)

def wholePlane (width height : Nat) : Crop := ⟨width, height, 0, 0, 0, 0⟩

def cscTiledToLinearY (yDst ySrc : Memory) (width height : Nat) : Memory :=
  cscTiledToLinearCrop yDst ySrc (wholePlane width height)

def cscTiledToLinearUv (uvDst uvSrc : Memory) (width height : Nat) : Memory :=
  cscTiledToLinearCrop uvDst uvSrc (wholePlane width height)

def cscTiledToLinearUvDeinterleave (uDst vDst uvSrc : Memory) (width height : Nat) :
    Memory × Memory :=
  cscTiledToLinearDeinterleaveCrop uDst vDst uvSrc (wholePlane width height)

section

variable (width height : Nat)

theorem tileAddr_second (q y : Nat) :
    tileAddr width height (256 * q + 64) y = tileAddr width height (256 * q) y + 2048 := by
  rw [tileAddr_eq, tileAddr_eq, show (256 * q + 64) / 64 = 4 * q + 1 by omega,
    show 256 * q / 64 = 4 * q by omega, tileIndex_split, tileIndex_split, pairOffset, pairOffset]
  split_ifs <;> omega

theorem tileAddr_fourth (q y : Nat) :
    tileAddr width height (256 * q + 192) y =
      tileAddr width height (256 * q + 128) y + 2048 := by
  rw [tileAddr_eq, tileAddr_eq, show (256 * q + 192) / 64 = 4 * q + 3 by omega,
    show (256 * q + 128) / 64 = 4 * q + 2 by omega, tileIndex_split, tileIndex_split, pairOffset,
    pairOffset]
  split_ifs <;> omega

def blockStride (i : Nat) : Nat :=
  if i / 32 % 2 = 1 ∨ i / 32 + 1 < (height + 31) / 32 then 8 else 4

theorem tileAddr_next (q y : Nat) :
    tileAddr width height (256 * (q + 1)) y =
        tileAddr width height (256 * q) y + blockStride height y * 2048 ∧
      tileAddr width height (256 * (q + 1) + 128) y =
        tileAddr width height (256 * q + 128) y + blockStride height y * 2048 := by
  simp only [tileAddr_eq, tileIndex_split, pairOffset, blockStride]
  split_ifs <;> omega

theorem blockOffsets_eq (c : Crop) (i : Nat) :
    blockOffsets c i =
      (tileAddr c.width c.height (256 * (c.left / 256)) i,
        tileAddr c.width c.height (256 * (c.left / 256) + 128) i, blockStride c.height i) := by
  have even : (i + 32 < (c.height + 31) / 32 * 32) ↔ i / 32 + 1 < (c.height + 31) / 32 := by
    omega
  have low : i &&& 0x1f = i % 32 := and_two_pow_sub_one_eq_mod i 5
  have first : c.left / 2 ^ 8 * 2 ^ 8 / 2 ^ 6 = 4 * (c.left / 256) := by omega
  simp only [blockOffsets, shiftRight_eq_div_pow, shiftLeft_eq, and_one_is_mod, low,
    first, xBlockNum_eq, tileAddr_eq, tileIndex, blockStride]
  rw [show 256 * (c.left / 256) / 64 = 4 * (c.left / 256) by omega,
    show (256 * (c.left / 256) + 128) / 64 = 4 * (c.left / 256) + 2 by omega]
  simp only [reducePow, even]
  by_cases odd : i / 32 % 2 = 1
  · simp only [odd, if_true, true_or, Prod.mk.injEq, and_true]
    omega
  · by_cases paired : i / 32 + 1 < (c.height + 31) / 32
    · simp only [odd, paired, if_true, if_false, or_true, Prod.mk.injEq, and_true]
      omega
    · simp only [odd, paired, if_false, or_false, Prod.mk.injEq, and_true]
      omega

end

section

variable {Dest : Type} {scale : Nat} {copy : Dest → Nat → Nat → Nat → Dest} {c : Crop}
  {addr : Nat → Nat} {Done : Nat → Dest → Prop} {g : Nat} {column : Nat → Nat}

/-- `Done g dest` says that the first `g` tiled bytes of the window are at their place. A copy
    of the bytes that follow in the order of `addr` extends it. -/
def Extends (scale : Nat) (copy : Dest → Nat → Nat → Nat → Dest) (addr : Nat → Nat)
    (Done : Nat → Dest → Prop) : Prop :=
  ∀ {g s n dest}, g % 2 = 0 → n % 2 = 0 → (∀ t < n, addr (g + t) = s + t) → Done g dest →
    Done (g + n) (copy dest (g / scale) s n)

structure RowOf (c : Crop) (addr : Nat → Nat) (g : Nat) (column : Nat → Nat) : Prop where
  even : g % 2 = 0
  left : c.left % 2 = 0
  right : (c.width - c.right) % 2 = 0
  window : c.left < c.width - c.right
  reads : ∀ x, c.left ≤ x → x < c.width - c.right → addr (g + (x - c.left)) = column x

def Upto (c : Crop) (Done : Nat → Dest → Prop) (g x : Nat) (dest : Dest) : Prop :=
  Done (g + (x - c.left)) dest

theorem copy_columns (step : Extends scale copy addr Done) (row : RowOf c addr g column)
    {x z n s d : Nat} {dest : Dest} (before : Upto c Done g x dest) (start : c.left ≤ x)
    (aligned : x % 2 = 0) (pairs : n % 2 = 0) (stop : x + n = z) (inside : z ≤ c.width - c.right)
    (place : d = (g + (x - c.left)) / scale) (bytes : ∀ t < n, column (x + t) = s + t) :
    Upto c Done g z (copy dest d s n) := by
  have even := row.even
  have left := row.left
  have next := step (by omega) pairs (fun t small => by
    rw [← bytes t small, ← row.reads (x + t) (by omega) (by omega)]
    congr 1
    omega) before
  rw [Upto, place, show g + (z - c.left) = g + (x - c.left) + n by omega]
  exact next

section

variable {i : Nat} {dest : Dest} {q : Nat} {cur : Cursor Dest}

section
variable (step : Extends scale copy addr Done)
include step

variable (row : RowOf c addr g fun x => tileAddr c.width c.height x i)
include row

theorem copy_tile {x z n s d : Nat} (before : Upto c Done g x dest) (start : c.left ≤ x)
    (aligned : x % 64 = 0) (pairs : n % 2 = 0) (small : n ≤ 64) (stop : x + n = z)
    (inside : z ≤ c.width - c.right) (place : d = (g + (x - c.left)) / scale)
    (source : s = tileAddr c.width c.height x i) : Upto c Done g z (copy dest d s n) :=
  copy_columns step row before start (by omega) pairs stop inside place
    (fun t less => by rw [source, ← tileAddr_add (by omega)])

theorem copy_edge {s : Nat} (before : Done g dest) (wide : 64 ≤ c.width - c.right - c.left)
    (source : s = tileAddr c.width c.height (64 * (c.left / 64)) i + c.left % 64) :
    Upto c Done g (64 * (c.left / 64) + 64) (copy dest (g / scale) s (64 - c.left % 64)) := by
  have left := row.left
  have start : Upto c Done g c.left dest := by rw [Upto, Nat.sub_self]; exact before
  refine copy_columns step row start (Nat.le_refl _) left (by omega) (by omega) (by omega)
    (by rw [Nat.sub_self, Nat.add_zero]) ?_
  intro t less
  have split : c.left + t = 64 * (c.left / 64) + (c.left % 64 + t) := by omega
  rw [source, split, tileAddr_add (by omega), add_assoc]

theorem copy_whole {x s d : Nat} (before : Upto c Done g x dest)
    (inside : c.left ≤ x ∧ x % 64 = 0 ∧ x + 64 ≤ c.width - c.right)
    (place : (g + (x - c.left)) / scale = d) (source : s = tileAddr c.width c.height x i) :
    Upto c Done g (x + 64) (copy dest d s 64) :=
  copy_tile step row before inside.1 inside.2.1 rfl (le_refl _) rfl inside.2.2 place.symm source

/-- The first block ends at a multiple of 256, wherever the left edge lies in it. -/
theorem firstBlock_upto (scaled : scale = 1 ∨ scale = 2) (wide : 256 ≤ c.width - c.right - c.left)
    (before : Done g dest) :
    Upto c Done g (256 * (c.left / 256) + 256)
        (firstBlock scale copy c (tileAddr c.width c.height (256 * (c.left / 256)) i)
          (tileAddr c.width c.height (256 * (c.left / 256) + 128) i) (g / scale) dest).1 ∧
      (firstBlock scale copy c (tileAddr c.width c.height (256 * (c.left / 256)) i)
          (tileAddr c.width c.height (256 * (c.left / 256) + 128) i) (g / scale) dest).2 =
        (g + (256 * (c.left / 256) + 256 - c.left)) / scale := by
  have left := row.left
  obtain ⟨q, block⟩ : ∃ q, q = c.left / 256 := ⟨_, rfl⟩
  have second := tileAddr_second c.width c.height q i
  have fourth := tileAddr_fourth c.width c.height q i
  have mask : c.left &&& 0x3f = c.left % 64 := and_two_pow_sub_one_eq_mod c.left 6
  have reach : (((c.left + 256) >>> 8) <<< 8) - c.left = 256 * q + 256 - c.left := by
    rw [shiftRight_eq_div_pow, shiftLeft_eq]
    omega
  have edge {s : Nat} := copy_edge step row before (s := s) (by omega)
  -- `a` bytes from the start of the edge's tile, of which the window skips the first.
  have place (x a : Nat) (tiles : a % 64 = 0 ∧ 0 < a ∧ x = 64 * (c.left / 64) + a) :
      (g + (x - c.left)) / scale = g / scale + (a / scale - c.left % 64 / scale) := by
    rcases scaled with rfl | rfl <;> omega
  have finish (a : Nat) (tiles : a % 64 = 0 ∧ 0 < a ∧ 256 * q + 256 = 64 * (c.left / 64) + a) :
      g / scale + a / scale - c.left % 64 / scale =
        (g + (256 * q + 256 - c.left)) / scale := by
    rcases scaled with rfl | rfl <;> omega
  rw [← block]
  simp only [firstBlock, mask, reach]
  by_cases first : 192 < 256 * q + 256 - c.left
  · have tile : 64 * (c.left / 64) = 256 * q := by omega
    rw [tile] at edge
    rw [if_pos first]
    refine ⟨?_, finish 256 (by omega)⟩
    have tile2 := copy_whole step row (edge rfl) (by omega) (place (256 * q + 64) 64 (by omega))
      second.symm
    have tile3 := copy_whole step row tile2 (by omega) (place (256 * q + 128) 128 (by omega)) rfl
    exact copy_whole step row tile3 (by omega) (place (256 * q + 192) 192 (by omega)) fourth.symm
  rw [if_neg first]
  by_cases middle : 128 < 256 * q + 256 - c.left
  · have tile : 64 * (c.left / 64) = 256 * q + 64 := by omega
    rw [tile, second] at edge
    rw [if_pos middle]
    refine ⟨?_, finish 192 (by omega)⟩
    have tile3 :=
      copy_whole step row (edge rfl) (by omega) (place (256 * q + 128) 64 (by omega)) rfl
    exact copy_whole step row tile3 (by omega) (place (256 * q + 192) 128 (by omega)) fourth.symm
  rw [if_neg middle]
  by_cases third : 64 < 256 * q + 256 - c.left
  · have tile : 64 * (c.left / 64) = 256 * q + 128 := by omega
    rw [tile] at edge
    rw [if_pos third]
    refine ⟨?_, finish 128 (by omega)⟩
    exact copy_whole step row (edge rfl) (by omega) (place (256 * q + 192) 64 (by omega))
      fourth.symm
  · have tile : 64 * (c.left / 64) = 256 * q + 192 := by omega
    rw [tile, fourth] at edge
    rw [if_neg third]
    exact ⟨edge rfl, finish 64 (by omega)⟩

end

structure AtBlock (scale : Nat) (c : Crop) (Done : Nat → Dest → Prop) (g i q : Nat)
    (cur : Cursor Dest) : Prop where
  done : Upto c Done g (256 * q) cur.dest
  column : cur.j = 256 * q
  tiled : cur.tiled = tileAddr c.width c.height (256 * q) i
  tiled1 : cur.tiled1 + blockStride c.height i * 2048 = tileAddr c.width c.height (256 * q + 128) i
  linear : cur.linear = (g + (256 * q - c.left)) / scale
  start : c.left ≤ 256 * q
  inside : 256 * q ≤ c.width - c.right

theorem place_add (scaled : scale = 1 ∨ scale = 2) {x a : Nat} (start : c.left ≤ x)
    (tiles : a % 64 = 0) :
    (g + (x + a - c.left)) / scale = (g + (x - c.left)) / scale + a / scale := by
  rcases scaled with rfl | rfl <;> omega

variable (step : Extends scale copy addr Done)
include step

section
variable (row : RowOf c addr g fun x => tileAddr c.width c.height x i)
include row

variable (scaled : scale = 1 ∨ scale = 2)
include scaled

theorem middleBlock_next (here : AtBlock scale c Done g i q cur)
    (room : 256 * q + 256 ≤ c.width - c.right) :
    AtBlock scale c Done g i (q + 1) (middleBlock scale copy (blockStride c.height i) cur) := by
  have second := tileAddr_second c.width c.height q i
  have fourth := tileAddr_fourth c.width c.height q i
  have next := tileAddr_next c.width c.height q i
  have place (a : Nat) (tiles : a % 64 = 0) :
      (g + (256 * q + a - c.left)) / scale = (g + (256 * q - c.left)) / scale + a / scale :=
    place_add scaled here.start tiles
  have start := here.start
  simp only [middleBlock, here.tiled, here.tiled1, here.linear]
  have tile1 := copy_whole step row here.done (by omega) rfl rfl
  have tile2 := copy_whole step row tile1 (by omega) (place 64 rfl) second.symm
  have tile3 := copy_whole step row tile2 (by omega) (place 128 rfl) rfl
  have tile4 := copy_whole step row tile3 (by omega) (place 192 rfl) fourth.symm
  refine ⟨tile4, ?_, next.1.symm, next.2.symm, (place 256 rfl).symm, by omega, by omega⟩
  dsimp only
  rw [here.column, mul_succ]

theorem middleBlocks_run (wide : 256 ≤ c.width - c.right)
    (here : AtBlock scale c Done g i q cur) :
    ∃ last, AtBlock scale c Done g i last
        (forUp (256 * q) (c.width - c.right - 256 + 1) 256
          (fun _ cur => middleBlock scale copy (blockStride c.height i) cur) cur) ∧
      c.width - c.right < 256 * last + 256 := by
  have inside := here.inside
  have turn : ∀ n cur, 256 * q + 256 * n < c.width - c.right - 256 + 1 →
      AtBlock scale c Done g i (q + n) cur → AtBlock scale c Done g i (q + (n + 1))
        (middleBlock scale copy (blockStride c.height i) cur) := by
    intro n cur less block
    exact middleBlock_next (q := q + n) step row scaled block (by omega)
  have run : AtBlock scale c Done g i (q + _) (forUp (256 * q) (c.width - c.right - 256 + 1) 256
      (fun _ cur => middleBlock scale copy (blockStride c.height i) cur) cur) :=
    forUp_inv (P := fun n cur => AtBlock scale c Done g i (q + n) cur) (by decide) here turn
  exact ⟨_, run, by omega⟩

theorem lastBlock_upto (here : AtBlock scale c Done g i q cur)
    (short : c.width - c.right < 256 * q + 256) :
    Upto c Done g (c.width - c.right)
      (lastBlock scale copy (c.width - c.right - cur.j) cur.tiled
        (cur.tiled1 + blockStride c.height i * 2048) cur.linear cur.dest) := by
  have second := tileAddr_second c.width c.height q i
  have fourth := tileAddr_fourth c.width c.height q i
  have place (a : Nat) (tiles : a % 64 = 0) :
      (g + (256 * q + a - c.left)) / scale = (g + (256 * q - c.left)) / scale + a / scale :=
    place_add scaled here.start tiles
  have start := here.start
  have inside := here.inside
  have right := row.right
  obtain ⟨rest, width⟩ := Nat.exists_eq_add_of_le inside
  simp only [lastBlock, here.tiled, here.tiled1, here.linear, here.column]
  rw [show c.width - c.right - 256 * q = rest by omega]
  by_cases four : 192 < rest
  · rw [if_pos four]
    have tile1 := copy_whole step row here.done (by omega) rfl rfl
    have tile2 := copy_whole step row tile1 (by omega) (place 64 rfl) second.symm
    have tile3 := copy_whole step row tile2 (by omega) (place 128 rfl) rfl
    exact copy_tile step row tile3 (by omega) (by omega) (by omega) (by omega) (by omega)
      (le_refl _) (place 192 rfl).symm fourth.symm
  rw [if_neg four]
  by_cases three : 128 < rest
  · rw [if_pos three]
    have tile1 := copy_whole step row here.done (by omega) rfl rfl
    have tile2 := copy_whole step row tile1 (by omega) (place 64 rfl) second.symm
    exact copy_tile step row tile2 (by omega) (by omega) (by omega) (by omega) (by omega)
      (le_refl _) (place 128 rfl).symm rfl
  rw [if_neg three]
  by_cases two : 64 < rest
  · rw [if_pos two]
    have tile1 := copy_whole step row here.done (by omega) rfl rfl
    exact copy_tile step row tile1 (by omega) (by omega) (by omega) (by omega) (by omega)
      (le_refl _) (place 64 rfl).symm second.symm
  · rw [if_neg two]
    exact copy_tile step row here.done start (by omega) (by omega) (by omega) (by omega)
      (le_refl _) rfl rfl

end

theorem wideRow_done
    (row : RowOf c addr ((c.width - c.left - c.right) * (i - c.top)) fun x => tileAddr c.width c.height x i)
    (scaled : scale = 1 ∨ scale = 2) (wide : 256 ≤ c.width - c.right - c.left)
    (before : Done ((c.width - c.left - c.right) * (i - c.top)) dest) :
    Upto c Done ((c.width - c.left - c.right) * (i - c.top)) (c.width - c.right)
      (wideRow scale copy c i dest) := by
  have next := tileAddr_next c.width c.height (c.left / 256) i
  have block : (c.left >>> 8) <<< 8 + 256 = 256 * (c.left / 256 + 1) := by
    rw [shiftRight_eq_div_pow, shiftLeft_eq]
    omega
  obtain ⟨done, linear⟩ := firstBlock_upto step row scaled wide before
  simp only [wideRow, blockOffsets_eq, block]
  have here : AtBlock scale c Done ((c.width - c.left - c.right) * (i - c.top)) i
      (c.left / 256 + 1) ⟨_, _, _, _, _⟩ :=
    ⟨done, rfl, next.1.symm, next.2.symm, linear, by omega, by omega⟩
  obtain ⟨last, behind, short⟩ := middleBlocks_run step row scaled (by omega) here
  exact lastBlock_upto step row scaled behind short

end

variable {i : Nat}

def wholeTileEnd (c : Crop) (j : Nat) : Nat := if j + 64 ≤ c.width - c.right then j + 64 else j

def tailStart (c : Crop) : Nat := wholeTileEnd c (wholeTileEnd c (64 * (c.left / 64) + 64))

/-- The last copy runs on in the memory of its first tile, also beyond 64 bytes. -/
def tileColumn (c : Crop) (i x : Nat) : Nat :=
  if x < tailStart c then readAddr c.width c.height x i
  else readAddr c.width c.height (tailStart c) i + (x - tailStart c)

structure AtTile (scale : Nat) (c : Crop) (Done : Nat → Dest → Prop) (g x : Nat)
    (r : Reader Dest) : Prop where
  done : Upto c Done g x r.dest
  column : r.j = x
  linear : r.linear = (g + (x - c.left)) / scale
  aligned : x % 64 = 0
  start : c.left ≤ x
  inside : x ≤ c.width - c.right

theorem tile4x2Read_aligned {width height x : Nat} (aligned : x % 64 = 0) :
    tile4x2Read width height x i = readAddr width height x i := by
  rw [readAddr, show x % 4 = 0 by omega, add_zero]

variable (step : Extends scale copy addr Done)
include step

theorem wholeTile_next (row : RowOf c addr g (tileColumn c i)) (scaled : scale = 1 ∨ scale = 2)
    {x : Nat} {r : Reader Dest} (here : AtTile scale c Done g x r)
    (whole : wholeTileEnd c x ≤ tailStart c) :
    AtTile scale c Done g (wholeTileEnd c x) (wholeTile scale copy c i r) := by
  have aligned := here.aligned
  have start := here.start
  unfold wholeTileEnd at whole ⊢
  simp only [wholeTile, here.column, here.linear]
  by_cases room : x + 64 ≤ c.width - c.right
  · rw [if_pos room] at whole
    rw [if_pos room, if_pos room]
    refine ⟨?_, rfl, (place_add scaled start rfl).symm, by omega, by omega, room⟩
    refine copy_columns step row here.done start (by omega) rfl rfl room rfl ?_
    intro t less
    rw [tileColumn, if_pos (by omega), readAddr_add (by omega), tile4x2Read_aligned aligned]
  · rw [if_neg room, if_neg room]
    exact here

omit step in
theorem le_wholeTileEnd (c : Crop) (x : Nat) : x ≤ wholeTileEnd c x := by
  unfold wholeTileEnd
  split <;> omega

variable {dest : Dest}

theorem tileEdge_at (row : RowOf c addr g (tileColumn c i)) (scaled : scale = 1 ∨ scale = 2)
    (wide : 64 ≤ c.width - c.right - c.left) {n : Nat} (edge : c.left + n = 64 * (c.left / 64) + 64)
    (before : Done g dest) :
    AtTile scale c Done g (64 * (c.left / 64) + 64)
      ⟨copy dest (g / scale) (readAddr c.width c.height c.left i) n, c.left + n,
        g / scale + n / scale⟩ := by
  have even := row.even
  have left := row.left
  have first : Upto c Done g c.left dest := by rw [Upto, Nat.sub_self]; exact before
  have reach := le_wholeTileEnd c (64 * (c.left / 64) + 64)
  have tail := le_wholeTileEnd c (wholeTileEnd c (64 * (c.left / 64) + 64))
  refine ⟨?_, edge, ?_, by omega, by omega, by omega⟩
  · refine copy_columns step row first (Nat.le_refl _) left (by omega) edge (by omega)
      (by rw [Nat.sub_self, Nat.add_zero]) ?_
    intro t less
    rw [tileColumn, if_pos (by rw [tailStart]; omega), readAddr_add (by omega)]
  · rcases scaled with rfl | rfl <;> dsimp only <;> omega

theorem tileRow_done
    (row : RowOf c addr ((c.width - c.right - c.left) * (i - c.top)) (tileColumn c i))
    (scaled : scale = 1 ∨ scale = 2) (wide : 64 ≤ c.width - c.right - c.left)
    (before : Done ((c.width - c.right - c.left) * (i - c.top)) dest) :
    Upto c Done ((c.width - c.right - c.left) * (i - c.top)) (c.width - c.right)
      (tileRow scale copy c i dest) := by
  have right := row.right
  have mask : c.left &&& 0x3 = c.left % 4 := and_two_pow_sub_one_eq_mod c.left 2
  have edge : c.left + ((((c.left + 64) >>> 6) <<< 6) - c.left) = 64 * (c.left / 64) + 64 := by
    rw [shiftRight_eq_div_pow, shiftLeft_eq]
    omega
  have tile0 := tileEdge_at step row scaled wide edge before
  have tile1 := wholeTile_next step row scaled tile0 (le_wholeTileEnd c _)
  have tile2 := wholeTile_next step row scaled tile1 (le_refl _)
  rw [← tailStart] at tile2
  have aligned := tile2.aligned
  have start := tile2.start
  have inside := tile2.inside
  simp only [tileRow, mask]
  rw [← readAddr, tile2.column, tile2.linear, tile4x2Read_aligned aligned]
  by_cases rest : tailStart c < c.width - c.right
  · rw [if_pos rest]
    refine copy_columns step row tile2.done start (by omega) (by omega) (by omega)
      (Nat.le_refl _) rfl ?_
    intro t less
    rw [tileColumn, if_neg (by omega), Nat.add_sub_cancel_left]
  · have done := tile2.done
    rw [show tailStart c = c.width - c.right by omega] at done
    rw [if_neg rest]
    exact done

theorem pairRow_done
    (row : RowOf c addr ((c.width - c.right - c.left) * (i - c.top)) fun x => readAddr c.width c.height x i)
    (scaled : scale = 1 ∨ scale = 2)
    (before : Done ((c.width - c.right - c.left) * (i - c.top)) dest) :
    Upto c Done ((c.width - c.right - c.left) * (i - c.top)) (c.width - c.right)
      (pairRow scale copy c i dest) := by
  obtain ⟨g, origin⟩ : ∃ g, g = (c.width - c.right - c.left) * (i - c.top) := ⟨_, rfl⟩
  rw [← origin] at row before ⊢
  have even := row.even
  have left := row.left
  have right := row.right
  have window := row.window
  have start : Upto c Done g (c.left + 2 * 0) dest ∧ g / scale = (g + 2 * 0) / scale := by
    rw [Upto, Nat.mul_zero, Nat.add_zero, Nat.sub_self]
    exact ⟨before, rfl⟩
  have turn : ∀ n (r : Reader Dest), c.left + 2 * n < c.width - c.right →
      (Upto c Done g (c.left + 2 * n) r.dest ∧ r.linear = (g + 2 * n) / scale) →
      Upto c Done g (c.left + 2 * (n + 1)) (copyPair scale copy c i (c.left + 2 * n) r).dest ∧
        (copyPair scale copy c i (c.left + 2 * n) r).linear = (g + 2 * (n + 1)) / scale := by
    intro n r less here
    have mask (x : Nat) : x &&& 0x3 = x % 4 := and_two_pow_sub_one_eq_mod x 2
    simp only [copyPair, mask, here.2]
    rw [← readAddr]
    refine ⟨copy_columns step row here.1 (by omega) (by omega) rfl (by omega) (by omega)
      (by rw [Nat.add_sub_cancel_left]) ?_, by rcases scaled with rfl | rfl <;> omega⟩
    intro t less
    exact readAddr_add (by omega)
  have run := (forUp_inv (P := fun n (r : Reader Dest) =>
    Upto c Done g (c.left + 2 * n) r.dest ∧ r.linear = (g + 2 * n) / scale)
    (s := ⟨dest, c.left, g / scale⟩) (zero_lt_two) start turn).1
  rw [show c.left + 2 * ((c.width - c.right - c.left + 2 - 1) / 2) = c.width - c.right by omega]
    at run
  simp only [pairRow, ← origin]
  exact run

end

structure EvenWindow (c : Crop) : Prop where
  width : c.width % 2 = 0
  left : c.left % 2 = 0
  right : c.right % 2 = 0
  columns : c.left + c.right < c.width
  rows : c.top + c.buttom < c.height

def realWidth (c : Crop) : Nat := c.width - c.right - c.left

def realHeight (c : Crop) : Nat := c.height - c.buttom - c.top

/-- Where the conversion really reads the byte of column `x` and row `i`. -/
def columnOf (c : Crop) (i x : Nat) : Nat :=
  if 256 ≤ realWidth c then tileAddr c.width c.height x i
  else if 64 ≤ realWidth c then tileColumn c i x
  else readAddr c.width c.height x i

variable {c : Crop}

theorem columnOf_wide (wide : 256 ≤ realWidth c) (i : Nat) :
    columnOf c i = fun x => tileAddr c.width c.height x i := by
  funext x
  rw [columnOf, if_pos wide]

theorem columnOf_middle (below : ¬ 256 ≤ realWidth c) (middle : 64 ≤ realWidth c) (i : Nat) :
    columnOf c i = tileColumn c i := by
  funext x
  rw [columnOf, if_neg below, if_pos middle]

theorem columnOf_narrow (below : ¬ 256 ≤ realWidth c) (narrow : ¬ 64 ≤ realWidth c) (i : Nat) :
    columnOf c i = fun x => readAddr c.width c.height x i := by
  funext x
  rw [columnOf, if_neg below, if_neg narrow]

def sourceOf (c : Crop) (g : Nat) : Nat :=
  columnOf c (c.top + g / realWidth c) (c.left + g % realWidth c)

theorem sourceOf_row {n x : Nat} (start : c.left ≤ x) (inside : x < c.width - c.right) :
    sourceOf c (realWidth c * n + (x - c.left)) = columnOf c (c.top + n) x := by
  have less : x - c.left < realWidth c := by rw [realWidth]; omega
  rw [sourceOf, mul_add_div (by omega), div_eq_of_lt less, mul_add_mod,
    mod_eq_of_lt less, add_zero, add_sub_of_le start]

theorem tiledToLinear_done {Dest : Type} {scale : Nat} {copy : Dest → Nat → Nat → Nat → Dest}
    {Done : Nat → Dest → Prop} (valid : EvenWindow c) (scaled : scale = 1 ∨ scale = 2)
    (step : Extends scale copy (sourceOf c) Done) {dest : Dest} (before : Done 0 dest) :
    Done (realWidth c * realHeight c) (tiledToLinear scale copy c dest) := by
  obtain ⟨width, left, right, columns, rows⟩ := valid
  have positive : 0 < realWidth c := by rw [realWidth]; omega
  have even : realWidth c % 2 = 0 := by rw [realWidth]; omega
  have row (n : Nat) : RowOf c (sourceOf c) (realWidth c * n) (columnOf c (c.top + n)) := by
    refine ⟨?_, left, by omega, by omega, fun x => sourceOf_row⟩
    rw [mul_mod, even, zero_mul, zero_mod]
  have finish (n : Nat) {dest : Dest}
      (done : Upto c Done (realWidth c * n) (c.width - c.right) dest) :
      Done (realWidth c * (n + 1)) dest := by
    rw [mul_succ]
    exact done
  have wide (n : Nat) : (c.width - c.left - c.right) * (c.top + n - c.top) = realWidth c * n := by
    rw [Nat.add_sub_cancel_left, realWidth, Nat.sub_right_comm]
  have narrow (n : Nat) : (c.width - c.right - c.left) * (c.top + n - c.top) =
      realWidth c * n := by
    rw [Nat.add_sub_cancel_left, realWidth]
  have run : ∀ body : Nat → Dest → Dest, (∀ n d, c.top + n < c.height - c.buttom →
      Done (realWidth c * n) d → Done (realWidth c * (n + 1)) (body (c.top + n) d)) →
      Done (realWidth c * realHeight c) (forUp c.top (c.height - c.buttom) 1 body dest) := by
    intro body turn
    exact forUp_one (P := fun n d => Done (realWidth c * n) d) before turn
  change Done _ (forUp c.top (c.height - c.buttom) 1 (if 256 ≤ realWidth c then
    wideRow scale copy c else if 64 ≤ realWidth c then tileRow scale copy c
    else pairRow scale copy c) dest)
  by_cases large : 256 ≤ realWidth c
  · rw [if_pos large]
    refine run _ fun n d _ done => finish n ?_
    have reads := row n
    rw [columnOf_wide large, ← wide n] at reads
    rw [← wide n] at done ⊢
    exact wideRow_done step reads scaled large done
  rw [if_neg large]
  by_cases middle : 64 ≤ realWidth c
  · rw [if_pos middle]
    refine run _ fun n d _ done => finish n ?_
    have reads := row n
    rw [columnOf_middle large middle, ← narrow n] at reads
    rw [← narrow n] at done ⊢
    exact tileRow_done step reads scaled middle done
  · rw [if_neg middle]
    refine run _ fun n d _ done => finish n ?_
    have reads := row n
    rw [columnOf_narrow large middle, ← narrow n] at reads
    rw [← narrow n] at done ⊢
    exact pairRow_done step reads scaled done

variable {c : Crop} (addr : Nat → Nat)

def Copied (src dest : Memory) (g : Nat) (m : Memory) : Prop :=
  m = fill 0 g (fun a => src (addr a)) dest

theorem memcpy_extends (src dest : Memory) :
    Extends 1 (fun m d s n => memcpy m d src s n) addr (Copied addr src dest) := by
  intro g s n m _ _ bytes done
  have same (t : Nat) (less : t < n) : src (addr (g + t)) = src (s + t) := by
    rw [bytes t less]
  simp only [Copied] at done ⊢
  rw [Nat.div_one, done, memcpy_fill (f := fun a => src (addr a)) same]
  exact fill_append (Nat.zero_le _) (Nat.le_add_right _ _) _ _

theorem cscTiledToLinearCrop_eq (valid : EvenWindow c) (dest src : Memory) :
    cscTiledToLinearCrop dest src c =
      fill 0 (realWidth c * realHeight c) (fun a => src (sourceOf c a)) dest := by
  have before : Copied (sourceOf c) src dest 0 dest := (fill_empty 0 _ _).symm
  exact tiledToLinear_done valid (Or.inl rfl) (memcpy_extends (sourceOf c) src dest) before

theorem update_fill (d k : Nat) (f m : Memory) :
    update (fill d (d + k) f m) (d + k) (f (d + k)) = fill d (d + (k + 1)) f m := by
  funext a
  by_cases here : a = d + k
  · subst a
    rw [update_self, fill, if_pos (by omega)]
  · rw [update_of_ne here, fill, fill]
    by_cases inside : d ≤ a ∧ a < d + k
    · rw [if_pos inside, if_pos (by omega)]
    · rw [if_neg inside, if_neg (by omega)]

theorem cscDeinterleaveMemcpy_eq {u v src : Memory} {d s n : Nat}
    (first : ∀ t < n / 2, u (d + t) = src (s + t * 2))
    (second : ∀ t < n / 2, v (d + t) = src (s + (t * 2 + 1))) (dest : Memory × Memory) :
    cscDeinterleaveMemcpy dest d src s n =
      (fill d (d + n / 2) u dest.1, fill d (d + n / 2) v dest.2) := by
  refine forUp_one (P := fun k m => m = (fill d (d + k) u dest.1, fill d (d + k) v dest.2)) ?_ ?_
  · rw [add_zero, fill_empty, fill_empty]
  · intro k m less done
    rw [zero_add] at less ⊢
    rw [done, ← first k less, ← second k less, update_fill, update_fill]

def Parted (src u v : Memory) (g : Nat) (m : Memory × Memory) : Prop :=
  m = (fill 0 (g / 2) (fun a => src (addr (2 * a))) u,
    fill 0 (g / 2) (fun a => src (addr (2 * a + 1))) v)

theorem deinterleave_extends (src u v : Memory) :
    Extends 2 (fun m d s n => cscDeinterleaveMemcpy m d src s n) addr (Parted addr src u v) := by
  intro g s n m even pairs bytes done
  have half : (g + n) / 2 = g / 2 + n / 2 := by omega
  have first (t : Nat) (less : t < n / 2) : src (addr (2 * (g / 2 + t))) = src (s + t * 2) := by
    rw [show 2 * (g / 2 + t) = g + t * 2 by omega, bytes _ (by omega)]
  have second (t : Nat) (less : t < n / 2) :
      src (addr (2 * (g / 2 + t) + 1)) = src (s + (t * 2 + 1)) := by
    rw [show 2 * (g / 2 + t) + 1 = g + (t * 2 + 1) by omega, bytes _ (by omega)]
  simp only [Parted] at done ⊢
  rw [done, cscDeinterleaveMemcpy_eq (u := fun a => src (addr (2 * a)))
    (v := fun a => src (addr (2 * a + 1))) first second, half]
  simp only [fill_append (zero_le _) (le_add_right _ _)]

theorem cscTiledToLinearDeinterleaveCrop_eq (valid : EvenWindow c) (u v src : Memory) :
    cscTiledToLinearDeinterleaveCrop u v src c =
      (fill 0 (realWidth c * realHeight c / 2) (fun a => src (sourceOf c (2 * a))) u,
        fill 0 (realWidth c * realHeight c / 2) (fun a => src (sourceOf c (2 * a + 1))) v) := by
  have before : Parted (sourceOf c) src u v 0 (u, v) := by
    rw [Parted, Nat.zero_div, fill_empty, fill_empty]
  exact tiledToLinear_done valid (Or.inr rfl) (deinterleave_extends (sourceOf c) src u v) before

theorem area_even (valid : EvenWindow c) : realWidth c * realHeight c % 2 = 0 := by
  obtain ⟨width, left, right, _, _⟩ := valid
  have even : realWidth c % 2 = 0 := by rw [realWidth]; omega
  rw [mul_mod, even, zero_mul, zero_mod]

/-- The plain conversion writes the bytes of the window and no others; of these the
    de-interleaving conversion writes those with an even index to U and those with an odd index to
    V, and nothing else. -/
theorem deinterleave_factors (c : Crop) (valid : EvenWindow c) (src dest u v : Memory) :
    (∀ a < realWidth c * realHeight c, ∀ other,
        cscTiledToLinearCrop other src c a = cscTiledToLinearCrop dest src c a) ∧
      (∀ a, realWidth c * realHeight c ≤ a → cscTiledToLinearCrop dest src c a = dest a) ∧
      (∀ k, 2 * k < realWidth c * realHeight c →
        (cscTiledToLinearDeinterleaveCrop u v src c).1 k =
            cscTiledToLinearCrop dest src c (2 * k) ∧
          (cscTiledToLinearDeinterleaveCrop u v src c).2 k =
            cscTiledToLinearCrop dest src c (2 * k + 1)) ∧
      ∀ k, realWidth c * realHeight c ≤ 2 * k →
        (cscTiledToLinearDeinterleaveCrop u v src c).1 k = u k ∧
          (cscTiledToLinearDeinterleaveCrop u v src c).2 k = v k := by
  have even := area_even valid
  have plain (other : Memory) := cscTiledToLinearCrop_eq valid other src
  rw [cscTiledToLinearDeinterleaveCrop_eq valid, plain dest]
  generalize realWidth c * realHeight c = area at even plain ⊢
  refine ⟨?_, ?_, ?_, ?_⟩
  · intro a inside other
    rw [plain other, fill, if_pos ⟨zero_le a, inside⟩, fill, if_pos ⟨zero_le a, inside⟩]
  · intro a outside
    rw [fill, if_neg (by omega)]
  · intro k inside
    have half : k < area / 2 := by omega
    have last : 2 * k + 1 < area := by omega
    simp only [fill, zero_le, true_and, if_pos half, if_pos inside, if_pos last]
  · intro k outside
    have half : ¬ k < area / 2 := by omega
    simp only [fill, zero_le, true_and, if_neg half]

/-- Chroma of a 1080p frame with 8 columns cut off on both sides. -/
theorem deinterleave_factors_1080p : EvenWindow ⟨1920, 540, 8, 0, 8, 0⟩ ∧
    ∀ src dest u v : Memory, ∀ k < 514080,
      (cscTiledToLinearDeinterleaveCrop u v src ⟨1920, 540, 8, 0, 8, 0⟩).1 k =
          cscTiledToLinearCrop dest src ⟨1920, 540, 8, 0, 8, 0⟩ (2 * k) ∧
        (cscTiledToLinearDeinterleaveCrop u v src ⟨1920, 540, 8, 0, 8, 0⟩).2 k =
          cscTiledToLinearCrop dest src ⟨1920, 540, 8, 0, 8, 0⟩ (2 * k + 1) := by
  have valid : EvenWindow ⟨1920, 540, 8, 0, 8, 0⟩ := by constructor <;> decide
  refine ⟨valid, ?_⟩
  intro src dest u v k inside
  have area : realWidth ⟨1920, 540, 8, 0, 8, 0⟩ * realHeight ⟨1920, 540, 8, 0, 8, 0⟩ = 1028160 := by
    decide
  exact (deinterleave_factors _ valid src dest u v).2.2.1 k (by omega)

end TiledToLinear
