import SamsungHardware.TiledFrames.TileAddress

/- The planes of an NV12T frame in the output buffer of the decoder, whose size
   `SEC_UpdateFrameSize` of SEC_OMX_Vdec.c computes, and the addresses of `tile_4x2_read` inside of
   them. Sizes are `OMX_U32`. -/
namespace PlaneAddresses
open TileAddress Nat

def alignTo32B (x : Nat) : Nat := ((x + (1 <<< 5) - 1) >>> 5) <<< 5

def alignTo128B (x : Nat) : Nat := ((x + (1 <<< 7) - 1) >>> 7) <<< 7

def alignTo8KB (x : Nat) : Nat := ((x + (1 <<< 13) - 1) >>> 13) <<< 13

def planeSize (width height : Nat) : Nat := alignTo128B width * alignTo32B height

inductive ColorFormat where
  | yuv420Planar | yuv420SemiPlanar | nv12TPhysicalAddress | anbYuv420SemiPlanar | nv12Tiled | other
  deriving DecidableEq, Repr

structure VideoPort where
  (nFrameWidth nFrameHeight nStride nSliceHeight : Nat)
  eColorFormat : ColorFormat
  nBufferSize : Nat
  deriving DecidableEq, Repr

def VideoPort.resize (port : VideoPort) (width height size : Nat) : VideoPort :=
  if width ≠ 0 ∧ height ≠ 0 then { port with nBufferSize := size % 2 ^ 32 } else port

def updateFrameSize (input output : VideoPort) : VideoPort :=
  if output.nFrameWidth ≠ input.nFrameWidth ∨ output.nFrameHeight ≠ input.nFrameHeight then
    let output := { output with
      nFrameWidth := input.nFrameWidth
      nFrameHeight := input.nFrameHeight
      nStride := input.nStride
      nSliceHeight := input.nSliceHeight }
    let width := output.nStride
    let height := output.nSliceHeight
    match output.eColorFormat with
    | .yuv420Planar | .yuv420SemiPlanar | .nv12TPhysicalAddress | .anbYuv420SemiPlanar =>
      output.resize width height (width * height * 3 % 2 ^ 32 / 2)
    | .nv12Tiled =>
      let width := output.nFrameWidth
      let height := output.nFrameHeight
      output.resize width height
        (alignTo8KB (planeSize width height) + alignTo8KB (planeSize width (height / 2)))
    | .other => output.resize width height (width * height * 2)
  else output

theorem alignTo32B_eq (x : Nat) : alignTo32B x = (x + 31) / 32 * 32 := by
  simp only [alignTo32B, shiftRight_eq_div_pow, shiftLeft_eq]
  omega

theorem alignTo128B_eq (x : Nat) : alignTo128B x = (x + 127) / 128 * 128 := by
  simp only [alignTo128B, shiftRight_eq_div_pow, shiftLeft_eq]
  omega

theorem alignTo8KB_eq (x : Nat) : alignTo8KB x = (x + 8191) / 8192 * 8192 := by
  simp only [alignTo8KB, shiftRight_eq_div_pow, shiftLeft_eq]
  omega

theorem planeSize_eq (width height : Nat) :
    planeSize width height = (width + 127) / 128 * 128 * ((height + 31) / 32 * 32) := by
  rw [planeSize, alignTo128B_eq, alignTo32B_eq]

theorem planeSize_le {width height : Nat} (columns : width ≤ 16384) (rows : height ≤ 16384) :
    planeSize width height ≤ 2 ^ 28 := by
  have wide : (width + 127) / 128 * 128 ≤ 16384 := by omega
  have high : (height + 31) / 32 * 32 ≤ 16384 := by omega
  calc planeSize width height = (width + 127) / 128 * 128 * ((height + 31) / 32 * 32) :=
        planeSize_eq width height
    _ ≤ 16384 * 16384 := Nat.mul_le_mul wide high
    _ = 2 ^ 28 := by decide

/-- Both planes of a tiled frame have room in its buffer. -/
theorem planes_allocated {input output : VideoPort} (tiled : output.eColorFormat = .nv12Tiled)
    (changed : output.nFrameWidth ≠ input.nFrameWidth ∨ output.nFrameHeight ≠ input.nFrameHeight)
    (some_columns : 1 ≤ input.nFrameWidth) (columns : input.nFrameWidth ≤ 16384)
    (some_rows : 1 ≤ input.nFrameHeight) (rows : input.nFrameHeight ≤ 16384) :
    (∀ x y, x < input.nFrameWidth → y < input.nFrameHeight →
        readAddr input.nFrameWidth input.nFrameHeight x y <
          alignTo8KB (planeSize input.nFrameWidth input.nFrameHeight)) ∧
      ∀ x y, x < input.nFrameWidth → y < input.nFrameHeight / 2 →
        alignTo8KB (planeSize input.nFrameWidth input.nFrameHeight) +
            readAddr input.nFrameWidth (input.nFrameHeight / 2) x y <
          (updateFrameSize input output).nBufferSize := by
  have luma := planeSize_le columns rows
  have chroma := planeSize_le columns (show input.nFrameHeight / 2 ≤ 16384 by omega)
  have present : input.nFrameWidth ≠ 0 ∧ input.nFrameHeight ≠ 0 := by omega
  simp only [updateFrameSize, if_pos changed, tiled, VideoPort.resize, if_pos present,
    alignTo8KB_eq]
  have inside {height x y} (column : x < input.nFrameWidth) (row : y < height) (_ : y < 16384) :
      readAddr input.nFrameWidth height x y < planeSize input.nFrameWidth height := by
    rw [readAddr_tileAddr row some_columns (by omega) (by omega), planeSize_eq]
    exact tileAddr_lt column row
  refine ⟨fun x y column row => ?_, fun x y column row => ?_⟩
  · have := inside column row (by omega)
    omega
  · have := inside column row (by omega)
    omega

theorem first_frame_allocated : readAddr 64 32 0 9 < alignTo8KB (planeSize 64 32) :=
  (@planes_allocated ⟨64, 32, 0, 0, .other, 0⟩ ⟨0, 0, 0, 0, .nv12Tiled, 0⟩ rfl (by decide)
    (by decide) (by decide) (by decide) (by decide)).1 0 9 (by decide) (by decide)

/-- Every byte of a plane has an address of its own inside the plane. -/
theorem plane_addresses (width height : Nat) (some_columns : 1 ≤ width) (columns : width ≤ 16384)
    (rows : height ≤ 16384) :
    (∀ x y, x < width → y < height →
        tile4x2Read width height x y + x % 4 < alignTo128B width * alignTo32B height) ∧
      ∀ x y x' y', x < width → y < height → x' < width → y' < height →
        tile4x2Read width height x y + x % 4 = tile4x2Read width height x' y' + x' % 4 →
        x = x' ∧ y = y' := by
  have formula : ∀ x y, x < width → y < height →
      tile4x2Read width height x y + x % 4 = tileAddr width height x y := by
    intro x y column row
    exact readAddr_tileAddr row some_columns (by omega) (by omega)
  constructor
  · intro x y column row
    rw [formula x y column row, alignTo128B_eq, alignTo32B_eq]
    exact tileAddr_lt column row
  · intro x y x' y' column row column' row' same
    rw [formula x y column row, formula x' y' column' row'] at same
    exact tileAddr_inj column row column' row' same

theorem plane_addresses_1080p :
    (∀ x y, x < 1920 → y < 1080 →
        tile4x2Read 1920 1080 x y + x % 4 < alignTo128B 1920 * alignTo32B 1080) ∧
      ∀ x y x' y', x < 1920 → y < 1080 → x' < 1920 → y' < 1080 →
        tile4x2Read 1920 1080 x y + x % 4 = tile4x2Read 1920 1080 x' y' + x' % 4 →
        x = x' ∧ y = y' :=
  plane_addresses 1920 1080 (by decide) (by decide) (by decide)

end PlaneAddresses
