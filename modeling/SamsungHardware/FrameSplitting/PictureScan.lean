import SamsungHardware.FrameSplitting.InputAssembly
import SamsungHardware.Library.PatternMarks

/- The detectors of MPEG-4 and H.263 in SEC_OMX_Mpeg4dec.c and of VC-1 in SEC_OMX_Wmvdec.c. They
   look for picture start codes with a shift register, and that of H.263 looks at one byte more,
   which may be the first one behind the buffer. `behind` is the memory there. -/
namespace PictureScan
open InputAssembly PatternMarks List Option
open BitVec hiding and_assoc

def readAt (stream : List UInt8) (behind : Nat → UInt8) (i : Nat) : UInt8 :=
  stream[i]?.getD (behind (i - stream.length))

def push (startCode : BitVec 32) (readStream : UInt8) : BitVec 32 :=
  startCode <<< 8 ||| readStream.toBitVec.setWidth 32

/-- The loops that the three detectors have in common, from `len` on. The test is told the
    register and the next byte. Behind the last byte the loop is left. -/
def seek (found : BitVec 32 → UInt8 → Bool) (behind : Nat → UInt8) :
    BitVec 32 → Nat → List UInt8 → Option Nat
  | _, _, [] => none
  | startCode, len, readStream :: stream =>
    let startCode := push startCode readStream
    if found startCode (readAt stream behind 0) then some (len + 1)
    else seek found behind startCode (len + 1) stream

/-- What follows the checks of the flags: the first start code is skipped when a frame begins,
    and the next one ends the frame. -/
def checkStartCodes (found : BitVec 32 → UInt8 → Bool) (size : Nat) (behind : Nat → UInt8)
    (stream : List UInt8) (bPreviousFrameEOF : Bool) : Int × Bool :=
  let first := if bPreviousFrameEOF then seek found behind 0xFFFFFFFF 0 stream else some 0
  match first with
  | none => (stream.length, false)
  | some len =>
    match seek found behind 0xFFFFFFFF len (stream.drop len) with
    | none => (stream.length, false)
    | some len => (len - size, true)

/-- `Check_Mpeg4_Frame`, with the new value of `gbFIMV1`. -/
def checkMpeg4Frame (ghMFCHandle gbFIMV1 : Bool) (behind : Nat → UInt8) (stream : List UInt8)
    (flag : BitVec 32) (bPreviousFrameEOF : Bool) : (Int × Bool) × Bool :=
  if flag &&& bufferFlagCodecConfig ≠ 0 ∧ readAt stream behind 0 = 0x03 ∧ ghMFCHandle then
    ((stream.length, true), true)
  else if gbFIMV1 then ((stream.length, true), gbFIMV1)
  else (checkStartCodes (fun startCode _ => startCode = 0x1B6) 4 behind stream bPreviousFrameEOF,
    gbFIMV1)

def checkH263Frame (behind : Nat → UInt8) (stream : List UInt8) (_flag : BitVec 32)
    (bPreviousFrameEOF : Bool) : Int × Bool :=
  checkStartCodes (fun startCode pType => startCode <<< 8 >>> 10 = 0x20 && pType &&& 0x03 = 0x02)
    3 behind stream bPreviousFrameEOF

inductive WmvFormat where
  | vc1 | wmv3 | unknown
  deriving DecidableEq, Repr

def biCompression (stream : List UInt8) (behind : Nat → UInt8) : Nat :=
  (readAt stream behind 16).toNat + (readAt stream behind 17).toNat * 2 ^ 8 +
    (readAt stream behind 18).toNat * 2 ^ 16 + (readAt stream behind 19).toNat * 2 ^ 24

def wmv3 : Nat := 0x33564d57
def wvc1 : Nat := 0x31435657
def wmva : Nat := 0x41564d57

/-- `Check_Wmv_Frame`, with the new value of `gWvmFormat`. The first argument says that
    `WO_START_CODE` is defined. -/
def checkWmvFrame (woStartCode : Bool) (gWvmFormat : WmvFormat) (behind : Nat → UInt8)
    (stream : List UInt8) (flag : BitVec 32) (bPreviousFrameEOF : Bool) :
    (Int × Bool) × WmvFormat :=
  let config := flag &&& bufferFlagCodecConfig ≠ 0
  let compressionID := biCompression stream behind
  if config ∧ compressionID = wmv3 then ((stream.length, true), .wmv3)
  else if config ∧ (compressionID = wvc1 ∨ compressionID = wmva) ∧ woStartCode then
    ((stream.length, true), .vc1)
  else
    let gWvmFormat :=
      if config ∧ (compressionID = wvc1 ∨ compressionID = wmva) then .vc1 else gWvmFormat
    if gWvmFormat = .wmv3 then ((stream.length, true), gWvmFormat)
    else if woStartCode then
      if gWvmFormat = .vc1 then ((stream.length, true), gWvmFormat) else ((-1, false), gWvmFormat)
    else (checkStartCodes (fun startCode _ => startCode = 0x10D) 4 behind stream
      bPreviousFrameEOF, gWvmFormat)

/-- The codecs with picture start codes. The decoder of MPEG-4 is not in the mode FIMV1, and VC-1
    is built without `WO_START_CODE`. -/
inductive Codec where
  | mpeg4 (ghMFCHandle : Bool)
  | h263
  | vc1 (gWvmFormat : WmvFormat)
  deriving DecidableEq, Repr

def Codec.check : Codec → (Nat → UInt8) → Detector
  | .mpeg4 ghMFCHandle, behind => fun stream flag bPreviousFrameEOF =>
    (checkMpeg4Frame ghMFCHandle false behind stream flag bPreviousFrameEOF).1
  | .h263, behind => checkH263Frame behind
  | .vc1 gWvmFormat, behind => fun stream flag bPreviousFrameEOF =>
    (checkWmvFrame false gWvmFormat behind stream flag bPreviousFrameEOF).1

def Codec.found : Codec → BitVec 32 → UInt8 → Bool
  | .mpeg4 _, startCode, _ => startCode = 0x1B6
  | .h263, startCode, pType => startCode <<< 8 >>> 10 = 0x20 && pType &&& 0x03 = 0x02
  | .vc1 _, startCode, _ => startCode = 0x10D

def Codec.switches : Codec → (Nat → UInt8) → List UInt8 → BitVec 32 → Bool
  | .mpeg4 ghMFCHandle, behind, stream, flag =>
    flag &&& bufferFlagCodecConfig ≠ 0 ∧ readAt stream behind 0 = 0x03 ∧ ghMFCHandle
  | .h263, _, _, _ => false
  | .vc1 gWvmFormat, behind, stream, flag =>
    gWvmFormat = .wmv3 ∨ (flag &&& bufferFlagCodecConfig ≠ 0 ∧ biCompression stream behind = wmv3)

variable {behind : Nat → UInt8}

section

variable {stream : List UInt8} {flag : BitVec 32}

theorem checkMpeg4Frame_mode {ghMFCHandle : Bool} (bPreviousFrameEOF : Bool)
    (steady : (Codec.mpeg4 ghMFCHandle).switches behind stream flag = false) :
    checkMpeg4Frame ghMFCHandle false behind stream flag bPreviousFrameEOF =
      (checkStartCodes (Codec.mpeg4 ghMFCHandle).found 4 behind stream bPreviousFrameEOF,
        false) := by
  have plain := of_decide_eq_false steady
  rw [checkMpeg4Frame, if_neg plain, if_neg Bool.false_ne_true]
  rfl

theorem checkWmvFrame_mode {gWvmFormat : WmvFormat} (bPreviousFrameEOF : Bool)
    (steady : (Codec.vc1 gWvmFormat).switches behind stream flag = false) :
    ∃ format, format ≠ .wmv3 ∧
      checkWmvFrame false gWvmFormat behind stream flag bPreviousFrameEOF =
        (checkStartCodes (Codec.vc1 gWvmFormat).found 4 behind stream bPreviousFrameEOF,
          format) := by
  have plain := of_decide_eq_false steady
  obtain ⟨other, unannounced⟩ := not_or.mp plain
  unfold checkWmvFrame
  rw [if_neg unannounced, if_neg (by simp)]
  by_cases announced : flag &&& bufferFlagCodecConfig ≠ 0 ∧
      (biCompression stream behind = wvc1 ∨ biCompression stream behind = wmva)
  · rw [if_pos announced, if_neg (by decide), if_neg Bool.false_ne_true]
    exact ⟨.vc1, by decide, rfl⟩
  · rw [if_neg announced, if_neg other, if_neg Bool.false_ne_true]
    exact ⟨gWvmFormat, other, rfl⟩

end

structure Cell where
  (byte next : UInt8)
  deriving DecidableEq, Repr

def cells (behind : Nat → UInt8) : List UInt8 → List Cell
  | [] => []
  | byte :: stream => ⟨byte, readAt stream behind 0⟩ :: cells behind stream

theorem cells_bytes (stream : List UInt8) : (cells behind stream).map Cell.byte = stream := by
  induction stream with
  | nil => rfl
  | cons byte stream ih => rw [cells, map_cons, ih]

theorem cells_drop (stream : List UInt8) :
    ∀ n, (cells behind stream).drop n = cells behind (stream.drop n) := by
  induction stream with
  | nil =>
    intro n
    simp [cells]
  | cons byte stream ih =>
    intro n
    cases n with
    | zero => rfl
    | succ n => exact ih n

theorem seek_eq_scan (found : BitVec 32 → UInt8 → Bool) (stream : List UInt8) :
    ∀ startCode len, seek found behind startCode len stream =
      scan (fun startCode cell => push startCode cell.byte)
        (fun startCode cell => found startCode cell.next) startCode len (cells behind stream) := by
  induction stream with
  | nil =>
    intro startCode len
    rfl
  | cons byte stream ih =>
    intro startCode len
    rw [seek, cells, scan]
    simp only [ih]

def fourBytes (last : UInt8) (positive : last ≠ 0) : Pattern Cell where
  tests := [fun cell => cell.byte = 0, fun cell => cell.byte = 0, fun cell => cell.byte = 1,
    fun cell => cell.byte = last]
  long := by simp
  apart d positiveD small := by
    have cases : d = 1 ∨ d = 2 ∨ d = 3 := by
      simp only [length_cons, length_nil] at small
      omega
    rcases cases with rfl | rfl | rfl
    · refine ⟨1, _, _, rfl, rfl, ?_⟩
      intro cell both
      simp only [decide_eq_true_eq] at both
      rw [both.1] at both
      exact absurd both.2 (by decide)
    · refine ⟨0, _, _, rfl, rfl, ?_⟩
      intro cell both
      simp only [decide_eq_true_eq] at both
      rw [both.1] at both
      exact absurd both.2 (by decide)
    · refine ⟨0, _, _, rfl, rfl, ?_⟩
      intro cell both
      simp only [decide_eq_true_eq] at both
      exact positive (both.2.symm.trans both.1)

def pictureStart : Pattern Cell where
  tests := [fun cell => cell.byte = 0, fun cell => cell.byte = 0,
    fun cell => cell.byte.toNat / 4 = 0x20 && cell.next &&& 0x03 = 0x02]
  long := by decide
  apart d positiveD small := by
    have disjoint : ∀ cell : Cell, ¬ (decide (cell.byte = 0) = true ∧
        (cell.byte.toNat / 4 = 0x20 && cell.next &&& 0x03 = 0x02) = true) := by
      intro cell both
      simp only [decide_eq_true_eq, Bool.and_eq_true] at both
      rw [both.1] at both
      exact absurd both.2.1 (by decide)
    have cases : d = 1 ∨ d = 2 := by
      simp only [length_cons, length_nil] at small
      omega
    rcases cases with rfl | rfl
    · exact ⟨1, _, _, rfl, rfl, disjoint⟩
    · exact ⟨0, _, _, rfl, rfl, disjoint⟩

def Codec.pattern : Codec → Pattern Cell
  | .mpeg4 _ => fourBytes 0xB6 (by decide)
  | .h263 => pictureStart
  | .vc1 _ => fourBytes 0x0D (by decide)

section

theorem push_toNat (startCode : BitVec 32) (byte : UInt8) :
    (push startCode byte).toNat = startCode.toNat % 2 ^ 24 * 2 ^ 8 + byte.toNat := by
  have small : byte.toNat < 2 ^ 8 := byte.toNat_lt
  have shifted : (startCode <<< 8).toNat = (startCode.toNat % 2 ^ 24) <<< 8 := by
    rw [toNat_shiftLeft, Nat.shiftLeft_eq, Nat.shiftLeft_eq]
    omega
  have widened : (byte.toBitVec.setWidth 32).toNat = byte.toNat := by
    rw [toNat_setWidth, UInt8.toNat_toBitVec]
    exact Nat.mod_eq_of_lt (by omega)
  rw [push, toNat_or, shifted, widened, ← Nat.shiftLeft_add_eq_or_of_lt small,
    Nat.shiftLeft_eq]

variable (front : List Cell)

def register : BitVec 32 :=
  front.foldl (fun startCode cell => push startCode cell.byte) 0xFFFFFFFF

theorem register_append (cell : Cell) :
    register (front ++ [cell]) = push (register front) cell.byte := by
  rw [register, foldl_append]
  rfl

theorem at_end (pattern : Pattern Cell) (front back : List Cell)
    (size : back.length = pattern.size) :
    (∃ p, p + pattern.size = (front ++ back).length ∧ pattern.At (front ++ back) p) ↔
      pattern.At back 0 := by
  have here : pattern.At (front ++ back) (front.length + 0) ↔ pattern.At back 0 := at_drop
  rw [← here, length_append, size]
  constructor
  · intro both
    obtain ⟨p, ends, found⟩ := both
    have same : p = front.length := by omega
    rw [← same]
    exact found
  · intro found
    exact ⟨front.length, rfl, found⟩

theorem split_last {k : Nat} (long : k ≤ front.length) :
    ∃ older last, front = older ++ last ∧ last.length = k :=
  ⟨front.take (front.length - k), front.drop (front.length - k), (take_append_drop _ _).symm,
    by rw [length_drop]; omega⟩

theorem tests_cons {first : Cell → Bool} {tests : List (Cell → Bool)} {cell : Cell}
    {s : List Cell} :
    (∀ (i : Nat) (test : Cell → Bool), (first :: tests)[i]? = some test →
        ∃ x, (cell :: s)[i]? = some x ∧ test x = true) ↔ first cell = true ∧
      ∀ (i : Nat) (test : Cell → Bool), tests[i]? = some test →
        ∃ x, s[i]? = some x ∧ test x = true := by
  rw [← Nat.and_forall_add_one]
  simp

theorem fourBytes_at {last : UInt8} (positive : last ≠ 0) (a b c d : Cell) :
    (fourBytes last positive).At [a, b, c, d] 0 ↔
      a.byte = 0 ∧ b.byte = 0 ∧ c.byte = 1 ∧ d.byte = last := by
  simp only [Pattern.At, fourBytes, Nat.zero_add, tests_cons]
  simp

theorem pictureStart_at (a b c : Cell) :
    pictureStart.At [a, b, c] 0 ↔
      a.byte = 0 ∧ b.byte = 0 ∧ c.byte.toNat / 4 = 0x20 ∧ c.next &&& 0x03 = 0x02 := by
  simp only [Pattern.At, pictureStart, Nat.zero_add, tests_cons]
  simp

theorem register_short (short : front.length < 4) :
    2 ^ 32 ≤ (register front).toNat + 2 ^ (8 * front.length) := by
  induction front using List.reverseRecOn with
  | nil => exact Nat.le_refl _
  | append_singleton front cell ih =>
    rw [length_append, length_singleton] at short ⊢
    have before := ih (Nat.lt_of_succ_lt short)
    have size := (register front).isLt
    have power : 2 ^ (8 * (front.length + 1)) = 2 ^ (8 * front.length) * 2 ^ 8 := Nat.pow_add ..
    have small : 2 ^ (8 * (front.length + 1)) ≤ 2 ^ 24 :=
      Nat.pow_le_pow_right (by decide) (by omega)
    rw [register_append, push_toNat]
    omega

theorem register_three (older : List Cell) (a b c : Cell) :
    (register (older ++ [a, b, c])).toNat % 2 ^ 24 =
      a.byte.toNat * 2 ^ 16 + b.byte.toNat * 2 ^ 8 + c.byte.toNat := by
  have first := a.byte.toNat_lt
  have second := b.byte.toNat_lt
  have third := c.byte.toNat_lt
  have split : older ++ [a, b, c] = older ++ [a] ++ [b] ++ [c] := by simp
  rw [split, register_append, register_append, register_append, push_toNat, push_toNat, push_toNat]
  omega

theorem register_four (older : List Cell) (a b c d : Cell) :
    (register (older ++ [a, b, c, d])).toNat = a.byte.toNat * 2 ^ 24 + b.byte.toNat * 2 ^ 16 +
      c.byte.toNat * 2 ^ 8 + d.byte.toNat := by
  have split : older ++ [a, b, c, d] = older ++ [a, b, c] ++ [d] := by simp
  rw [split, register_append, push_toNat, register_three]
  omega

theorem byte_eq_iff (byte value : UInt8) : byte = value ↔ byte.toNat = value.toNat :=
  UInt8.toNat_inj.symm

/-- Comparing the register with 00 00 01 and `last` recognises these bytes. -/
theorem fourBytes_recognised {last : UInt8} (positive : last ≠ 0) {code : BitVec 32}
    (value : code.toNat = 2 ^ 8 + last.toNat) :
    (fourBytes last positive).Recognised (fun startCode cell => push startCode cell.byte)
      (fun startCode _ => startCode = code) 0xFFFFFFFF := by
  intro front x
  have small := last.toNat_lt
  have equal (r : BitVec 32) : r = code ↔ r.toNat = 2 ^ 8 + last.toNat := by
    rw [← toNat_inj, value]
  rw [decide_eq_true_eq, equal]
  by_cases long : 3 ≤ front.length
  · obtain ⟨older, three, rfl, length⟩ := split_last front long
    obtain ⟨a, b, c, rfl⟩ := length_eq_three.mp length
    have joined : older ++ [a, b, c] ++ [x] = older ++ [a, b, c, x] := by simp
    have ends := at_end (fourBytes last positive) older [a, b, c, x] rfl
    have count : (older ++ [a, b, c]).length + 1 = (older ++ [a, b, c, x]).length := by simp
    have bytes := register_four older a b c x
    rw [register] at bytes
    rw [joined, count, ends, fourBytes_at, bytes, byte_eq_iff a.byte, byte_eq_iff b.byte,
      byte_eq_iff c.byte, byte_eq_iff x.byte]
    have fourth := x.byte.toNat_lt
    simp only [UInt8.toNat_zero, UInt8.toNat_one]
    omega
  · -- fewer bytes cannot hold the code, and the register is too large
    have length : (front ++ [x]).length = front.length + 1 := by simp
    have large := register_short (front ++ [x]) (by omega)
    have power : 2 ^ (8 * (front ++ [x]).length) ≤ 2 ^ 24 :=
      Nat.pow_le_pow_right (by decide) (by omega)
    rw [register] at large
    apply iff_of_false
    · omega
    · intro occurrence
      have size : (fourBytes last positive).size = 4 := rfl
      omega

theorem shifted_toNat (startCode : BitVec 32) :
    (startCode <<< 8 >>> 10).toNat = startCode.toNat % 2 ^ 24 / 4 := by
  rw [toNat_ushiftRight, toNat_shiftLeft, Nat.shiftLeft_eq, Nat.shiftRight_eq_div_pow]
  omega

theorem pictureStart_recognised :
    pictureStart.Recognised (fun startCode cell => push startCode cell.byte)
      (fun startCode cell => startCode <<< 8 >>> 10 = 0x20 && cell.next &&& 0x03 = 0x02)
      0xFFFFFFFF := by
  intro front x
  have equal (r : BitVec 32) : r <<< 8 >>> 10 = 0x20 ↔ r.toNat % 2 ^ 24 / 4 = 0x20 := by
    rw [← toNat_inj, shifted_toNat]
    rfl
  rw [Bool.and_eq_true_iff, decide_eq_true_eq, decide_eq_true_eq, equal]
  by_cases long : 2 ≤ front.length
  · obtain ⟨older, two, rfl, length⟩ := split_last front long
    obtain ⟨a, b, rfl⟩ := length_eq_two.mp length
    have joined : older ++ [a, b] ++ [x] = older ++ [a, b, x] := by simp
    have ends := at_end pictureStart older [a, b, x] rfl
    have count : (older ++ [a, b]).length + 1 = (older ++ [a, b, x]).length := by simp
    have bytes := register_three older a b x
    rw [register] at bytes
    rw [joined, count, ends, pictureStart_at, bytes, byte_eq_iff a.byte, byte_eq_iff b.byte,
      ← and_assoc, ← and_assoc]
    apply and_congr_left
    intro _
    have first := a.byte.toNat_lt
    have second := b.byte.toNat_lt
    have third := x.byte.toNat_lt
    simp only [UInt8.toNat_zero]
    omega
  · have length : (front ++ [x]).length = front.length + 1 := by simp
    have large := register_short (front ++ [x]) (by omega)
    have power : 2 ^ (8 * (front ++ [x]).length) ≤ 2 ^ 16 :=
      Nat.pow_le_pow_right (by decide) (by omega)
    rw [register] at large
    have bound := ((front ++ [x]).foldl (fun startCode cell => push startCode cell.byte)
      0xFFFFFFFF).isLt
    apply iff_of_false
    · omega
    · intro occurrence
      obtain ⟨p, ends, -⟩ := occurrence
      have size : pictureStart.size = 3 := rfl
      omega

theorem Codec.recognised (codec : Codec) :
    codec.pattern.Recognised (fun startCode cell => push startCode cell.byte)
      (fun startCode cell => codec.found startCode cell.next) 0xFFFFFFFF := by
  cases codec with
  | mpeg4 ghMFCHandle => exact fourBytes_recognised (by decide) rfl
  | h263 => exact pictureStart_recognised
  | vc1 gWvmFormat => exact fourBytes_recognised (by decide) rfl

end

variable (codec : Codec)

def Codec.search : List Cell → Option Nat :=
  scan (fun startCode cell => push startCode cell.byte)
    (fun startCode cell => codec.found startCode cell.next) 0xFFFFFFFF 0

def Codec.find : List Cell → Bool → Option Nat :=
  codec.pattern.frameEnd codec.search

theorem Codec.finds : codec.pattern.marks.Finds codec.find :=
  (scan_searches codec.recognised).finds

theorem checkStartCodes_find (behind : Nat → UInt8) (stream : List UInt8) (fresh : Bool) :
    (if (checkStartCodes codec.found codec.pattern.size behind stream fresh).2 then
      some (checkStartCodes codec.found codec.pattern.size behind stream fresh).1.toNat else none) =
      codec.find (cells behind stream) fresh := by
  have found (s : List UInt8) (len : Nat) : seek codec.found behind 0xFFFFFFFF len s =
      (codec.search (cells behind s)).map (len + ·) := by
    rw [seek_eq_scan, scan_shift]
    rfl
  have back (n : Nat) : (n - (codec.pattern.size : Int)).toNat = n - codec.pattern.size := by
    omega
  unfold checkStartCodes Codec.find Pattern.frameEnd
  cases fresh with
  | false =>
    simp only [Bool.false_eq_true, if_false, drop_zero, found]
    cases codec.search (cells behind stream) with
    | none => rfl
    | some n => simp only [map_some, if_true, back, Nat.zero_add]
  | true =>
    simp only [if_true, found]
    cases first : codec.search (cells behind stream) with
    | none => rfl
    | some n =>
      simp only [map_some, Nat.zero_add, bind_some, cells_drop]
      cases codec.search (cells behind (stream.drop n)) with
      | none => rfl
      | some n' => simp only [map_some, if_true, back]

theorem Codec.foundWith_eq {behind : Nat → UInt8} {stream : List UInt8} {flag : BitVec 32}
    (fresh : Bool) (steady : codec.switches behind stream flag = false) :
    foundWith (codec.check behind) flag stream fresh = codec.find (cells behind stream) fresh := by
  rw [← checkStartCodes_find]
  cases codec with
  | mpeg4 ghMFCHandle =>
    simp only [foundWith, Codec.check, checkMpeg4Frame_mode fresh steady]
    rfl
  | h263 => rfl
  | vc1 gWvmFormat =>
    obtain ⟨format, -, same⟩ := checkWmvFrame_mode fresh steady
    simp only [foundWith, Codec.check, same]
    rfl

end PictureScan
