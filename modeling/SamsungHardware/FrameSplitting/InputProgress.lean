import SamsungHardware.FrameSplitting.DetectorReads
import SamsungHardware.FrameSplitting.H264Scan

/- What calls of `SEC_Preprocessor_InputData` do to the bytes that are assembled and to those that
   are left in the input buffer, and when no call gets any further. -/
namespace InputProgress
open InputAssembly PictureScan H264Scan DetectorReads List

def Within (check : Detector) : Prop :=
  ∀ stream flags fresh, (check stream flags fresh).2 = true →
    0 ≤ (check stream flags fresh).1 ∧ (check stream flags fresh).1 ≤ stream.length

theorem checkH264Frame_within (addSpsPpsIFrame : Bool) :
    Within (checkH264Frame addSpsPpsIFrame) := by
  intro stream flags fresh ends
  rcases checkH264Frame_searched addSpsPpsIFrame stream flags fresh with
    ⟨p, e, first, result⟩ | ⟨_, result⟩
  · have after := first.1.1.after
    have inside := first.1.1.inside
    rw [result]
    unfold frameStart
    split_ifs <;> omega
  · rw [result] at ends
    cases ends

theorem seek_le {found : BitVec 32 → UInt8 → Bool} {behind : Nat → UInt8} (stream : List UInt8) :
    ∀ {startCode len n}, seek found behind startCode len stream = some n →
      n ≤ len + stream.length := by
  induction stream with
  | nil =>
    intro startCode len n ends
    cases ends
  | cons byte stream ih =>
    intro startCode len n ends
    rw [seek] at ends
    rw [length_cons]
    split at ends
    · cases ends
      omega
    · have later := ih ends
      omega

theorem checkStartCodes_within (codec : Codec) (behind : Nat → UInt8) : Within fun stream _ fresh =>
      checkStartCodes codec.found codec.pattern.size behind stream fresh := by
  intro stream flags fresh ends
  dsimp only [checkStartCodes] at ends ⊢
  cases first : if fresh = true then seek codec.found behind 0xFFFFFFFF 0 stream else some 0 with
  | none =>
    rw [first] at ends
    cases ends
  | some len =>
    have inside : len ≤ stream.length := by
      cases fresh with
      | false =>
        cases first
        exact Nat.zero_le _
      | true =>
        have bound := seek_le stream first
        omega
    rw [first] at ends
    dsimp only at ends ⊢
    cases next : seek codec.found behind 0xFFFFFFFF len (stream.drop len) with
    | none =>
      rw [next] at ends
      cases ends
    | some n =>
      have long := size_le_seek codec next
      have bound := seek_le _ next
      rw [length_drop] at bound
      dsimp only
      constructor
      · omega
      · omega

theorem whole_within {stream : List UInt8} : 0 ≤ (stream.length : Int) ∧
    (stream.length : Int) ≤ stream.length := ⟨Int.natCast_nonneg _, Int.le_refl _⟩

theorem checkMpeg4Frame_within (ghMFCHandle gbFIMV1 : Bool) (behind : Nat → UInt8) :
    Within fun stream flag fresh =>
      (checkMpeg4Frame ghMFCHandle gbFIMV1 behind stream flag fresh).1 := by
  intro stream flag fresh ends
  dsimp only [checkMpeg4Frame] at ends ⊢
  split_ifs at ends ⊢
  · exact whole_within
  · exact whole_within
  · exact checkStartCodes_within (.mpeg4 ghMFCHandle) behind stream flag fresh ends

theorem checkH263Frame_within (behind : Nat → UInt8) : Within (checkH263Frame behind) :=
  checkStartCodes_within .h263 behind

theorem checkWmvFrame_within (woStartCode : Bool) (gWvmFormat : WmvFormat)
    (behind : Nat → UInt8) : Within fun stream flag fresh =>
      (checkWmvFrame woStartCode gWvmFormat behind stream flag fresh).1 := by
  intro stream flag fresh ends
  dsimp only [checkWmvFrame] at ends ⊢
  split_ifs at ends ⊢
  all_goals first
    | exact whole_within
    | exact checkStartCodes_within (.vc1 gWvmFormat) behind stream flag fresh ends

theorem checkVP8Frame_within (behind : Nat → UInt8) : Within (checkVP8Frame behind) :=
  fun _ _ _ _ => whole_within

def checked (check : Detector) (component : Component) : Nat × Bool :=
  if component.bUseFlagEOF then (component.inputUseBuffer.stream.length, true)
  else
    let result := check component.inputUseBuffer.stream component.inputUseBuffer.nFlags
      (decide (component.inputData.dataLen = 0))
    (result.1.toNat, result.2)

def copySize (check : Detector) (component : Component) : Nat :=
  if (checked check component).2 then (checked check component).1
  else component.inputUseBuffer.stream.length

def Fits (check : Detector) (component : Component) : Prop :=
  copySize check component ≤ component.inputData.allocSize - component.inputData.dataLen

instance (check : Detector) (component : Component) : Decidable (Fits check component) :=
  inferInstanceAs (Decidable (_ ≤ _))

section

variable {check : Detector} {component : Component}

structure Loaded (component : Component) : Prop where
  valid : component.inputUseBuffer.dataValid = true
  remaining : component.inputUseBuffer.stream ≠ []

theorem restore_bytes {data : Data} {flagEOF : Bool} (held : data.dataLen ≠ 0) :
    data.restore flagEOF = data := by
  rw [Data.restore, if_neg fun all => held all.2.1]

theorem copySize_le (within : Within check) :
    copySize check component ≤ component.inputUseBuffer.stream.length := by
  unfold copySize checked
  by_cases use : component.bUseFlagEOF = true
  · simp [use]
  · simp only [use, Bool.false_eq_true, if_false]
    split_ifs with ends
    · have bounds := within _ _ _ ends
      omega
    · exact Nat.le_refl _

/-- Nothing is copied only if the detector ends the frame in front of the first byte. -/
theorem copySize_zero (loaded : Loaded component) (zero : copySize check component = 0) :
    component.bUseFlagEOF = false ∧ (checked check component).2 = true ∧
      (checked check component).1 = 0 := by
  have positive := length_pos_iff.mpr loaded.remaining
  unfold copySize at zero
  by_cases ends : (checked check component).2 = true
  · rw [if_pos ends] at zero
    cases use : component.bUseFlagEOF with
    | false => exact ⟨rfl, ends, zero⟩
    | true =>
      simp only [checked, use, if_true] at zero
      omega
  · rw [if_neg ends] at zero
    omega

def Data.copied (data : Data) (buffer : DataBuffer) (n : Nat)
    (room : n ≤ data.allocSize - data.dataLen) : Data :=
  if decide (data.dataLen = 0) then
    { data.append buffer.stream n room with
      timeStamp := buffer.timeStamp, nFlags := buffer.nFlags }
  else data.append buffer.stream n room

theorem Data.copied_bytes (data : Data) {buffer : DataBuffer} {n : Nat}
    (room : n ≤ data.allocSize - data.dataLen) (size : n ≤ buffer.stream.length) :
    (Data.copied data buffer n room).bytes = data.bytes ++ buffer.stream.take n := by
  rw [← data.append_bytes room size, Data.copied]
  split_ifs <;> rfl

theorem stream_left (buffer : DataBuffer) (rest : List UInt8) :
    (if rest.isEmpty then inputBufferReturn else { buffer with stream := rest }).stream = rest := by
  split_ifs with empty
  · exact (isEmpty_iff.mp empty).symm
  · rfl

theorem call_fits (loaded : Loaded component) (fits : Fits check component) :
    let data := Data.copied component.inputData component.inputUseBuffer
      (copySize check component) fits
    let flags := endOfStream component.bUseFlagEOF
      (component.bSaveFlagEOS || component.inputUseBuffer.nFlags &&& bufferFlagEOS != 0)
      (checked check component).2
      ((checked check component).1 == component.inputUseBuffer.stream.length)
      component.inputUseBuffer.nFlags data.nFlags data.dataLen
    let called := preprocessorInputData check component
    called.1 = flags.2.1 ∧
      called.2.inputData = Data.restore { data with nFlags := flags.1 } flags.2.1 ∧
      called.2.inputUseBuffer.stream =
        component.inputUseBuffer.stream.drop (copySize check component) := by
  obtain ⟨⟨dataValid, stream, nFlags, timeStamp⟩, data, useFlag, saveFlag, start⟩ := component
  obtain ⟨valid, remaining⟩ := loaded
  subst valid
  unfold Fits copySize checked at fits
  unfold copySize checked
  dsimp only at fits ⊢
  simp only [preprocessorInputData, Bool.true_eq_false, if_false]
  rw [dif_pos fits]
  refine ⟨rfl, rfl, ?_⟩
  rw [stream_left ⟨true, stream, nFlags, timeStamp⟩]

theorem endOfStream_reports (bUseFlagEOF bSaveFlagEOS whole : Bool)
    (bufferFlags dataFlags : BitVec 32) (dataLen : Nat) :
    (endOfStream bUseFlagEOF bSaveFlagEOS true whole bufferFlags dataFlags dataLen).2.1 = true := by
  unfold endOfStream
  split_ifs <;> rfl

theorem call_moves (within : Within check) (loaded : Loaded component)
    (fits : Fits check component) :
    let called := preprocessorInputData check component
    called.2.inputData.bytes = component.inputData.bytes ++
        component.inputUseBuffer.stream.take (copySize check component) ∧
      called.2.inputUseBuffer.stream =
        component.inputUseBuffer.stream.drop (copySize check component) ∧
      ((checked check component).2 = true → called.1 = true) := by
  obtain ⟨reports, data, stream⟩ := call_fits loaded fits
  have bytes := Data.copied_bytes component.inputData fits (copySize_le within)
  refine ⟨?_, stream, fun ends => ?_⟩
  · rw [data]
    by_cases zero : copySize check component = 0
    · -- the last data are not taken again, since the flag for the end of the stream is cleared
      obtain ⟨use, ends, size⟩ := copySize_zero loaded zero
      have other : (0 == component.inputUseBuffer.stream.length) = false := by
        have positive := length_pos_iff.mpr loaded.remaining
        exact beq_false_of_ne (by omega)
      have flags : ∀ saved dataFlags dataLen, (endOfStream component.bUseFlagEOF saved
          (checked check component).2
          ((checked check component).1 == component.inputUseBuffer.stream.length)
          component.inputUseBuffer.nFlags dataFlags dataLen).1 =
            component.inputUseBuffer.nFlags &&& ~~~bufferFlagEOS := by
        intro saved dataFlags dataLen
        rw [use, size, other]
        rfl
      rw [restore_quiet (flags _ _ _)]
      exact bytes
    · have long : (Data.copied component.inputData component.inputUseBuffer
          (copySize check component) fits).dataLen ≠ 0 := by
        have moved := congrArg List.length bytes
        rw [Data.bytes_length, length_append, length_take_of_le (copySize_le within)] at moved
        omega
      have kept (nFlags : BitVec 32) (flagEOF : Bool) : Data.restore
          { Data.copied component.inputData component.inputUseBuffer (copySize check component)
            fits with nFlags := nFlags } flagEOF = _ := restore_bytes long
      rw [kept]
      exact bytes
  · rw [reports, ends]
    exact endOfStream_reports _ _ _ _ _ _

theorem call_overflows (loaded : Loaded component) (overflows : ¬ Fits check component) :
    preprocessorInputData check component =
      (false, { component with
        inputData := dataReset component.inputData
        bSaveFlagEOS := component.bSaveFlagEOS ||
          component.inputUseBuffer.nFlags &&& bufferFlagEOS != 0 }) := by
  obtain ⟨⟨dataValid, stream, nFlags, timeStamp⟩, data, useFlag, saveFlag, start⟩ := component
  obtain ⟨valid, remaining⟩ := loaded
  subst valid
  unfold Fits copySize checked at overflows
  dsimp only at overflows
  simp only [preprocessorInputData, Bool.true_eq_false, if_false]
  rw [dif_neg overflows]
  simp [remaining]

variable (check component)

def Conserves : Prop :=
  ∃ n, (preprocessorInputData check component).2.inputData.bytes =
      component.inputData.bytes ++ component.inputUseBuffer.stream.take n ∧
    (preprocessorInputData check component).2.inputUseBuffer.stream =
      component.inputUseBuffer.stream.drop n

def Advances : Prop :=
  (preprocessorInputData check component).2.inputUseBuffer.stream.length <
      component.inputUseBuffer.stream.length ∨
    (preprocessorInputData check component).1 = true

variable {check component}

theorem conserves_of_fits (within : Within check) (loaded : Loaded component)
    (fits : Fits check component) : Conserves check component := by
  obtain ⟨bytes, stream, _⟩ := call_moves within loaded fits
  exact ⟨_, bytes, stream⟩

theorem advances_iff (within : Within check) (loaded : Loaded component) :
    Advances check component ↔ Fits check component := by
  constructor
  · intro advances
    by_contra overflows
    rw [Advances, call_overflows loaded overflows] at advances
    rcases advances with shorter | reported
    · exact Nat.lt_irrefl _ shorter
    · cases reported
  · intro fits
    obtain ⟨_, stream, reports⟩ := call_moves within loaded fits
    by_cases zero : copySize check component = 0
    · exact Or.inr (reports (copySize_zero loaded zero).2.1)
    · have positive := length_pos_iff.mpr loaded.remaining
      left
      rw [stream, length_drop]
      omega

end

variable (check : Nat → Detector) (component : Component)

def afterCalls : Nat → Component
  | 0 => component
  | k + 1 => (preprocessorInputData (check k) (afterCalls k)).2

/-- No call of an infinite run moves the input or reports a frame. -/
def Stalls : Prop :=
  ∀ k, (preprocessorInputData (check k) (afterCalls check component k)).1 = false ∧
    (afterCalls check component k).inputUseBuffer = component.inputUseBuffer

def Discards : Prop :=
  ∃ k, (afterCalls check component k).inputData.bytes ≠ [] ∧
    (afterCalls check component (k + 1)).inputData.bytes = []

def emptied : Component := { component with inputData := dataReset component.inputData }

variable {check component}

theorem overflow_after (loaded : Loaded component) (k : Nat)
    (overflows : ∀ i ≤ k, ¬ Fits (check i) (afterCalls check component i)) :
    ∃ saved, afterCalls check component (k + 1) =
      { emptied component with bSaveFlagEOS := saved } := by
  induction k with
  | zero => exact ⟨_, congrArg Prod.snd (call_overflows loaded (overflows 0 (Nat.le_refl 0)))⟩
  | succ k ih =>
    obtain ⟨saved, before⟩ := ih fun i small => overflows i (Nat.le_succ_of_le small)
    have loaded' : Loaded { emptied component with bSaveFlagEOS := saved } :=
      ⟨loaded.valid, loaded.remaining⟩
    have here := overflows (k + 1) (Nat.le_refl _)
    rw [before] at here
    rw [afterCalls, before, call_overflows loaded' here]
    exact ⟨_, rfl⟩

theorem buffer_after (loaded : Loaded component) (k : Nat)
    (overflows : ∀ i < k, ¬ Fits (check i) (afterCalls check component i)) :
    (afterCalls check component k).inputUseBuffer = component.inputUseBuffer := by
  cases k with
  | zero => rfl
  | succ k =>
    obtain ⟨saved, before⟩ := overflow_after loaded k fun i small =>
      overflows i (Nat.lt_succ_of_le small)
    rw [before]
    rfl

theorem loaded_of_buffer {component' : Component} (loaded : Loaded component)
    (same : component'.inputUseBuffer = component.inputUseBuffer) : Loaded component' where
  valid := by rw [same]; exact loaded.valid
  remaining := by rw [same]; exact loaded.remaining

theorem stalls_iff_overflows (within : ∀ k, Within (check k)) (loaded : Loaded component) :
    Stalls check component ↔ ∀ k, ¬ Fits (check k) (afterCalls check component k) := by
  constructor
  · intro stalls k
    have same := (stalls k).2
    rw [← advances_iff (within k) (loaded_of_buffer loaded same)]
    rintro (shorter | reported)
    · have next := (stalls (k + 1)).2
      rw [afterCalls] at next
      rw [next, same] at shorter
      exact Nat.lt_irrefl _ shorter
    · rw [(stalls k).1] at reported
      cases reported
  · intro overflows k
    have same := buffer_after loaded k fun i _ => overflows i
    refine ⟨?_, same⟩
    rw [call_overflows (loaded_of_buffer loaded same) (overflows k)]

/-- Behind the first call the assembly buffer is empty, so that only its whole size matters. -/
theorem overflows_iff (loaded : Loaded component) :
    (∀ k, ¬ Fits (check k) (afterCalls check component k)) ↔
      ¬ Fits (check 0) component ∧ ∀ k, ¬ Fits (check (k + 1)) (emptied component) := by
  constructor
  · intro overflows
    refine ⟨overflows 0, fun k => ?_⟩
    obtain ⟨saved, before⟩ := overflow_after loaded k fun i _ => overflows i
    have here := overflows (k + 1)
    rw [before] at here
    exact here
  · rintro ⟨first, later⟩ k
    induction k using Nat.strongRecOn with
    | _ k ih =>
      cases k with
      | zero => exact first
      | succ k =>
        obtain ⟨saved, before⟩ := overflow_after loaded k fun i small =>
          ih i (Nat.lt_succ_of_le small)
        rw [before]
        exact later k

theorem discards_iff (loaded : Loaded component)
    (overflows : ∀ k, ¬ Fits (check k) (afterCalls check component k)) :
    Discards check component ↔ component.inputData.dataLen ≠ 0 := by
  have lost (k : Nat) : (afterCalls check component (k + 1)).inputData.bytes = [] := by
    obtain ⟨saved, before⟩ := overflow_after loaded k fun i _ => overflows i
    rw [before]
    rfl
  have held : component.inputData.bytes ≠ [] ↔ component.inputData.dataLen ≠ 0 := by
    rw [← Data.bytes_length, ne_eq, ne_eq, length_eq_zero_iff]
  rw [← held]
  constructor
  · rintro ⟨k, before, _⟩
    cases k with
    | zero => exact before
    | succ k => exact absurd (lost k) before
  · intro before
    exact ⟨0, before, lost 0⟩

/-- A call gets further exactly if its copy fits, and then keeps the sequence of bytes. No call of a
    run gets any further exactly if nothing fits, also not into the empty buffer; such a run drops
    what was assembled before. -/
theorem assembly_progress_iff (within : ∀ k, Within (check k)) (loaded : Loaded component) :
    (Conserves (check 0) component ∧ Advances (check 0) component ↔ Fits (check 0) component) ∧
    (Advances (check 0) component ↔ Fits (check 0) component) ∧
    (Stalls check component ↔
      ¬ Fits (check 0) component ∧ ∀ k, ¬ Fits (check (k + 1)) (emptied component)) ∧
    (Stalls check component → (Discards check component ↔ component.inputData.dataLen ≠ 0)) := by
  have moves := advances_iff (within 0) loaded
  have stalls := stalls_iff_overflows within loaded
  refine ⟨⟨fun both => moves.mp both.2, fun fits => ?_⟩, moves, ?_, fun stalled => ?_⟩
  · exact ⟨conserves_of_fits (within 0) loaded fits, moves.mpr fits⟩
  · rw [stalls, overflows_iff loaded]
  · exact discards_iff loaded (stalls.mp stalled)

def halfFull (size : Nat) : Component where
  inputUseBuffer := ⟨true, List.replicate size 1, 0, 0⟩
  inputData := ⟨fun _ => 1, 4, 2, 0, 0, 0, Nat.le_succ_of_le (Nat.le_succ 2), by decide⟩
  bUseFlagEOF := false
  bSaveFlagEOS := false
  checkTimeStamp := ⟨false, false, 0, 0⟩

theorem two_bytes_fit : Fits (checkH264Frame false) (halfFull 2) ∧
    Conserves (checkH264Frame false) (halfFull 2) ∧ Advances (checkH264Frame false) (halfFull 2) :=
  ⟨by decide, (assembly_progress_iff (fun _ => checkH264Frame_within false)
    ⟨rfl, by decide⟩).1.mpr (by decide)⟩

/-- Eight bytes do not fit: the two assembled bytes are lost and no call gets any further. -/
theorem eight_bytes_stall :
    ¬ Advances (checkH264Frame false) (halfFull 8) ∧
    Stalls (fun _ => checkH264Frame false) (halfFull 8) ∧
    Discards (fun _ => checkH264Frame false) (halfFull 8) := by
  have within := checkH264Frame_within false
  have loaded : Loaded (halfFull 8) := ⟨rfl, by decide⟩
  have overflows := (@overflows_iff (fun _ => checkH264Frame false) _ loaded).mpr
    ⟨by decide, fun _ => by decide⟩
  refine ⟨?_, ?_, ?_⟩
  · rw [advances_iff within loaded]
    decide
  · exact (stalls_iff_overflows (fun _ => within) loaded).mpr overflows
  · exact (discards_iff loaded overflows).mpr (by decide)

end InputProgress
