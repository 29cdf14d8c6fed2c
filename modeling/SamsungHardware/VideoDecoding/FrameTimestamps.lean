import SamsungHardware.FrameSplitting.InputAssembly
import SamsungHardware.Library.StepRuns

/- The non-blocking H.264 decoder of SEC_OMX_H264dec.c, built without NEED_TIMESTAMP_REORDER,
   S3D_SUPPORT and FULL_FRAME_SEARCH. Every call writes the time stamp of its input into the slot of
   the next frame tag, submits the input under that tag and takes a picture of an earlier input
   from the hardware, which gives the tag of that input back with it. -/
namespace FrameTimestamps
open InputAssembly StepRuns List Function

def bufferFlagEndOfFrame : BitVec 32 := 0x00000010

/-- `MAX_TIMESTAMP`, which is also `MAX_FLAGS`. -/
abbrev maxTimestamp : Nat := 17

abbrev mfcInputBufferNumMax : Nat := 2

def slot (n : Nat) : Fin maxTimestamp := ⟨n % maxTimestamp, Nat.mod_lt n (by decide)⟩

inductive OutBufStatus where
  | null | decodingOnly | displayDecoding | displayOnly | displayEnd | changeResol
deriving DecidableEq

inductive Ret where
  | errorNone
  | inputDataDecodeYet
  | mfcInit
deriving DecidableEq

structure AccessUnit where
  bytes : List UInt8
  timeStamp : Int
  nFlags : BitVec 32
deriving DecidableEq

structure InputBuffer where
  accessUnit : AccessUnit
  dataSize : Nat

/-- What the hardware was started with: the bytes, how many of them, the frame tag in force, and
    how many tags had been set before that one. -/
structure Submission where
  accessUnit : AccessUnit
  oneFrameSize : Nat
  frameTag : Int
  number : Nat
deriving DecidableEq

/-- The driver of the codec. `tagged` counts how often the frame tag was set. -/
structure Driver where
  frameTag : Int
  tagged : Nat
  submitted : List Submission

structure InputData where
  dataLen : Nat
  timeStamp : Int
  nFlags : BitVec 32

structure OutputData where
  timeStamp : Int
  nFlags : BitVec 32

structure Decoder where
  (bConfiguredMFC bUseFlagEOF bSaveFlagEOS getAllDelayBuffer bFirstFrame bDecoderRun : Bool)
  reInputData : Bool
  timeStamp : Fin maxTimestamp → Int
  nFlags : Fin maxTimestamp → BitVec 32
  (indexTimestamp outputIndexTimestamp : Fin maxTimestamp)
  mfcDecInputBuffer : Fin mfcInputBufferNumMax → InputBuffer
  indexInputBuffer : Fin mfcInputBufferNumMax
  inputData : InputData
  outputData : OutputData
  (needSetStartTimeStamp needCheckStartTimeStamp : Bool)
  driver : Driver

/-- What a call meets: the next access unit, the results of `SsbSipMfcDecInit` and of the decode
    thread, the answers of `SsbSipMfcDecGetOutBuf` and of the query for the frame tag, and which of
    the submissions the picture is of. -/
structure Call where
  accessUnit : AccessUnit
  (initOk returnCodecOk : Bool)
  status : OutBufStatus
  frameTag : Option Int
  picture : Nat

structure Result where
  ret : Ret
  outputDataValid : Bool
  decoder : Decoder

def checkH264StartCode (stream : List UInt8) (streamSize : Nat) : Bool :=
  let byte := fun i => stream.getD i 0
  if streamSize < 4 then false
  else if byte 0 = 0 ∧ byte 1 = 0 ∧ byte 2 = 0 ∧ byte 3 ≠ 0 ∧ byte 3 >>> 3 = 0 then true
  else if byte 0 = 0 ∧ byte 1 = 0 ∧ byte 2 ≠ 0 ∧ byte 2 >>> 3 = 0 then true
  else false

section

def nextIndex (i : Fin mfcInputBufferNumMax) : Fin mfcInputBufferNumMax :=
  ⟨(i.val + 1) % mfcInputBufferNumMax, Nat.mod_lt _ (by decide)⟩

variable (d : Decoder)

/-- The buffer that `pMFCStreamBuffer` and `processData[INPUT_PORT_INDEX].dataBuffer` point to. -/
def Decoder.buffer : InputBuffer := d.mfcDecInputBuffer d.indexInputBuffer

def Decoder.otherBuffer : InputBuffer :=
  d.mfcDecInputBuffer (nextIndex d.indexInputBuffer)

def Decoder.setBuffer (buffer : InputBuffer) : Decoder :=
  { d with mfcDecInputBuffer := update d.mfcDecInputBuffer d.indexInputBuffer buffer }

def Decoder.setDataSize (dataSize : Nat) : Decoder :=
  d.setBuffer { d.buffer with dataSize := dataSize }

def Decoder.nextBuffer : Decoder :=
  { d with indexInputBuffer := nextIndex d.indexInputBuffer }

end

variable (d : Decoder)

def recordInput : Decoder :=
  { d with
    bUseFlagEOF := d.bUseFlagEOF || d.inputData.nFlags &&& bufferFlagEndOfFrame != 0
    timeStamp := update d.timeStamp d.indexTimestamp d.inputData.timeStamp
    nFlags := update d.nFlags d.indexTimestamp d.inputData.nFlags }

def outputStamp (frameTag : Option Int) (d : Decoder) : OutputData :=
  match frameTag with
  | none => ⟨d.inputData.timeStamp, d.inputData.nFlags⟩
  | some tag =>
    if tag < 0 ∨ (maxTimestamp : Int) ≤ tag then ⟨d.inputData.timeStamp, d.inputData.nFlags⟩
    else ⟨d.timeStamp (slot tag.toNat), d.nFlags (slot tag.toNat)⟩

def OutBufStatus.displays (status : OutBufStatus) : Bool :=
  status = .displayDecoding || status = .displayOnly

variable (call : Call)

def collectOutput (d : Decoder) : Result :=
  let outputData := outputStamp call.frameTag d
  let d := { d with
    bDecoderRun := false
    outputData := outputData
    outputIndexTimestamp := if call.status.displays then slot (d.outputIndexTimestamp + 1)
      else d.outputIndexTimestamp }
  let drains := decide (d.inputData.nFlags &&& bufferFlagEOS ≠ bufferFlagEOS) &&
    (d.bSaveFlagEOS || d.getAllDelayBuffer)
  let ret := if call.status = .decodingOnly then
      if drains then Ret.inputDataDecodeYet else .errorNone
    else if call.status = .displayOnly ∨ d.getAllDelayBuffer then .inputDataDecodeYet
    else .errorNone
  let outputDataValid := call.status.displays && outputData.nFlags &&& bufferFlagEOS == 0
  let d := if call.status = .decodingOnly ∧ drains then
      { d with
        inputData := { d.inputData with nFlags := d.inputData.nFlags ||| bufferFlagEOS }
        getAllDelayBuffer := true }
    else d
  if d.inputData.nFlags &&& bufferFlagEOS = bufferFlagEOS then
    ⟨.inputDataDecodeYet, outputDataValid,
      { d with
        inputData := { d.inputData with nFlags := outputData.nFlags &&& ~~~bufferFlagEOS }
        getAllDelayBuffer := true }⟩
  else if outputData.nFlags &&& bufferFlagEOS = bufferFlagEOS then
    ⟨.errorNone, outputDataValid, { d with getAllDelayBuffer := false }⟩
  else ⟨ret, outputDataValid, d⟩

def withholdOutput : Result :=
  let ends := d.bSaveFlagEOS || d.getAllDelayBuffer || d.inputData.nFlags &&& bufferFlagEOS != 0
  let nFlags := if ends then d.inputData.nFlags ||| bufferFlagEOS else d.inputData.nFlags
  let nFlags := if d.bFirstFrame ∧ nFlags &&& bufferFlagEOS = bufferFlagEOS ∧
      d.inputData.nFlags &&& bufferFlagCodecConfig ≠ bufferFlagCodecConfig then
      nFlags &&& ~~~bufferFlagEOS
    else nFlags
  ⟨.errorNone, false,
    { d with
      outputData := ⟨d.inputData.timeStamp, nFlags⟩
      getAllDelayBuffer := if ends then false else d.getAllDelayBuffer }⟩

def setFrameTag : Decoder :=
  { d with
    driver := { d.driver with frameTag := d.indexTimestamp.val, tagged := d.driver.tagged + 1 }
    indexTimestamp := slot (d.indexTimestamp + 1) }

def startDecode (oneFrameSize : Nat) : Decoder :=
  let submission := ⟨d.buffer.accessUnit, oneFrameSize, d.driver.frameTag, d.driver.tagged - 1⟩
  { (d.setDataSize oneFrameSize).nextBuffer with
    driver := { d.driver with submitted := d.driver.submitted ++ [submission] }
    bDecoderRun := true
    bFirstFrame := false }

def submitInput (oneFrameSize : Nat) (r : Result) : Result :=
  let d := r.decoder
  if checkH264StartCode d.buffer.accessUnit.bytes oneFrameSize = true ∧
      d.outputData.nFlags &&& bufferFlagEOS ≠ bufferFlagEOS then
    let tagged := if r.ret ≠ .inputDataDecodeYet ∨ d.getAllDelayBuffer then setFrameTag d else d
    ⟨if d.bFirstFrame ∧ d.bSaveFlagEOS ∧ r.outputDataValid = false then .inputDataDecodeYet
      else r.ret, r.outputDataValid, startDecode tagged oneFrameSize⟩
  else
    { r with decoder := { d with
        needSetStartTimeStamp := d.needSetStartTimeStamp || d.needCheckStartTimeStamp } }

/-- `SEC_MFC_H264_Decode_Nonblock`. An input that is not decoded yet makes room for the one before
    it, which is submitted again. -/
def decodeNonblock (d : Decoder) : Result :=
  let oneFrameSize := d.inputData.dataLen
  let passed : OutputData := ⟨d.inputData.timeStamp, d.inputData.nFlags⟩
  if d.bConfiguredMFC = false then
    if oneFrameSize = 0 ∧ d.inputData.nFlags &&& bufferFlagEOS ≠ 0 then
      ⟨.errorNone, false, { d with outputData := passed }⟩
    else if call.initOk then
      ⟨.errorNone, false, { d with outputData := passed, bConfiguredMFC := true }⟩
    else ⟨.mfcInit, false, d⟩
  else
    let d := recordInput d
    let r := if call.returnCodecOk = true ∧ d.bFirstFrame = false then collectOutput call d
      else withholdOutput d
    if r.ret = .inputDataDecodeYet then
      let d := (r.decoder.setDataSize oneFrameSize).nextBuffer
      submitInput d.buffer.dataSize { r with decoder := d }
    else submitInput oneFrameSize r

def loadInput (d : Decoder) : Decoder :=
  if d.reInputData then d
  else { d.setBuffer { d.buffer with accessUnit := call.accessUnit } with
    inputData :=
      ⟨call.accessUnit.bytes.length, call.accessUnit.timeStamp, call.accessUnit.nFlags⟩ }

def bufferProcess : Result := decodeNonblock call (loadInput call d)

def turn : Decoder :=
  let r := bufferProcess d call
  { r.decoder with
    reInputData := r.ret == .inputDataDecodeYet
    inputData := { r.decoder.inputData with
      dataLen := if r.ret = .errorNone then 0 else r.decoder.inputData.dataLen } }

/-- What `SEC_OSAL_Memset` makes of the time stamps: every byte is the lowest one of -19771003. -/
def unsetTimeStamp : Int := (0x8585858585858585 : BitVec 64).toInt

def h264DecInit : Decoder where
  bConfiguredMFC := false
  bUseFlagEOF := false
  bSaveFlagEOS := false
  getAllDelayBuffer := false
  bFirstFrame := true
  bDecoderRun := false
  reInputData := false
  timeStamp := fun _ => unsetTimeStamp
  nFlags := fun _ => 0
  indexTimestamp := slot 0
  outputIndexTimestamp := slot 0
  mfcDecInputBuffer := fun _ => ⟨⟨[], 0, 0⟩, 0⟩
  indexInputBuffer := ⟨0, by decide⟩
  inputData := ⟨0, 0, 0⟩
  outputData := ⟨0, 0⟩
  needSetStartTimeStamp := false
  needCheckStartTimeStamp := false
  driver := ⟨0, 0, []⟩

/-- The driver gives the frame tag of the picture's submission back, before 16 more inputs have been
    tagged and submitted, and the stream has not ended. -/
def Honest : Prop :=
  call.accessUnit.nFlags &&& bufferFlagEOS = 0 ∧
  (call.status.displays = true → ∃ s, d.driver.submitted[call.picture]? = some s ∧
    call.frameTag = some s.frameTag ∧ d.driver.tagged ≤ s.number + 16)

def Follows : Prop :=
  (bufferProcess d call).outputDataValid = true →
    ∃ s, d.driver.submitted[call.picture]? = some s ∧
      (bufferProcess d call).decoder.outputData.timeStamp = s.accessUnit.timeStamp

section

theorem slot_next (n : Nat) : slot ((slot n : Nat) + 1) = slot (n + 1) := by
  apply Fin.ext
  simp [slot]

theorem slot_ne {n m : Nat} (later : n < m) (soon : m ≤ n + 16) : slot n ≠ slot m := by
  intro same
  have equal : n % 17 = m % 17 := congrArg Fin.val same
  omega

theorem nextIndex_ne (i : Fin mfcInputBufferNumMax) : nextIndex i ≠ i := by
  revert i
  decide

theorem nextIndex_nextIndex (i : Fin mfcInputBufferNumMax) : nextIndex (nextIndex i) = i := by
  revert i
  decide

variable (d : Decoder) (buffer : InputBuffer)

@[simp]
theorem setBuffer_buffer : (d.setBuffer buffer).buffer = buffer := update_self _ _ _

@[simp]
theorem setBuffer_otherBuffer : (d.setBuffer buffer).otherBuffer = d.otherBuffer :=
  update_of_ne (nextIndex_ne _) _ _

@[simp]
theorem nextBuffer_buffer : d.nextBuffer.buffer = d.otherBuffer := rfl

@[simp]
theorem nextBuffer_otherBuffer : d.nextBuffer.otherBuffer = d.buffer :=
  congrArg d.mfcDecInputBuffer (nextIndex_nextIndex _)

end

/-- The slot of the submission's tag holds its time stamp until that slot is due again. -/
structure Stamped (tagged : Nat) (timeStamp : Fin maxTimestamp → Int) (s : Submission) : Prop where
  past : s.number < tagged
  frameTag : s.frameTag = (slot s.number).val
  stamp : tagged ≤ s.number + 16 → timeStamp (slot s.number) = s.accessUnit.timeStamp

structure Last (driver : Driver) (buffer : InputBuffer) (s : Submission) : Prop where
  submitted : s ∈ driver.submitted
  number : s.number + 1 = driver.tagged
  frameTag : driver.frameTag = s.frameTag
  held : buffer.accessUnit = s.accessUnit
  startCode : checkH264StartCode buffer.accessUnit.bytes buffer.dataSize = true

structure Tracks (d : Decoder) : Prop where
  streaming : d.bSaveFlagEOS = false ∧ d.getAllDelayBuffer = false
  flags : ∀ i, d.nFlags i &&& bufferFlagEOS = 0
  index : d.indexTimestamp = slot d.driver.tagged
  stamped : ∀ s ∈ d.driver.submitted, Stamped d.driver.tagged d.timeStamp s
  last : d.bFirstFrame = false → ∃ s, Last d.driver d.otherBuffer s

structure Current (d : Decoder) : Prop where
  flags : d.inputData.nFlags &&& bufferFlagEOS = 0
  held : d.buffer.accessUnit.timeStamp = d.inputData.timeStamp

theorem h264DecInit_tracks : Tracks h264DecInit where
  streaming := ⟨rfl, rfl⟩
  flags _ := BitVec.zero_and
  index := rfl
  stamped _ member := by cases member
  last first := by cases first

variable {d : Decoder}

theorem loadInput_tracks (call : Call) (tracks : Tracks d)
    (again : d.reInputData = true → Current d)
    (flags : call.accessUnit.nFlags &&& bufferFlagEOS = 0) :
    Tracks (loadInput call d) ∧ Current (loadInput call d) := by
  rw [loadInput]
  by_cases re : d.reInputData = true
  · rw [if_pos re]
    exact ⟨tracks, again re⟩
  · rw [if_neg re]
    have kept := setBuffer_otherBuffer d { d.buffer with accessUnit := call.accessUnit }
    have here := setBuffer_buffer d { d.buffer with accessUnit := call.accessUnit }
    constructor
    · exact { tracks with last := fun later => kept ▸ tracks.last later }
    · exact ⟨flags, congrArg (·.accessUnit.timeStamp) here⟩

theorem recordInput_stamp (d : Decoder) :
    (recordInput d).timeStamp (recordInput d).indexTimestamp = d.inputData.timeStamp :=
  update_self _ _ _

theorem recordInput_tracks (tracks : Tracks d) (current : Current d) :
    Tracks (recordInput d) where
  streaming := tracks.streaming
  flags i := by
    show update d.nFlags d.indexTimestamp d.inputData.nFlags i &&& bufferFlagEOS = 0
    by_cases here : i = d.indexTimestamp
    · rw [here, update_self]
      exact current.flags
    · rw [update_of_ne here]
      exact tracks.flags i
  index := tracks.index
  stamped s member := by
    obtain ⟨past, frameTag, stamp⟩ := tracks.stamped s member
    refine ⟨past, frameTag, fun soon => ?_⟩
    have apart : slot s.number ≠ d.indexTimestamp := tracks.index ▸ slot_ne past soon
    exact (update_of_ne apart _ _).trans (stamp soon)
  last := tracks.last

/-- The tag of a submission that is not too long ago leads to its time stamp. -/
theorem outputStamp_eq (tracks : Tracks d) {s : Submission} (member : s ∈ d.driver.submitted)
    (soon : d.driver.tagged ≤ s.number + 16) :
    (outputStamp (some s.frameTag) d).timeStamp = s.accessUnit.timeStamp := by
  obtain ⟨past, frameTag, stamp⟩ := tracks.stamped s member
  have same : slot (slot s.number).val = slot s.number := Fin.ext (Nat.mod_mod _ _)
  rw [outputStamp, frameTag, if_neg (by omega), Int.toNat_natCast, same]
  exact stamp soon

theorem outputStamp_flags (frameTag : Option Int) (tracks : Tracks d) (current : Current d) :
    (outputStamp frameTag d).nFlags &&& bufferFlagEOS = 0 := by
  unfold outputStamp
  split
  · exact current.flags
  · split
    · exact current.flags
    · exact tracks.flags _

theorem zero_ne_eos : (0 : BitVec 32) ≠ bufferFlagEOS := by decide

/-- Before the end of the stream only a picture that is displayed alone puts the input off. -/
theorem collectOutput_eq (call : Call) (tracks : Tracks d) (current : Current d) :
    collectOutput call d =
      ⟨if call.status = .displayOnly then .inputDataDecodeYet else .errorNone, call.status.displays,
        { d with
          bDecoderRun := false
          outputData := outputStamp call.frameTag d
          outputIndexTimestamp := if call.status.displays then slot (d.outputIndexTimestamp + 1)
            else d.outputIndexTimestamp }⟩ := by
  have clear := outputStamp_flags call.frameTag tracks current
  have input := current.flags
  obtain ⟨save, delay⟩ := tracks.streaming
  simp only [collectOutput, save, delay, Bool.or_self, Bool.and_false, Bool.false_eq_true, and_false,
    if_false, input, clear, zero_ne_eos, or_false, beq_self_eq_true, Bool.and_true]
  by_cases only : call.status = .decodingOnly
  · rw [if_pos only, only]
    rfl
  · rw [if_neg only]

theorem withholdOutput_eq (tracks : Tracks d) (current : Current d) :
    withholdOutput d =
      ⟨.errorNone, false,
        { d with outputData := ⟨d.inputData.timeStamp, d.inputData.nFlags⟩ }⟩ := by
  obtain ⟨save, delay⟩ := tracks.streaming
  simp only [withholdOutput, save, delay, current.flags, zero_ne_eos, Bool.or_self, bne_self_eq_false,
    Bool.false_eq_true, if_false, false_and, and_false]

theorem startDecode_buffer (d : Decoder) (oneFrameSize : Nat) :
    (startDecode d oneFrameSize).buffer = d.otherBuffer :=
  (nextBuffer_buffer _).trans (setBuffer_otherBuffer _ _)

theorem startDecode_otherBuffer (d : Decoder) (oneFrameSize : Nat) :
    (startDecode d oneFrameSize).otherBuffer = { d.buffer with dataSize := oneFrameSize } :=
  (nextBuffer_otherBuffer _).trans (setBuffer_buffer _ _)

theorem startDecode_tagged (tracks : Tracks d)
    (stamp : d.timeStamp d.indexTimestamp = d.buffer.accessUnit.timeStamp) (oneFrameSize : Nat)
    (startCode : checkH264StartCode d.buffer.accessUnit.bytes oneFrameSize = true) :
    Tracks (startDecode (setFrameTag d) oneFrameSize) := by
  have index := tracks.index
  constructor
  case last =>
    intro _
    rw [startDecode_otherBuffer]
    exact ⟨_, mem_append_right _ (mem_singleton_self _), rfl, rfl, rfl, startCode⟩
  all_goals dsimp only [startDecode, setFrameTag, Decoder.setDataSize, Decoder.setBuffer,
    Decoder.nextBuffer]
  case streaming => exact tracks.streaming
  case flags => exact tracks.flags
  case index => rw [index, slot_next]
  case stamped =>
    intro s member
    rcases mem_append.mp member with earlier | new
    · obtain ⟨past, frameTag, kept⟩ := tracks.stamped s earlier
      exact ⟨Nat.lt_succ_of_lt past, frameTag, fun soon => kept (Nat.le_of_succ_le soon)⟩
    · rw [mem_singleton.mp new, Nat.add_sub_cancel]
      constructor
      case past => exact Nat.lt_succ_self _
      case frameTag => rw [index]
      case stamp => exact fun _ => index ▸ stamp

theorem Stamped.congr {tagged : Nat} {timeStamp : Fin maxTimestamp → Int} {s t : Submission}
    (stamped : Stamped tagged timeStamp s) (accessUnit : t.accessUnit = s.accessUnit)
    (frameTag : t.frameTag = s.frameTag) (number : t.number = s.number) :
    Stamped tagged timeStamp t where
  past := number ▸ stamped.past
  frameTag := by rw [frameTag, number, stamped.frameTag]
  stamp := by
    rw [number, accessUnit]
    exact stamped.stamp

/-- The current buffer is put aside and the one before it is submitted again, under the tag that is
    still in force. -/
theorem startDecode_again (tracks : Tracks d) (later : d.bFirstFrame = false) (oneFrameSize : Nat) :
    Tracks (startDecode (d.setDataSize oneFrameSize).nextBuffer d.otherBuffer.dataSize) := by
  have here : (d.setDataSize oneFrameSize).nextBuffer.buffer = d.otherBuffer :=
    (nextBuffer_buffer _).trans (setBuffer_otherBuffer _ _)
  have other := startDecode_otherBuffer (d.setDataSize oneFrameSize).nextBuffer d.otherBuffer.dataSize
  rw [here] at other
  obtain ⟨s, submitted, number, frameTag, held, startCode⟩ := tracks.last later
  constructor
  case last =>
    intro _
    rw [other]
    exact ⟨s, mem_append_left _ submitted, number, frameTag, held, startCode⟩
  all_goals
    rw [startDecode, here]
    dsimp only [Decoder.setDataSize, Decoder.setBuffer, Decoder.nextBuffer]
  case streaming => exact tracks.streaming
  case flags => exact tracks.flags
  case index => exact tracks.index
  case stamped =>
    intro t member
    rcases mem_append.mp member with earlier | new
    · exact tracks.stamped t earlier
    · rw [mem_singleton.mp new]
      exact (tracks.stamped s submitted).congr held frameTag (by rw [← number]; rfl)

structure Collected (r : Result) : Prop where
  tracks : Tracks r.decoder
  current : Current r.decoder
  stamp : r.decoder.timeStamp r.decoder.indexTimestamp = r.decoder.inputData.timeStamp
  clear : r.decoder.outputData.nFlags &&& bufferFlagEOS = 0
  again : r.ret = .inputDataDecodeYet → r.decoder.bFirstFrame = false

theorem collectOutput_collected (call : Call) (tracks : Tracks d) (current : Current d)
    (stamp : d.timeStamp d.indexTimestamp = d.inputData.timeStamp) (later : d.bFirstFrame = false) :
    Collected (collectOutput call d) := by
  have clear := outputStamp_flags call.frameTag tracks current
  rw [collectOutput_eq call tracks current]
  exact ⟨{ tracks with },
    ⟨current.flags, current.held⟩, stamp, clear, fun _ => later⟩

theorem withholdOutput_collected (tracks : Tracks d) (current : Current d)
    (stamp : d.timeStamp d.indexTimestamp = d.inputData.timeStamp) :
    Collected (withholdOutput d) := by
  rw [withholdOutput_eq tracks current]
  exact ⟨{ tracks with },
    ⟨current.flags, current.held⟩, stamp, current.flags, fun yet => by cases yet⟩

theorem submitInput_output (oneFrameSize : Nat) (r : Result) :
    (submitInput oneFrameSize r).outputDataValid = r.outputDataValid ∧
      (submitInput oneFrameSize r).decoder.outputData = r.decoder.outputData := by
  unfold submitInput
  dsimp only
  split
  · refine ⟨rfl, ?_⟩
    dsimp only [startDecode, Decoder.setDataSize, Decoder.setBuffer, Decoder.nextBuffer]
    split
    · rfl
    · rfl
  · exact ⟨rfl, rfl⟩

theorem submitInput_next {r : Result} (collected : Collected r) (next : r.ret ≠ .inputDataDecodeYet)
    (oneFrameSize : Nat) :
    Tracks (submitInput oneFrameSize r).decoder ∧ (submitInput oneFrameSize r).ret = r.ret := by
  obtain ⟨tracks, current, stamp, clear, _⟩ := collected
  have save := tracks.streaming.1
  unfold submitInput
  dsimp only
  split
  case isTrue submits =>
    rw [if_pos (Or.inl next), if_neg (by simp [save])]
    exact ⟨startDecode_tagged tracks (stamp.trans current.held.symm) oneFrameSize submits.1, rfl⟩
  case isFalse =>
    exact ⟨{ tracks with }, rfl⟩

theorem submitInput_again {r next : Result} (collected : Collected r)
    (yet : r.ret = .inputDataDecodeYet) (oneFrameSize : Nat)
    (submitted : submitInput r.decoder.otherBuffer.dataSize
      { r with decoder := (r.decoder.setDataSize oneFrameSize).nextBuffer } = next) :
    Tracks next.decoder ∧ Current next.decoder := by
  obtain ⟨tracks, current, stamp, clear, again⟩ := collected
  obtain ⟨s, last⟩ := tracks.last (again yet)
  have here : (r.decoder.setDataSize oneFrameSize).nextBuffer.buffer = r.decoder.otherBuffer :=
    (nextBuffer_buffer _).trans (setBuffer_otherBuffer _ _)
  have kept : (r.decoder.setDataSize oneFrameSize).nextBuffer.otherBuffer =
      { r.decoder.buffer with dataSize := oneFrameSize } :=
    (nextBuffer_otherBuffer _).trans (setBuffer_buffer _ _)
  have submits : next.decoder = startDecode (r.decoder.setDataSize oneFrameSize).nextBuffer
      r.decoder.otherBuffer.dataSize := by
    have ended : r.decoder.outputData.nFlags &&& bufferFlagEOS ≠ bufferFlagEOS := by
      rw [clear]
      exact zero_ne_eos
    have same : ¬ (r.ret ≠ .inputDataDecodeYet ∨ r.decoder.getAllDelayBuffer = true) := by
      simp [yet, tracks.streaming.2]
    rw [← submitted, submitInput]
    rw [here, if_pos ⟨last.startCode, ended⟩]
    exact congrArg (startDecode · _) (if_neg same)
  rw [submits]
  refine ⟨startDecode_again tracks (again yet) oneFrameSize, current.flags, ?_⟩
  rw [startDecode_buffer, kept]
  exact current.held

structure Steady (d : Decoder) : Prop where
  tracks : Tracks d
  current : d.reInputData = true → Current d

theorem decodeNonblock_configured (call : Call) (tracks : Tracks d) (current : Current d)
    (configured : d.bConfiguredMFC ≠ false) : ∃ r, Collected r ∧
      decodeNonblock call d = (if r.ret = .inputDataDecodeYet then
        submitInput r.decoder.otherBuffer.dataSize
          { r with decoder := (r.decoder.setDataSize d.inputData.dataLen).nextBuffer }
        else submitInput d.inputData.dataLen r) ∧
      (r.outputDataValid = true → call.status.displays = true ∧
        r.decoder.outputData = outputStamp call.frameTag (recordInput d)) := by
  have tracks' := recordInput_tracks tracks current
  have current' : Current (recordInput d) := ⟨current.flags, current.held⟩
  have stamp := recordInput_stamp d
  have other (e : Decoder) : (e.setDataSize d.inputData.dataLen).nextBuffer.buffer = e.otherBuffer :=
    (nextBuffer_buffer _).trans (setBuffer_otherBuffer _ _)
  by_cases collects : call.returnCodecOk = true ∧ (recordInput d).bFirstFrame = false
  · refine ⟨_, collectOutput_collected call tracks' current' stamp collects.2, ?_, ?_⟩
    · simp only [decodeNonblock, if_neg configured, if_pos collects, other]
    · rw [collectOutput_eq call tracks' current']
      exact fun displays => ⟨displays, rfl⟩
  · refine ⟨_, withholdOutput_collected tracks' current' stamp, ?_, ?_⟩
    · simp only [decodeNonblock, if_neg configured, if_neg collects, other]
    · intro valid
      cases valid

theorem decodeNonblock_unconfigured (call : Call) (configured : d.bConfiguredMFC = false) :
    ∃ outputData configured, (decodeNonblock call d).decoder =
      { d with outputData := outputData, bConfiguredMFC := configured } ∧
      (decodeNonblock call d).outputDataValid = false ∧
      (decodeNonblock call d).ret ≠ .inputDataDecodeYet := by
  rw [decodeNonblock, if_pos configured]
  split
  · exact ⟨_, d.bConfiguredMFC, rfl, rfl, by simp⟩
  · split
    · exact ⟨_, true, rfl, rfl, by simp⟩
    · exact ⟨d.outputData, d.bConfiguredMFC, rfl, rfl, by simp⟩

theorem decodeNonblock_tracks (call : Call) (tracks : Tracks d) (current : Current d) :
    Tracks (decodeNonblock call d).decoder ∧
      ((decodeNonblock call d).ret = .inputDataDecodeYet →
        Current (decodeNonblock call d).decoder) := by
  by_cases configured : d.bConfiguredMFC = false
  · obtain ⟨outputData, configures, decoder, _, ret⟩ := decodeNonblock_unconfigured call configured
    rw [decoder]
    exact ⟨{ tracks with },
      fun yet => absurd yet ret⟩
  · obtain ⟨r, collected, same, _⟩ := decodeNonblock_configured call tracks current configured
    rw [same]
    by_cases yet : r.ret = .inputDataDecodeYet
    · rw [if_pos yet]
      obtain ⟨kept, held⟩ := submitInput_again collected yet d.inputData.dataLen rfl
      exact ⟨kept, fun _ => held⟩
    · rw [if_neg yet]
      obtain ⟨kept, ret⟩ := submitInput_next collected yet d.inputData.dataLen
      exact ⟨kept, fun again => absurd (ret ▸ again) yet⟩

theorem decodeNonblock_output (call : Call) (tracks : Tracks d) (current : Current d)
    (valid : (decodeNonblock call d).outputDataValid = true) :
    call.status.displays = true ∧
      (decodeNonblock call d).decoder.outputData = outputStamp call.frameTag (recordInput d) := by
  by_cases configured : d.bConfiguredMFC = false
  · obtain ⟨_, _, _, invalid, _⟩ := decodeNonblock_unconfigured call configured
    rw [invalid] at valid
    cases valid
  · obtain ⟨r, _, same, output⟩ := decodeNonblock_configured call tracks current configured
    rw [same] at valid ⊢
    split at valid
    case isTrue yet =>
      have outputs := submitInput_output r.decoder.otherBuffer.dataSize
        { r with decoder := (r.decoder.setDataSize d.inputData.dataLen).nextBuffer }
      rw [if_pos yet, outputs.2]
      exact output (outputs.1 ▸ valid)
    case isFalse next =>
      have outputs := submitInput_output d.inputData.dataLen r
      rw [if_neg next, outputs.2]
      exact output (outputs.1 ▸ valid)

theorem loadInput_driver (call : Call) (d : Decoder) : (loadInput call d).driver = d.driver := by
  unfold loadInput
  split
  · rfl
  · rfl

theorem turn_steady (d : Decoder) (call : Call) (steady : Steady d) (honest : Honest d call) :
    Steady (turn d call) := by
  obtain ⟨tracks, current⟩ := loadInput_tracks call steady.tracks steady.current honest.1
  obtain ⟨kept, held⟩ := decodeNonblock_tracks call tracks current
  refine ⟨{ kept with }, fun again => ?_⟩
  obtain ⟨flags, input⟩ := held (eq_of_beq again)
  exact ⟨flags, input⟩

theorem bufferProcess_follows (d : Decoder) (call : Call) (steady : Steady d)
    (honest : Honest d call) : Follows d call := by
  intro valid
  obtain ⟨tracks, current⟩ := loadInput_tracks call steady.tracks steady.current honest.1
  obtain ⟨displays, outputData⟩ := decodeNonblock_output call tracks current valid
  obtain ⟨s, picture, frameTag, soon⟩ := honest.2 displays
  have driver : (recordInput (loadInput call d)).driver = d.driver := loadInput_driver call d
  have member : s ∈ (recordInput (loadInput call d)).driver.submitted :=
    driver ▸ mem_of_getElem? picture
  have stamp := outputStamp_eq (recordInput_tracks tracks current) member (driver ▸ soon)
  exact ⟨s, picture, by rw [bufferProcess, outputData, frameTag, stamp]⟩

/-- In every run of the decoder the pictures come out with the time stamps of their inputs. -/
theorem timestamps_follow (calls : List Call) (honest : Meets turn Honest h264DecInit calls) :
    Meets turn Follows h264DecInit calls :=
  meets_of_meets turn_steady bufferProcess_follows calls h264DecInit
    ⟨h264DecInit_tracks, fun again => by cases again⟩ honest

def sampleUnit (timeStamp : Int) : AccessUnit := ⟨[0, 0, 0, 1], timeStamp, 0⟩

/-- The header and three frames. The second one comes out first, in a call that puts the third one
    off and submits the second one again. -/
def reorderedCalls : List Call :=
  [⟨sampleUnit 0, true, true, .null, none, 0⟩, ⟨sampleUnit 10, true, true, .null, none, 0⟩,
    ⟨sampleUnit 20, true, true, .decodingOnly, none, 0⟩,
    ⟨sampleUnit 30, true, true, .displayOnly, some 1, 1⟩,
    ⟨sampleUnit 40, true, true, .displayDecoding, some 0, 0⟩]

theorem reordered_timestamps_follow : Meets turn Follows h264DecInit reorderedCalls ∧
    (reorderedCalls.foldl turn h264DecInit).driver.submitted.map (·.accessUnit.timeStamp) =
      [10, 20, 20, 30] := by
  refine ⟨timestamps_follow _ ⟨⟨rfl, ?_⟩, ⟨rfl, ?_⟩, ⟨rfl, ?_⟩, ⟨rfl, ?_⟩, ⟨rfl, ?_⟩, trivial⟩, ?_⟩
  · intro displays; cases displays
  · intro displays; cases displays
  · intro displays; cases displays
  · exact fun _ => ⟨_, rfl, rfl, by decide⟩
  · exact fun _ => ⟨_, rfl, rfl, by decide⟩
  · decide

end FrameTimestamps
