import SamsungHardware.Library.ByteMemory
import SamsungHardware.Library.CutStream

/- `SEC_Preprocessor_InputData` of SEC_OMX_Vdec.c: the bytes of the input buffers are gathered in
   the assembly buffer until the detector of the codec reports the end of a frame. Buffers
   are shorter than 2^31 bytes, so that `int` and `OMX_U32` agree on their sizes. -/
namespace InputAssembly
open ByteMemory CutStream List

def bufferFlagEOS : BitVec 32 := 0x00000001
def bufferFlagCodecConfig : BitVec 32 := 0x00000080

/-- The input buffer of the port. `stream` are the `remainDataLen` bytes that begin `usedDataLen`
    bytes behind `pBuffer`. -/
structure DataBuffer where
  dataValid : Bool
  stream : List UInt8
  nFlags : BitVec 32
  timeStamp : Int

structure Data where
  dataBuffer : Memory
  (allocSize dataLen previousDataLen : Nat)
  nFlags : BitVec 32
  timeStamp : Int
  fits : dataLen ≤ allocSize
  previousFits : previousDataLen ≤ allocSize

structure CheckTimeStamp where
  (needSetStartTimeStamp needCheckStartTimeStamp : Bool)
  startTimeStamp : Int
  nStartFlags : BitVec 32

structure Component where
  inputUseBuffer : DataBuffer
  inputData : Data
  (bUseFlagEOF bSaveFlagEOS : Bool)
  checkTimeStamp : CheckTimeStamp

/-- `sec_checkInputFrame`: from the bytes, the flags of the buffer and `bPreviousFrameEOF` to the
    checked size and the end-of-frame flag. -/
abbrev Detector := List UInt8 → BitVec 32 → Bool → Int × Bool

def Data.bytes (data : Data) : List UInt8 := (List.range data.dataLen).map data.dataBuffer

def dataReset (data : Data) : Data :=
  { data with dataLen := 0, nFlags := 0, timeStamp := 0, fits := Nat.zero_le _ }

def inputBufferReturn : DataBuffer := ⟨false, [], 0, 0⟩

def Data.append (data : Data) (stream : List UInt8) (copySize : Nat)
    (room : copySize ≤ data.allocSize - data.dataLen) : Data :=
  { data with
    dataBuffer := memcpy data.dataBuffer data.dataLen (fun i => stream.getD i 0) 0 copySize
    dataLen := data.dataLen + copySize
    fits := by have := data.fits; omega }

/-- The flags of the frame, `flagEOF` and `bSaveFlagEOS` behind the treatment of the end of the
    stream. `whole` says that the checked size is that of the stream. -/
def endOfStream (bUseFlagEOF bSaveFlagEOS flagEOF whole : Bool) (bufferFlags dataFlags : BitVec 32)
    (dataLen : Nat) : BitVec 32 × Bool × Bool :=
  if bUseFlagEOF then
    if bSaveFlagEOS then (dataFlags ||| bufferFlagEOS, true, false)
    else (dataFlags &&& ~~~bufferFlagEOS, flagEOF, bSaveFlagEOS)
  else if whole && bSaveFlagEOS then
    if bufferFlags &&& bufferFlagEOS ≠ 0 ∧
        (dataFlags &&& bufferFlagCodecConfig ≠ 0 ∨ dataLen = 0) then
      (dataFlags ||| bufferFlagEOS, true, false)
    else if bufferFlags &&& bufferFlagEOS ≠ 0 ∧ dataFlags &&& bufferFlagCodecConfig = 0 ∧
        dataLen ≠ 0 then
      (dataFlags &&& ~~~bufferFlagEOS, true, true)
    else (dataFlags, flagEOF, bSaveFlagEOS)
  else (bufferFlags &&& ~~~bufferFlagEOS, flagEOF, bSaveFlagEOS)

def Data.restore (data : Data) (flagEOF : Bool) : Data :=
  if data.nFlags &&& bufferFlagEOS = bufferFlagEOS ∧ data.dataLen = 0 ∧ flagEOF = true then
    { data with dataLen := data.previousDataLen, fits := data.previousFits }
  else data

def startTimeStamp (check : CheckTimeStamp) (data : Data) : CheckTimeStamp :=
  if check.needSetStartTimeStamp then ⟨false, true, data.timeStamp, data.nFlags⟩ else check

def preprocessorInputData (checkInputFrame : Detector) (component : Component) : Bool × Component :=
  let inputUseBuffer := component.inputUseBuffer
  let inputData := component.inputData
  if inputUseBuffer.dataValid = false then (false, component)
  else
    let checkInputStream := inputUseBuffer.stream
    let checkInputStreamLen := checkInputStream.length
    let previousFrameEOF := decide (inputData.dataLen = 0)
    let (checkedSize, flagEOF) := if component.bUseFlagEOF then (checkInputStreamLen, true)
      else
        let result := checkInputFrame checkInputStream inputUseBuffer.nFlags previousFrameEOF
        -- A negative size comes only without an end of frame, and is then not used.
        (result.1.toNat, result.2)
    let copySize := if flagEOF then checkedSize else checkInputStreamLen
    let bSaveFlagEOS := component.bSaveFlagEOS || inputUseBuffer.nFlags &&& bufferFlagEOS != 0
    if room : copySize ≤ inputData.allocSize - inputData.dataLen then
      let inputData' := inputData.append checkInputStream copySize room
      let inputData' := if previousFrameEOF then
          { inputData' with timeStamp := inputUseBuffer.timeStamp, nFlags := inputUseBuffer.nFlags }
        else inputData'
      let (nFlags, flagEOF, bSaveFlagEOS) := endOfStream component.bUseFlagEOF bSaveFlagEOS flagEOF
        (checkedSize == checkInputStreamLen) inputUseBuffer.nFlags inputData'.nFlags
        inputData'.dataLen
      let inputData' := { inputData' with nFlags := nFlags }.restore flagEOF
      let stream := checkInputStream.drop copySize
      (flagEOF, { component with
        inputUseBuffer := if stream.isEmpty then inputBufferReturn
          else { inputUseBuffer with stream := stream }
        inputData := inputData'
        bSaveFlagEOS := bSaveFlagEOS
        checkTimeStamp := if flagEOF then startTimeStamp component.checkTimeStamp inputData'
          else component.checkTimeStamp })
    else
      (false, { component with
        inputUseBuffer := if checkInputStream.isEmpty then inputBufferReturn else inputUseBuffer
        inputData := dataReset inputData
        bSaveFlagEOS := bSaveFlagEOS })

structure Input where
  bytes : List UInt8
  nFlags : BitVec 32
  timeStamp : Int

def inputBufferGetQueue (component : Component) (input : Input) : Component :=
  { component with inputUseBuffer := ⟨true, input.bytes, input.nFlags, input.timeStamp⟩ }

def bufferProcess (component : Component) : Component :=
  { component with inputData := { component.inputData with
      previousDataLen := component.inputData.dataLen
      dataLen := 0
      fits := Nat.zero_le _
      previousFits := component.inputData.fits } }

/-- The thread, as far as it moves input: a frame is taken whenever one is reported, and a buffer
    is fetched when there is none. The first argument bounds the number of turns. The detector may
    also read what stands in memory behind each buffer, or depend on it in another way; the second
    argument belongs to the buffer that the port has now. -/
def splitFramesIn {Place : Type} (checkInputFrame : Place → Detector) :
    Nat → Place → Component → List (Place × Input) → Option (List (List UInt8) × Component)
  | 0, _, _, _ => none
  | turns + 1, place, component, inputs =>
    if component.inputUseBuffer.dataValid then
      let (endOfFrame, component) := preprocessorInputData (checkInputFrame place) component
      if endOfFrame then
        (splitFramesIn checkInputFrame turns place (bufferProcess component) inputs).map
          fun (frames, last) => (component.inputData.bytes :: frames, last)
      else splitFramesIn checkInputFrame turns place component inputs
    else
      match inputs with
      | [] => some ([], component)
      | (place, input) :: inputs =>
        splitFramesIn checkInputFrame turns place (inputBufferGetQueue component input) inputs

/-- The thread with a detector that reads its buffer only. -/
def splitFrames (checkInputFrame : Detector) (turns : Nat) (component : Component)
    (inputs : List Input) : Option (List (List UInt8) × Component) :=
  splitFramesIn (fun _ : Unit => checkInputFrame) turns () component (inputs.map (Prod.mk ()))

theorem Data.bytes_length (data : Data) : data.bytes.length = data.dataLen := by
  rw [Data.bytes, length_map, length_range]

theorem Data.dataLen_eq_zero (data : Data) : decide (data.dataLen = 0) = data.bytes.isEmpty := by
  rw [← data.bytes_length]
  cases data.bytes <;> rfl

theorem Data.append_bytes (data : Data) {stream : List UInt8} {copySize : Nat}
    (room : copySize ≤ data.allocSize - data.dataLen) (size : copySize ≤ stream.length) :
    (data.append stream copySize room).bytes = data.bytes ++ stream.take copySize := by
  unfold Data.bytes Data.append
  rw [range_add, map_append, map_map]
  congr 1
  · refine map_congr_left fun i member => ?_
    have before := mem_range.mp member
    have outside : ∀ t < copySize, i ≠ data.dataLen + t := fun t _ => by omega
    dsimp only
    exact memcpy_outside outside
  · apply ext_getElem
    · simp only [length_map, length_range, length_take]
      omega
    · intro t inside _
      rw [length_map, length_range] at inside
      simp only [getElem_map, getElem_range, Function.comp_apply, getElem_take]
      rw [memcpy_inside inside, Nat.zero_add, getD_eq_getElem?_getD,
        getElem?_eq_getElem (by omega), Option.getD_some]

/-- What a call needs to know of the component: no end of stream is pending, these bytes are
    held, and there is room for so many more. -/
structure Ready (component : Component) (held : List UInt8) (more : Nat) : Prop where
  useFlag : component.bUseFlagEOF = false
  saveFlag : component.bSaveFlagEOS = false
  bufferFlag : component.inputUseBuffer.nFlags &&& bufferFlagEOS = 0
  bytes : component.inputData.bytes = held
  room : held.length + more ≤ component.inputData.allocSize

def foundWith (checkInputFrame : Detector) (flags : BitVec 32) (stream : List UInt8)
    (fresh : Bool) : Option Nat :=
  let result := checkInputFrame stream flags fresh
  if result.2 then some result.1.toNat else none

def found (checkInputFrame : Detector) : List UInt8 → Bool → Option Nat :=
  foundWith checkInputFrame 0

section

variable {checkInputFrame : Detector} {component : Component} {held : List UInt8} {more n : Nat}

theorem endOfStream_quiet (flagEOF whole : Bool) (bufferFlags dataFlags : BitVec 32)
    (dataLen : Nat) : endOfStream false false flagEOF whole bufferFlags dataFlags dataLen =
      (bufferFlags &&& ~~~bufferFlagEOS, flagEOF, false) := by
  simp [endOfStream]

theorem restore_quiet {data : Data} {flags : BitVec 32}
    (quiet : data.nFlags = flags &&& ~~~bufferFlagEOS) (flagEOF : Bool) :
    data.restore flagEOF = data := by
  rw [Data.restore, if_neg]
  rintro ⟨wrong, _⟩
  rw [quiet, BitVec.and_assoc, BitVec.and_comm (~~~bufferFlagEOS)] at wrong
  revert wrong
  simp [bufferFlagEOS]

def Data.gathered (data : Data) (buffer : DataBuffer) (n : Nat)
    (room : n ≤ data.allocSize - data.dataLen) : Data :=
  let data' := data.append buffer.stream n room
  { data' with
    timeStamp := if data.dataLen = 0 then buffer.timeStamp else data'.timeStamp
    nFlags := buffer.nFlags &&& ~~~bufferFlagEOS }

theorem Data.gathered_bytes (data : Data) {buffer : DataBuffer}
    (room : n ≤ data.allocSize - data.dataLen) (size : n ≤ buffer.stream.length) :
    (data.gathered buffer n room).bytes = data.bytes ++ buffer.stream.take n :=
  data.append_bytes room size

theorem preprocessor_moves
    (ready : Ready component held component.inputUseBuffer.stream.length)
    (valid : component.inputUseBuffer.dataValid = true)
    {ends : Option Nat} (search : foundWith checkInputFrame component.inputUseBuffer.nFlags
      component.inputUseBuffer.stream held.isEmpty = ends)
    (size : n = ends.getD component.inputUseBuffer.stream.length)
    (room : n ≤ component.inputData.allocSize - component.inputData.dataLen) :
    preprocessorInputData checkInputFrame component =
      (ends.isSome,
        { component with
          inputUseBuffer := if (component.inputUseBuffer.stream.drop n).isEmpty then
              inputBufferReturn
            else { component.inputUseBuffer with stream := component.inputUseBuffer.stream.drop n }
          inputData := component.inputData.gathered component.inputUseBuffer n room
          checkTimeStamp := if ends.isSome then
              startTimeStamp component.checkTimeStamp
                (component.inputData.gathered component.inputUseBuffer n room)
            else component.checkTimeStamp }) := by
  obtain ⟨⟨dataValid, stream, nFlags, timeStamp⟩, data, useFlag, saveFlag, check⟩ := component
  obtain ⟨useFlag_eq, saveFlag_eq, bufferFlag, bytes, _⟩ := ready
  subst valid useFlag_eq saveFlag_eq search
  have fresh : decide (data.dataLen = 0) = held.isEmpty := by rw [data.dataLen_eq_zero, bytes]
  have saved : (nFlags &&& bufferFlagEOS != 0) = false := by simp [bufferFlag]
  obtain ⟨checkedSize, flagEOF, result⟩ : ∃ checkedSize flagEOF,
      checkInputFrame stream nFlags held.isEmpty = (checkedSize, flagEOF) := ⟨_, _, rfl⟩
  have checked : checkInputFrame stream nFlags (decide (data.dataLen = 0)) =
      (checkedSize, flagEOF) := by rw [fresh, result]
  unfold foundWith at size ⊢
  rw [result] at size ⊢
  have kept : ∀ flagEOF, ({ (if decide (data.dataLen = 0) = true then
      { data.append stream n room with timeStamp := timeStamp, nFlags := nFlags }
      else data.append stream n room) with nFlags := nFlags &&& ~~~bufferFlagEOS } : Data).restore
        flagEOF = data.gathered ⟨true, stream, nFlags, timeStamp⟩ n room := by
    intro flagEOF
    rw [restore_quiet rfl]
    by_cases zero : data.dataLen = 0 <;> simp [Data.gathered, zero]
  have copied : (if flagEOF = true then checkedSize.toNat else stream.length) = n := by
    rw [size]
    cases flagEOF <;> rfl
  simp only [preprocessorInputData, checked, Bool.true_eq_false, Bool.false_eq_true, if_false,
    Bool.false_or, saved, copied, dif_pos room, endOfStream_quiet, kept]
  cases flagEOF <;> simp

theorem Ready.weaken {less : Nat} (ready : Ready component held more) (smaller : less ≤ more) :
    Ready component held less :=
  { ready with room := by have := ready.room; omega }

theorem Ready.space (ready : Ready component held more) (small : n ≤ more) :
    n ≤ component.inputData.allocSize - component.inputData.dataLen := by
  have room := ready.room
  rw [← ready.bytes, Data.bytes_length] at room
  omega

theorem preprocessor_more {stream : List UInt8}
    (ready : Ready component held (stream.length + more))
    (valid : component.inputUseBuffer.dataValid = true)
    (holds : component.inputUseBuffer.stream = stream)
    (none : foundWith checkInputFrame component.inputUseBuffer.nFlags stream held.isEmpty = none) :
    ∃ component', preprocessorInputData checkInputFrame component = (false, component') ∧
      component'.inputUseBuffer.dataValid = false ∧ Ready component' (held ++ stream) more := by
  subst holds
  have space := ready.space (Nat.le_add_right _ more)
  have moves := preprocessor_moves (n := component.inputUseBuffer.stream.length)
    (ready.weaken (Nat.le_add_right _ _)) valid none rfl space
  rw [drop_length] at moves
  refine ⟨_, moves, rfl, ready.useFlag, ready.saveFlag, by simp [inputBufferReturn], ?_, ?_⟩
  · refine (Data.gathered_bytes _ space (Nat.le_refl _)).trans ?_
    rw [ready.bytes, take_length]
  · have room := ready.room
    rw [length_append, Nat.add_assoc]
    exact room

/-- A call that finds one takes the bytes in front of it, and the decoder takes the frame. -/
theorem preprocessor_frame {stream : List UInt8}
    (ready : Ready component held (stream.length + more))
    (valid : component.inputUseBuffer.dataValid = true)
    (holds : component.inputUseBuffer.stream = stream)
    (ends : foundWith checkInputFrame component.inputUseBuffer.nFlags stream held.isEmpty = some n)
    (inside : n < stream.length) :
    ∃ component', preprocessorInputData checkInputFrame component = (true, component') ∧
      component'.inputData.bytes = held ++ stream.take n ∧
      component'.inputUseBuffer.dataValid = true ∧
      component'.inputUseBuffer.stream = stream.drop n ∧
      component'.inputUseBuffer.nFlags = component.inputUseBuffer.nFlags ∧
      Ready (bufferProcess component') [] ((stream.drop n).length + more) := by
  subst holds
  have space := ready.space (n := n) (by omega)
  have moves := preprocessor_moves (n := n) (ready.weaken (Nat.le_add_right _ _)) valid ends rfl
    space
  have left : (component.inputUseBuffer.stream.drop n).isEmpty = false := by
    rw [isEmpty_eq_false_iff, Ne, drop_eq_nil_iff]
    omega
  rw [left] at moves
  refine ⟨_, moves, ?_, valid, rfl, rfl, ready.useFlag, ready.saveFlag, ready.bufferFlag, rfl, ?_⟩
  · refine (Data.gathered_bytes _ space (Nat.le_of_lt inside)).trans ?_
    rw [ready.bytes]
  · have room := ready.room
    rw [length_nil, length_drop, Nat.zero_add]
    exact Nat.le_trans (by omega) room

end

def Ends (checkInputFrame : Detector) (turns : Nat) (component : Component) (inputs : List Input)
    (frames : List (List UInt8)) (rest : List UInt8) : Prop :=
  ∃ last, splitFrames checkInputFrame turns component inputs = some (frames, last) ∧
    last.inputData.bytes = rest

def Plain (inputs : List Input) : Prop := ∀ input ∈ inputs, input.nFlags &&& bufferFlagEOS = 0

theorem Ready.fetch {component : Component} {held : List UInt8} {input : Input} {more : Nat}
    (ready : Ready component held more) (plain : input.nFlags &&& bufferFlagEOS = 0) :
    Ready (inputBufferGetQueue component input) held more :=
  { ready with bufferFlag := plain }

variable {Place α : Type} {checkInputFrame : Place → Detector}

def EndsIn (checkInputFrame : Place → Detector) (turns : Nat) (place : Place)
    (component : Component) (inputs : List (Place × Input)) (frames : List (List UInt8))
    (rest : List UInt8) : Prop :=
  ∃ last, splitFramesIn checkInputFrame turns place component inputs = some (frames, last) ∧
    last.inputData.bytes = rest

/-- A search in pieces whose elements show the bytes, and perhaps more. `Is` relates a piece to
    the place and the flags of a buffer; there the detector does what the search does. -/
structure Presents (checkInputFrame : Place → Detector) (find : List α → Bool → Option Nat)
    (view : α → UInt8) (Is : List α → Place → BitVec 32 → Prop) : Prop where
  agrees : ∀ {piece place flags} fresh, Is piece place flags →
    foundWith (checkInputFrame place) flags (piece.map view) fresh = find piece fresh
  rest : ∀ {piece place flags fresh n}, Is piece place flags → find piece fresh = some n →
    Is (piece.drop n) place flags

variable {find : List α → Bool → Option Nat} {view : α → UInt8}
  {Is : List α → Place → BitVec 32 → Prop}

def Shown (view : α → UInt8) (Is : List α → Place → BitVec 32 → Prop) (pieces : List (List α))
    (inputs : List (Place × Input)) : Prop :=
  List.Forall₂ (fun piece input => piece.map view = input.2.bytes ∧
    Is piece input.1 input.2.nFlags) pieces inputs

/-- Both forms of a state of the run: with a buffer from the port, and without one. -/
structure RunsAs (checkInputFrame : Place → Detector) (view : α → UInt8)
    (Is : List α → Place → BitVec 32 → Prop) (held : List α) (pieces frames : List (List α))
    (rest : List α) : Prop where
  fetching : ∀ component place inputs turns, component.inputUseBuffer.dataValid = false →
    Ready component (held.map view) pieces.flatten.length → Plain (inputs.map Prod.snd) →
    Shown view Is pieces inputs → 2 * pieces.length + frames.length < turns →
    EndsIn checkInputFrame turns place component inputs (frames.map (List.map view)) (rest.map view)
  checking : ∀ component place inputs turns piece pieces', pieces = piece :: pieces' →
    component.inputUseBuffer.dataValid = true →
    component.inputUseBuffer.stream = piece.map view →
    Is piece place component.inputUseBuffer.nFlags →
    Ready component (held.map view) pieces.flatten.length → Plain (inputs.map Prod.snd) →
    Shown view Is pieces' inputs → 2 * pieces'.length + frames.length + 1 < turns →
    EndsIn checkInputFrame turns place component inputs (frames.map (List.map view)) (rest.map view)

theorem RunsAs.of_checking {held rest piece : List α} {pieces frames : List (List α)}
    (checking : ∀ component place inputs turns, component.inputUseBuffer.dataValid = true →
      component.inputUseBuffer.stream = piece.map view →
      Is piece place component.inputUseBuffer.nFlags →
      Ready component (held.map view) (piece :: pieces).flatten.length →
      Plain (inputs.map Prod.snd) → Shown view Is pieces inputs →
      2 * pieces.length + frames.length + 1 < turns →
      EndsIn checkInputFrame turns place component inputs (frames.map (List.map view))
        (rest.map view)) :
    RunsAs checkInputFrame view Is held (piece :: pieces) frames rest := by
  constructor
  · intro component place inputs turns invalid ready plain shown enough
    obtain ⟨turns, rfl⟩ : ∃ t, turns = t + 1 := ⟨turns - 1, by omega⟩
    cases shown with
    | @cons _ input _ inputs first shown =>
      obtain ⟨place', input⟩ := input
      have quiet := plain input mem_cons_self
      obtain ⟨last, runs, same⟩ := checking (inputBufferGetQueue component input) place' inputs
        turns rfl first.1.symm first.2 (ready.fetch quiet)
        (fun other member => plain other (mem_cons_of_mem _ member)) shown
        (by rw [length_cons] at enough; omega)
      refine ⟨last, ?_, same⟩
      rw [splitFramesIn, if_neg (by rw [invalid]; exact Bool.false_ne_true)]
      exact runs
  · intro component place inputs turns piece' pieces' same valid holds is ready plain shown enough
    cases same
    exact checking component place inputs turns valid holds is ready plain shown enough

theorem splitFramesIn_valid {component : Component} {place : Place}
    {inputs : List (Place × Input)} (valid : component.inputUseBuffer.dataValid = true)
    (turns : Nat) :
    splitFramesIn checkInputFrame (turns + 1) place component inputs =
      if (preprocessorInputData (checkInputFrame place) component).1 then
        (splitFramesIn checkInputFrame turns place
          (bufferProcess (preprocessorInputData (checkInputFrame place) component).2) inputs).map
          fun (frames, last) => ((preprocessorInputData (checkInputFrame place)
            component).2.inputData.bytes :: frames, last)
      else
        splitFramesIn checkInputFrame turns place
          (preprocessorInputData (checkInputFrame place) component).2 inputs := by
  cases inputs with
  | nil => rw [splitFramesIn, if_pos valid]
  | cons input inputs => rw [splitFramesIn, if_pos valid]

theorem runs_as (presents : Presents checkInputFrame find view Is) (progresses : Progresses find)
    {held rest : List α} {pieces frames : List (List α)}
    (delivers : Delivers find held pieces frames rest) :
    RunsAs checkInputFrame view Is held pieces frames rest := by
  have fresh (held : List α) : (held.map view).isEmpty = held.isEmpty := isEmpty_map
  induction delivers with
  | done held =>
    constructor
    · intro component place inputs turns invalid ready _ shown enough
      obtain ⟨turns, rfl⟩ : ∃ t, turns = t + 1 := ⟨turns - 1, by omega⟩
      cases shown
      refine ⟨component, ?_, ready.bytes⟩
      rw [splitFramesIn, if_neg (by rw [invalid]; exact Bool.false_ne_true)]
      rfl
    · intro component place inputs turns piece pieces' impossible
      cases impossible
  | @more held piece pieces frames rest none after ih =>
    apply RunsAs.of_checking
    intro component place inputs turns valid holds is ready plain shown enough
    obtain ⟨turns, rfl⟩ : ∃ t, turns = t + 1 := ⟨turns - 1, by omega⟩
    rw [flatten_cons, length_append, ← length_map (f := view)] at ready
    have unfound : foundWith (checkInputFrame place) component.inputUseBuffer.nFlags
        (piece.map view) (held.map view).isEmpty = .none := by
      rw [fresh, presents.agrees _ is, none]
    obtain ⟨component', call, invalid, ready'⟩ := preprocessor_more ready valid holds unfound
    rw [← map_append] at ready'
    obtain ⟨last, runs, same⟩ :=
      ih.fetching component' place inputs turns invalid ready' plain shown (by omega)
    refine ⟨last, ?_, same⟩
    rw [splitFramesIn_valid valid, call]
    exact runs
  | @frame held piece pieces frames rest n ends after ih =>
    apply RunsAs.of_checking
    intro component place inputs turns valid holds is ready plain shown enough
    obtain ⟨turns, rfl⟩ : ∃ t, turns = t + 1 := ⟨turns - 1, by omega⟩
    rw [flatten_cons, length_append, ← length_map (f := view)] at ready
    have found : foundWith (checkInputFrame place) component.inputUseBuffer.nFlags
        (piece.map view) (held.map view).isEmpty = some n := by
      rw [fresh, presents.agrees _ is, ends]
    have inside : n < (piece.map view).length := by
      rw [length_map]
      exact progresses.inside piece _ n ends
    obtain ⟨component', call, taken, valid', stream, flags, ready'⟩ :=
      preprocessor_frame ready valid holds found inside
    rw [← map_drop] at stream ready'
    have is' : Is (piece.drop n) place component'.inputUseBuffer.nFlags := by
      rw [flags]
      exact presents.rest is ends
    rw [length_map] at ready'
    obtain ⟨last, runs, same⟩ := ih.checking (bufferProcess component') place inputs turns _ pieces
      rfl valid' stream is' (by rw [flatten_cons, length_append]; exact ready') plain
      shown (by rw [length_cons] at enough; omega)
    refine ⟨last, ?_, same⟩
    rw [splitFramesIn_valid valid, call, if_pos rfl, runs, Option.map_some, taken]
    simp only [map_cons, map_append, map_take]

def emptyComponent (allocSize : Nat) (checkTimeStamp : CheckTimeStamp) : Component where
  inputUseBuffer := inputBufferReturn
  inputData := ⟨fun _ => 0, allocSize, 0, 0, 0, 0, Nat.zero_le _, Nat.zero_le _⟩
  bUseFlagEOF := false
  bSaveFlagEOS := false
  checkTimeStamp := checkTimeStamp

theorem splitFramesIn_ends (presents : Presents checkInputFrame find view Is)
    (progresses : Progresses find) {inputs : List (Place × Input)}
    {pieces frames : List (List α)} {rest : List α}
    (delivers : Delivers find [] pieces frames rest) (shown : Shown view Is pieces inputs)
    (plain : Plain (inputs.map Prod.snd)) {allocSize turns : Nat}
    (fits : pieces.flatten.length ≤ allocSize)
    (enough : 2 * pieces.length + pieces.flatten.length < turns) (place : Place)
    (checkTimeStamp : CheckTimeStamp) :
    EndsIn checkInputFrame turns place (emptyComponent allocSize checkTimeStamp) inputs
      (frames.map (List.map view)) (rest.map view) := by
  have count := delivers.count progresses
  rw [length_nil] at count
  apply (runs_as presents progresses delivers).fetching _ place inputs turns rfl _ plain shown
  · omega
  · refine ⟨rfl, rfl, by simp [emptyComponent, inputBufferReturn], rfl, ?_⟩
    rw [map_nil, length_nil, Nat.zero_add]
    exact fits

theorem splitFrames_ends {checkInputFrame : Detector} (flagless : ∀ stream flag fresh,
      checkInputFrame stream flag fresh = checkInputFrame stream 0 fresh)
    (progresses : Progresses (found checkInputFrame)) {inputs : List Input}
    {frames : List (List UInt8)} {rest : List UInt8}
    (delivers : Delivers (found checkInputFrame) [] (inputs.map Input.bytes) frames rest)
    (plain : Plain inputs) {allocSize turns : Nat}
    (fits : (inputs.map Input.bytes).flatten.length ≤ allocSize)
    (enough : 2 * inputs.length + (inputs.map Input.bytes).flatten.length < turns)
    (checkTimeStamp : CheckTimeStamp) :
    Ends checkInputFrame turns (emptyComponent allocSize checkTimeStamp) inputs frames rest := by
  have presents : Presents (fun _ : Unit => checkInputFrame) (found checkInputFrame) id
      (fun _ _ _ => True) := by
    constructor
    · intro piece place flags fresh _
      rw [map_id, foundWith, flagless]
      rfl
    · intro piece place flags fresh n _ _
      trivial
  have shown : Shown id (fun _ _ _ => True) (inputs.map Input.bytes)
      (inputs.map (Prod.mk ())) := by
    rw [Shown, List.forall₂_map_left_iff, List.forall₂_map_right_iff, List.forall₂_same]
    intro input _
    exact ⟨map_id _, trivial⟩
  have plain' : Plain ((inputs.map (Prod.mk ())).map Prod.snd) := by
    simp only [map_map, Function.comp_def, map_id']
    exact plain
  obtain ⟨last, runs, same⟩ := splitFramesIn_ends presents progresses delivers shown plain' fits
    (by rw [length_map]; exact enough) () checkTimeStamp
  refine ⟨last, ?_, ?_⟩
  · simpa [splitFrames] using runs
  · simpa using same

end InputAssembly
