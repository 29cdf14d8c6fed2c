import SamsungHardware.Library.ReadPrograms
import SamsungHardware.EdidParsing.VideoFormats

/- The queries of libedid.c on an EDID that was read. `n` is `gExtensions`; a place is an index
   into `gEdidData` or into `aVIC`. -/
namespace EdidQueries
open ReadPrograms VideoFormats

inductive Place where
  | data (i : Nat)
  | vic (i : Nat)
  deriving DecidableEq, Repr

abbrev Query (α : Type) := Prog Place UInt8 α

def byteAt (i : Nat) : Query UInt8 := fetch (.data i)

def vicAt (i : Nat) : Query UInt8 := fetch (.vic i)

def check (i : Nat) (holds : UInt8 → Bool) : Query Bool := do
  let byte ← byteAt i
  return holds byte

def sizeOfEdidBlock : Nat := 128

def tagCode (header : UInt8) : UInt8 := header &&& 0xE0

def dataBlockSize (header : UInt8) : Nat := (header &&& 0x1F).toNat

def blockLength (p : Nat) : Query Nat := do
  let header ← byteAt p
  return dataBlockSize header

def shortAudioTag : UInt8 := (1 : UInt8) <<< 5
def shortVideoTag : UInt8 := (2 : UInt8) <<< 5
def vsdbTag : UInt8 := (3 : UInt8) <<< 5
def extendedTag : UInt8 := (7 : UInt8) <<< 5

def dataBlocks {β : Type} (extension : Nat) (body : Nat → Query (Option β)) :
    Query (Option β) := do
  let start := extension * sizeOfEdidBlock
  let dtdOffset ← byteAt (start + 2)
  chase blockLength body (dtdOffset.toNat - 4) (start + 4) (start + dtdOffset.toNat)

def upTo (start stop step : Nat) : List Nat :=
  (List.range ((stop - start + step - 1) / step)).map fun k => start + step * k

def extensions (n : Nat) : List Nat := List.range' 1 n

section

variable (n : Nat)

def isHdmiVsdb (p : Nat) : Query Bool :=
  both (check p fun b => tagCode b == vsdbTag) <|
  both (check (p + 1) fun b => b == 0x03) <|
  both (check (p + 2) fun b => b == 0x0C) <|
  both (check (p + 3) fun b => b == 0x00) (check p fun b => dataBlockSize b + 1 > 5)

/-- 0 without an HDMI vendor block. -/
def getVSDBOffset (extension : Nat) : Query Nat :=
  if extension > n then return 0
  else do
    let found ← dataBlocks extension fun p => do
      let here ← isHdmiVsdb p
      return if here then some p else none
    return found.getD 0

def checkHDMIMode : Query Bool :=
  anyOf (fun i => do
    let offset ← getVSDBOffset n i
    return offset > 0) (extensions n)

def isTimingExtension (extension : Nat) : Query Bool :=
  if extension > n then return false
  else
    both (check (extension * sizeOfEdidBlock) fun b => b == 0x02) <|
    either (check (extension * sizeOfEdidBlock + 1) fun b => b == 3) <|
    both (do
      let hdmi ← checkHDMIMode n
      return !hdmi) (check (extension * sizeOfEdidBlock + 1) fun b => b != 2)

def listsVIC (vic p : Nat) : Query (Option Unit) := do
  let header ← byteAt p
  if tagCode header = shortVideoTag then
    let listed ← anyOf (fun i => check (p + i) fun svd => (svd &&& 0x7F).toNat = vic)
      (List.range' 1 (dataBlockSize header))
    return if listed then some () else none
  else return none

/-- The offset of the detailed timings is read before the number of the extension is checked. -/
def isContainVIC (extension vic : Nat) : Query Bool := do
  let _dtdOffset ← byteAt (extension * sizeOfEdidBlock + 2)
  if extension > n then return false
  else
    let found ← dataBlocks extension (listsVIC vic)
    return found.isSome

end

section

variable (behind : Nat → EdidParams) (n : Nat)

/-- Lines that are visible in a frame, or in a field. The table's VIC is compared with the number
    of a format. -/
def activeLines (params : EdidParams) : Nat :=
  if params.interlaced then
    if params.vic = VideoFormat.v1920x1080i50Hz1250.ctorIdx then
      (params.vTotal - params.vBlank * 2) / 2
    else (params.vTotal - params.vBlank * 2 - 1) / 2
  else params.vTotal - params.vBlank

/-- A detailed timing: clock, blanking and active pixels. The interlaced bit is read, but not
    compared. -/
def isDescriptorOf (params : EdidParams) (i : Nat) : Query Bool := do
  let clock2 ← byteAt (i + 1)
  let clock1 ← byteAt i
  let pixelclock := clock2.toNat <<< 8 ||| clock1.toNat
  if pixelclock = 0 then return false
  else
    let hblank2 ← byteAt (i + 4)
    let hblank1 ← byteAt (i + 3)
    let hblank := (hblank2 &&& 0x0F).toNat <<< 8 ||| hblank1.toNat
    let hactive2 ← byteAt (i + 4)
    let hactive1 ← byteAt (i + 2)
    let hactive := (hactive2 &&& 0xF0).toNat <<< 4 ||| hactive1.toNat
    let vblank2 ← byteAt (i + 7)
    let vblank1 ← byteAt (i + 6)
    let vblank := (vblank2 &&& 0x0F).toNat <<< 8 ||| vblank1.toNat
    let vactive2 ← byteAt (i + 7)
    let vactive1 ← byteAt (i + 5)
    let vactive := (vactive2 &&& 0xF0).toNat <<< 4 ||| vactive1.toNat
    let _interlaced ← byteAt (i + 17)
    return hblank == params.hBlank && vblank == params.vBlank &&
      hactive == params.hTotal - params.hBlank && vactive == activeLines params &&
      pixelclock / 100 == params.pixelClock / 100

def timingArea (extension : Nat) : Query (Nat × Nat) :=
  if extension = 0 then return (0x36, 0x36 + 18 * 4)
  else do
    let dtdOffset ← byteAt (extension * sizeOfEdidBlock + 2)
    return (extension * sizeOfEdidBlock + dtdOffset.toNat, (extension + 1) * sizeOfEdidBlock)

def isContainVideoDTD (extension : Nat) (videoFormat : VideoFormat) : Query Bool :=
  if extension > n then return false
  else do
    let area ← timingArea extension
    anyOf (isDescriptorOf (videoParams behind videoFormat)) (upTo area.1 area.2 18)

def checkResolution (videoFormat : VideoFormat) (pixelRatio : PixelAspectRatio) : Query Bool :=
  either (both (pure (videoFormat = .v640x480p60Hz)) (check 0x23 fun b => b &&& 0x20 != 0)) <|
  either (isContainVideoDTD behind n 0 videoFormat) <|
  anyOf (fun i => both (isTimingExtension n i) <|
    either (isContainVIC n i (vicOf behind videoFormat pixelRatio))
      (isContainVideoDTD behind n i videoFormat)) (extensions n)

end

section

variable (n : Nat)

def whenTiming {β : Type} (body : Nat → Query (Option β)) (extension : Nat) :
    Query (Option β) := do
  let timing ← isTimingExtension n extension
  if timing then body extension else return none

def atVsdb {β : Type} (body : Nat → Query (Option β)) (extension : Nat) : Query (Option β) := do
  let startAddr ← getVSDBOffset n extension
  if startAddr > 0 then body startAddr else return none

def fieldAt (k startAddr : Nat) : Query (Option UInt8) := do
  let length ← blockLength startAddr
  if length ≥ k then
    let field ← byteAt (startAddr + k)
    return some field
  else return none

def vsdbField (k : Nat) : Query (Option UInt8) :=
  each (whenTiming n (atVsdb n (fieldAt k))) (extensions n)

def deepColorSupports (depth : ColorDepth) (space : ColorSpace) (deepColor : UInt8) : Bool :=
  if space = .ycbcr444 ∧ deepColor &&& 0x08 = 0 then false
  else match depth with
    | .cd36 => deepColor &&& 0x20 != 0
    | .cd30 => deepColor &&& 0x10 != 0
    | .cd24 => false

def checkColorDepth (depth : ColorDepth) (space : ColorSpace) : Query Bool :=
  if depth = .cd24 then return true
  else do
    let deepColor ← vsdbField n 6
    return (deepColor.map fun b => deepColorSupports depth space (b &&& 0x78)).getD false

def checkColorSpace (space : ColorSpace) : Query Bool :=
  if space = .rgb then return true
  else
    anyOf (fun i => both (isTimingExtension n i) <| check (i * sizeOfEdidBlock + 3) fun cs =>
      (space = .ycbcr444 ∧ cs &&& 0x20 ≠ 0) ∨ (space = .ycbcr422 ∧ cs &&& 0x10 ≠ 0)) (extensions n)

variable (color : HDMIColorimetry)

def colorimetrySupports (colorimetry metadata : UInt8) : Bool :=
  match color with
  | .extendedXvYCC601 => colorimetry &&& 1 != 0 && metadata != 0
  | .extendedXvYCC709 => colorimetry &&& 2 != 0 && metadata != 0
  | _ => false

def isColorimetryBlock (p : Nat) : Query Bool :=
  both (check p fun b => tagCode b == extendedTag) <|
  both (check (p + 1) fun b => b == 5) (check p fun b => dataBlockSize b == 3)

def colorimetryAt (p : Nat) : Query (Option Bool) := do
  let colorimetryBlock ← isColorimetryBlock p
  if colorimetryBlock then
    let colorimetry ← byteAt (p + 2)
    let metadata ← byteAt (p + 3)
    return some (colorimetrySupports color colorimetry metadata)
  else return none

def checkColorimetry : Query Bool :=
  if color = .noData ∨ color = .itu601 ∨ color = .itu709 then return true
  else do
    let found ← each (whenTiming n fun i => dataBlocks i (colorimetryAt color)) (extensions n)
    return found.getD false

def getMaxTMDS : Query Nat := do
  let clock ← vsdbField n 7
  return (clock.map UInt8.toNat).getD 0

def edidGetCECPhysicalAddress : Query (Option Nat) :=
  each (whenTiming n <| atVsdb n fun startAddr => do
    let high ← byteAt (startAddr + 4)
    let low ← byteAt (startAddr + 5)
    return some (high.toNat <<< 8 ||| low.toNat)) (extensions n)

end

section

variable (n : Nat) (audio : HDMIAudioParameter)

/-- A short audio descriptor that meets the request decides; for LPCM by the word lengths. The
    code of the format is still shifted when it is compared with that of LPCM. -/
def audioSupports (code sampleFreq wordLen : UInt8) : Option Nat :=
  let audioFormat := (code &&& 0x78).toNat
  let channelNum := (code &&& 0x07).toNat
  if audioFormat &&& (audio.formatCode.toNat <<< 3) ≠ 0 ∧ channelNum ≥ audio.channelNum.toNat - 1 ∧
      sampleFreq.toNat &&& (1 <<< audio.sampleFreq.ctorIdx) ≠ 0 then
    if audioFormat = AudioFormat.lpcm.toNat then
      match audio.wordLength with
      | .word16 | .word17 | .word18 | .word19 | .word20 => some (wordLen &&& 2).toNat
      | .word21 | .word22 | .word23 | .word24 => some (wordLen &&& 4).toNat
    else some 1
  else none

def audioDescriptorAt (p j : Nat) : Query (Option Nat) := do
  let code ← byteAt (p + j)
  let sampleFreq ← byteAt (p + j + 1)
  let wordLen ← byteAt (p + j + 2)
  return audioSupports audio code sampleFreq wordLen

def audioAt (p : Nat) : Query (Option Nat) := do
  let header ← byteAt p
  if tagCode header = shortAudioTag then
    each (audioDescriptorAt audio p) (upTo 1 (dataBlockSize header + 1) 3)
  else return none

def edidAudioModeSupport : Query Nat := do
  let found ← each (whenTiming n fun i => dataBlocks i (audioAt audio)) (extensions n)
  return found.getD 0

end

variable (behind : Nat → EdidParams) (n : Nat)

def numOfVicFor3D : Nat := 16

/-- The VICs of the first short video descriptors, up to 16. The k-th is written to `aVIC[k]`. -/
def saveVIC : Query (List UInt8) :=
  fold (fun extension saved =>
    if saved.length < numOfVicFor3D then do
      let start := extension * sizeOfEdidBlock
      let dtdOffset ← byteAt (start + 2)
      chaseFold blockLength (fun p saved => do
        let header ← byteAt p
        if tagCode header = shortVideoTag then
          fold (fun i saved =>
            if saved.length < numOfVicFor3D then do
              let svd ← byteAt (p + i)
              return saved ++ [svd &&& 0x7F]
            else return saved) (List.range' 1 (dataBlockSize header)) saved
        else return saved) (dtdOffset.toNat - 4) (start + 4) (start + dtdOffset.toNat) saved
    else return saved) (extensions n) []

/-- How far the 3D fields move to the front when latency fields are absent. -/
def latencyOffset (ext : UInt8) : Nat :=
  match (ext &&& 0xC0).toNat >>> 6 with
  | 0 => 4
  | 3 => 0
  | _ => 2

def presentBits (start latency length : Nat) : Query UInt8 :=
  if length ≥ 13 - latency then do
    let _present ← byteAt (start + 13)
    byteAt (start + 13)
  else return 0

/-- `3D_Structure_ALL` and the mask, which is only ever added to. -/
def structureAndMask (multi : UInt8) (base : Nat) : Query (Nat × Nat) :=
  if multi = 0x20 then do
    let high ← byteAt (base + 1)
    let low ← byteAt (base + 2)
    return (high.toNat <<< 8 ||| low.toNat, 0xFFFF)
  else if multi = 0x40 then do
    let high ← byteAt (base + 1)
    let low ← byteAt (base + 2)
    let maskHigh ← byteAt (base + 3)
    let maskLow ← byteAt (base + 4)
    return (high.toNat <<< 8 ||| low.toNat, 0xFFFF ||| maskHigh.toNat <<< 8 ||| maskLow.toNat)
  else return (0, 0xFFFF)

def isSavedVIC (vic mask i : Nat) : Query Bool :=
  both (pure (mask.testBit i)) do
    let saved ← vicAt i
    return saved.toNat = vic

variable (format : HDMI3DVideoStructure)

/-- One entry of the 3D extra data. The order of the VIC is neither shifted down nor used as an
    index itself. -/
def isExtraFor (vic p : Nat) : Query Bool := do
  let order ← byteAt p
  let structure3D ← byteAt p
  both (pure ((1 <<< (structure3D &&& 0x0F).toNat : Nat) = format.toInt)) do
    let saved ← vicAt (1 <<< (order &&& 0xF0).toNat)
    return saved.toNat = vic

/-- Entries of the extra data, from an unsigned difference of lengths. -/
def extraLength (len3D multiCount : Nat) : Nat := (len3D + 2 ^ 32 - multiCount * 2) % 2 ^ 32

def searchExtra (vic index base multiCount extLen : Nat) : Query (Bool ⊕ Nat) :=
  if extLen = 0 then return .inr index
  else do
    let found ← anyOf (fun i => isExtraFor format vic (base + multiCount * 2 + i * 2))
      (List.range (extLen / 2))
    return if found then .inl true else .inr (extLen / 2)

/-- The multi-present structures for the first 16 VICs, then the extra data. -/
def searchMulti (vic index base latency length len3D : Nat)
    (present : UInt8) : Query (Bool ⊕ Nat) := do
  let multi := present &&& 0x60
  let multiCount := multi.toNat >>> 5
  let fields ← structureAndMask multi base
  let contained := fields.1.testBit format.toInt.toNat
  let found ← both (pure contained) (anyOf (isSavedVIC vic fields.2) (List.range numOfVicFor3D))
  if found then return .inl true
  else
    let index := if contained then numOfVicFor3D else index
    if length ≥ 14 - latency then
      searchExtra format vic index base multiCount (extraLength len3D multiCount)
    else return .inr index

variable (video : HDMIVideoParameter)

/-- The body of the loop for an HDMI vendor block. The loops inside use the same variable. -/
def searchVsdb (index startAddr : Nat) : Query (Bool ⊕ Nat) := do
  let vic := vicOf behind video.resolution video.pixelAspectRatio
  let length ← blockLength startAddr
  if length < 8 then return .inl false
  else
    let _videoPresent ← byteAt (startAddr + 8)
    let ext ← byteAt (startAddr + 8)
    let latency := latencyOffset ext
    let base := startAddr - latency + 14
    let vicBits ← byteAt base
    let vicLen := (vicBits &&& 0xE0).toNat >>> 5
    if video.hdmi3dFormat = .vic then
      let listed ← anyOf (fun i => check (base + i) fun b => b.toNat = vic) (List.range vicLen)
      return .inl listed
    else
      let lenBits ← byteAt base
      let present ← presentBits (startAddr - latency) latency length
      let supported ← both (pure (present &&& 0x80 != 0))
        (checkResolution behind n video.resolution video.pixelAspectRatio)
      if supported && edid3D.contains (video.resolution, video.hdmi3dFormat) then return .inl true
      else
        searchMulti video.hdmi3dFormat vic (if supported then edid3D.length else index)
          (base + vicLen) latency length (lenBits &&& 0x1F).toNat present

def searchExtension (index : Nat) : Query (Bool ⊕ Nat) :=
  if index > n then return .inl false
  else do
    let timing ← isTimingExtension n index
    let startAddr ← if timing then getVSDBOffset n index else pure 0
    let turn ← if startAddr > 0 then searchVsdb behind n video index startAddr
      else pure (.inr index)
    return turn.map id (· + 1)

def searchExtensions (turns : Nat) : Query (Option Bool) :=
  iterate (searchExtension behind n video) turns 1

end EdidQueries
