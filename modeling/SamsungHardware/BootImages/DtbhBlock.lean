import SamsungHardware.Library.PageRounding
import SamsungHardware.Library.ByteBuffer

/- The DTBH block built by `load_dtbh_block` in dtbhtool/dtbimg.c. Sizes and offsets
   are the unsigned 32-bit words of the source. libfdt, `qsort` and the board header
   samsung_dtbh.h are parameters; a run that leaves its buffers has no block. -/
namespace DtbhBlock
open PageRounding ByteBuffer

structure Board where
  magic : Bytes
  magic_length : magic.length = 4
  version : UInt32
  model : Option Bytes
  (platform subtype : Bytes)
  (platformCode subtypeCode : UInt32)

/-- `getprop` reads a property of the root node; a missing one is NULL with length -1. -/
structure Libfdt where
  checkHeader : Bytes → Int
  getprop : Bytes → String → Option Bytes

structure DirEntry where
  name : Bytes
  content : Option Bytes

structure DtEntry where
  (chip platform subtype hwRev hwRevEnd offset size space : UInt32)
  deriving DecidableEq, Repr

/- While the block is built an entry also points to its blob, here by the place of the
   blob in `blob_list`; unpackdtbhimg.c has the eight words only. -/
structure BlobEntry extends DtEntry where
  blob : Nat
  deriving DecidableEq, Repr

inductive Failure where
  | exited
  | undefined
  deriving DecidableEq, Repr

def headerPhysSize : UInt32 := 12
def entryPhysSize : UInt32 := 32

-- The unsigned difference is returned as an `int`.
def dtEntryCmp (a b : BlobEntry) : Int :=
  if a.chip ≠ b.chip then (a.chip - b.chip).toBitVec.toInt
  else (a.hwRev - b.hwRev).toBitVec.toInt

-- The file length passes through an `int`.
def loadFile (content : Bytes) : Option Bytes :=
  let sz := content.length % 2 ^ 32
  if sz < 2 ^ 31 then some (content.take sz) else none

def isDtbName (name : Bytes) : Bool :=
  4 ≤ name.length && name.drop (name.length - 4) == [46, 100, 116, 98]

-- A property used as a C string must hold its terminator.
def cString (property : Bytes) : Option Bytes :=
  if 0 ∈ property then some (property.takeWhile (· ≠ 0)) else none

def strstr (hay needle : Bytes) : Bool := hay.tails.any (needle.isPrefixOf ·)

variable (board : Board)

def modelMatches (fdt : Libfdt) (dtb : Bytes) : Option Bool :=
  match board.model with
  | none => some true
  | some needle => ((fdt.getprop dtb "model").bind cString).map (strstr · needle)

def stringMatches (expected : Bytes) (property : Option Bytes) : Option Bool :=
  (property.bind cString).map (· == expected)

def wordSized : Option Bytes → Bool
  | none => false
  | some property => property.length % 4 == 0

inductive Verdict where
  | skip
  | fault
  | accept (chip hwRev hwRevEnd : UInt32)
  deriving DecidableEq, Repr

def examine (fdt : Libfdt) (dtb : Bytes) : Verdict :=
  if fdt.checkHeader dtb ≠ 0 then .skip else
  match modelMatches board fdt dtb with
  | none => .fault
  | some false => .skip
  | some true =>
    let chip := fdt.getprop dtb "model_info-chip"
    if !wordSized chip then .skip else
    match stringMatches board.platform (fdt.getprop dtb "model_info-platform") with
    | none => .fault
    | some false => .skip
    | some true =>
      match stringMatches board.subtype (fdt.getprop dtb "model_info-subtype") with
      | none => .fault
      | some false => .skip
      | some true =>
        let hwRev := fdt.getprop dtb "model_info-hw_rev"
        let hwRevEnd := fdt.getprop dtb "model_info-hw_rev_end"
        if !wordSized hwRev then .skip else
        if !wordSized hwRevEnd then .skip else
        match chip.bind readBe32, hwRev.bind readBe32, hwRevEnd.bind readBe32 with
        | some c, some r, some e => .accept c r e
        | _, _, _ => .fault

structure Gather where
  blobs : List Bytes
  blobSz : UInt32
  entries : List BlobEntry
  (entryCount hdrSz : UInt32)

def Gather.start : Gather := ⟨[], 0, [], 0, headerPhysSize⟩

def addBlob (pagesize : UInt32) (g : Gather) (dtb : Bytes)
    (chip hwRev hwRevEnd : UInt32) : Gather :=
  let entryCount := g.entryCount + 1
  { blobs := g.blobs ++ [dtb]
    blobSz := g.blobSz + maskUp pagesize (UInt32.ofNat dtb.length)
    entries := g.entries ++ [⟨⟨chip, board.platformCode, board.subtypeCode, hwRev, hwRevEnd,
      0, 0, 0x20⟩, g.blobs.length⟩]
    entryCount := entryCount
    hdrSz := g.hdrSz + entryCount * entryPhysSize }

def gatherBlobs (board : Board) (fdt : Libfdt) (pagesize : UInt32) :
    List DirEntry → Gather → Except Failure Gather
  | [], g => .ok g
  | de :: rest, g =>
    if !isDtbName de.name then gatherBlobs board fdt pagesize rest g else
    match de.content.bind loadFile with
    | none => .error .exited
    | some dtb =>
      match examine board fdt dtb with
      | .skip => gatherBlobs board fdt pagesize rest g
      | .fault => .error .undefined
      | .accept chip hwRev hwRevEnd =>
        gatherBlobs board fdt pagesize rest (addBlob board pagesize g dtb chip hwRev hwRevEnd)

def blobOffsets (pagesize : UInt32) : UInt32 → List Bytes → List UInt32
  | _, [] => []
  | offset, b :: rest =>
    offset :: blobOffsets pagesize (offset + maskUp pagesize (UInt32.ofNat b.length)) rest

def updateEntry (pagesize : UInt32) (offsets : List UInt32) (blobs : List Bytes)
    (e : BlobEntry) : BlobEntry :=
  { e with
    offset := offsets.getD e.blob 0
    size := maskUp pagesize (UInt32.ofNat (blobs.getD e.blob []).length) }

def entryBytes (e : DtEntry) : Bytes :=
  le32 e.chip ++ le32 e.platform ++ le32 e.subtype ++ le32 e.hwRev ++ le32 e.hwRevEnd ++
    le32 e.offset ++ le32 e.size ++ le32 e.space

def writeEntries : Bytes → UInt32 → List BlobEntry → Option (Bytes × UInt32)
  | dtbh, offset, [] => some (dtbh, offset)
  | dtbh, offset, e :: rest =>
    (memcpy dtbh offset.toNat (entryBytes e.toDtEntry)).bind fun next =>
      writeEntries next (offset + entryPhysSize) rest

def writeBlobs (pagesize : UInt32) : Bytes → UInt32 → List Bytes → Option Bytes
  | dtbh, _, [] => some dtbh
  | dtbh, offset, b :: rest =>
    (memcpy dtbh offset.toNat b).bind fun next =>
      writeBlobs pagesize next (offset + maskUp pagesize (UInt32.ofNat b.length)) rest

def writeHeader (entryCount : UInt32) (dtbh : Bytes) : Option Bytes := do
  let dtbh ← memcpy dtbh 0 board.magic
  let dtbh ← memcpy dtbh 4 (le32 board.version)
  memcpy dtbh 8 (le32 entryCount)

structure Block where
  image : Bytes
  entries : List BlobEntry
  blobs : List Bytes

def buildBlock (qsort : (BlobEntry → BlobEntry → Int) → List BlobEntry → List BlobEntry)
    (pagesize : UInt32) (g : Gather) : Option Block := do
  let hdrSz := maskUp pagesize (g.hdrSz + 4)
  let sorted := qsort dtEntryCmp (g.entries.take g.entryCount.toNat)
  let offsets := blobOffsets pagesize hdrSz g.blobs
  let entries := sorted.map (updateEntry pagesize offsets g.blobs)
  let dtbh ← writeHeader board g.entryCount (calloc (hdrSz + g.blobSz).toNat)
  let (dtbh, offset) ← writeEntries dtbh headerPhysSize entries
  let offset := offset + (pagesize - (offset &&& (pagesize - 1)))
  let dtbh ← writeBlobs pagesize dtbh offset g.blobs
  return ⟨dtbh, entries, g.blobs⟩

def loadDtbhBlock (fdt : Libfdt)
    (qsort : (BlobEntry → BlobEntry → Int) → List BlobEntry → List BlobEntry)
    (dir : List DirEntry) (pagesize : UInt32) : Except Failure (Option Block) :=
  match gatherBlobs board fdt pagesize dir .start with
  | .error failure => .error failure
  | .ok g =>
    if g.entryCount = 0 then .ok none else
    match buildBlock board qsort pagesize g with
    | none => .error .undefined
    | some block => .ok (some block)

end DtbhBlock
