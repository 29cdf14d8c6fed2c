import SamsungHardware.EdidParsing.EdidQueries

/- The static variables of libedid.c: how they are filled from the sink, and the queries that the
   library offers. -/
namespace EdidLibrary
open ReadPrograms VideoFormats EdidQueries

structure Block where
  bytes : List UInt8
  size : bytes.length = sizeOfEdidBlock

structure Library where
  gEdidData : Option (List UInt8)
  gExtensions : Nat
  aVIC : Fin numOfVicFor3D → UInt8

def initial : Library := ⟨none, 0, fun _ => 0⟩

/-- What a call finds outside: the blocks the sink returns, whether there is memory for them, and
    what lies behind `gEdidData` and `aVIC`. -/
structure Outside where
  ddc : Nat → Option Block
  malloc : Bool
  beyond : Place → UInt8

section

variable (out : Outside)

def calcChecksum (block : Block) : Bool := block.bytes.foldl (· + ·) 0 == 0

def readEDIDBlock (blockNum : Nat) : Option Block := (out.ddc blockNum).filter calcChecksum

def edidReset (lib : Library) : Library := { lib with gEdidData := none }

/-- The extensions, block 0 in front. With more than one the first has to be a block map. -/
def readExtensions (first : Block) (n : Nat) : Option (List UInt8) := do
  let rest ← (extensions n).mapM (readEDIDBlock out)
  let data := first.bytes ++ (rest.map Block.bytes).flatten
  if n > 1 ∧ data[sizeOfEdidBlock]? ≠ some 0xF0 then none else some data

/-- The number of extensions stays when reading them fails. -/
def edidRead (lib : Library) : Library × Bool :=
  if lib.gEdidData.isSome then (lib, true)
  else match readEDIDBlock out 0 with
    | none => (lib, false)
    | some first =>
      let n := (first.bytes[0x7E]?.getD 0).toNat
      let lib := { lib with gExtensions := n }
      if out.malloc then
        match readExtensions out first n with
        | none => (edidReset lib, false)
        | some data => ({ lib with gEdidData := some data }, true)
      else (lib, false)

end

section

variable (behind : Nat → EdidParams) (out : Outside)

def memory (lib : Library) : Place → UInt8
  | .data i => (lib.gEdidData.getD [])[i]?.getD (out.beyond (.data i))
  | .vic i => if inside : i < numOfVicFor3D then lib.aVIC ⟨i, inside⟩ else out.beyond (.vic i)

def Library.value {α : Type} (lib : Library) (x : Query α) : α := x.val (memory out lib)

/-- Entries of `aVIC` that there is no VIC for keep what they hold. -/
def Library.write (lib : Library) (saved : List UInt8) : Library :=
  { lib with aVIC := fun k => saved[k.val]?.getD (lib.aVIC k) }

def Library.save (lib : Library) : Library := lib.write (lib.value out (saveVIC lib.gExtensions))

def edid3DFormatSupport (turns : Nat) (video : HDMIVideoParameter) (lib : Library) :
    Option Bool × Library :=
  if video.hdmi3dFormat = .video2D then (some true, lib)
  else
    let lib := lib.save out
    (lib.value out (searchExtensions behind lib.gExtensions video turns), lib)

def tmdsClock (video : HDMIVideoParameter) : Nat :=
  let clock := (videoParams behind video.resolution).pixelClock / 100
  match video.colorDepth with
  | .cd36 => clock * 3 / 2
  | .cd30 => clock * 5 / 4
  | .cd24 => clock

inductive Request where
  | hdmiMode (video : HDMIVideoParameter)
  | videoResolution (video : HDMIVideoParameter)
  | colorDepth (video : HDMIVideoParameter)
  | colorSpace (video : HDMIVideoParameter)
  | colorimetry (video : HDMIVideoParameter)
  | audioMode (audio : HDMIAudioParameter)

def edidHDMIModeSupport (video : HDMIVideoParameter) (lib : Library) : Bool :=
  if video.mode = .hdmi then lib.value out (checkHDMIMode lib.gExtensions) else true

def edidVideoResolutionSupport (turns : Nat) (video : HDMIVideoParameter) (lib : Library) :
    Option Bool × Library :=
  let maxTMDS := lib.value out (getMaxTMDS lib.gExtensions) * 5
  if maxTMDS ≠ 0 ∧ maxTMDS < tmdsClock behind video then (some false, lib)
  else if lib.value out
      (checkResolution behind lib.gExtensions video.resolution video.pixelAspectRatio) then
    edid3DFormatSupport behind out turns video lib
  else (some false, lib)

/-- The queries on a sink that was read. The calls of `EDIDRead` in the functions they use then do
    nothing. -/
def support (turns : Nat) (lib : Library) : Request → Option Nat × Library
  | .hdmiMode video => (some (edidHDMIModeSupport out video lib).toNat, lib)
  | .videoResolution video =>
    let answer := edidVideoResolutionSupport behind out turns video lib
    (answer.1.map Bool.toNat, answer.2)
  | .colorDepth video =>
    (some (lib.value out
      (checkColorDepth lib.gExtensions video.colorDepth video.colorSpace)).toNat, lib)
  | .colorSpace video =>
    (some (lib.value out (checkColorSpace lib.gExtensions video.colorSpace)).toNat, lib)
  | .colorimetry video =>
    (some (lib.value out (checkColorimetry lib.gExtensions video.colorimetry)).toNat, lib)
  | .audioMode audio => (some (lib.value out (edidAudioModeSupport lib.gExtensions audio)), lib)

def ask (turns : Nat) (lib : Library) (request : Request) : Option Nat × Library :=
  let read := edidRead out lib
  if read.2 then support behind out turns read.1 request else (some 0, read.1)

end

def sealed (bytes : List UInt8) : Option Block :=
  let body := (bytes ++ List.replicate sizeOfEdidBlock 0).take (sizeOfEdidBlock - 1)
  let whole := body ++ [0 - body.foldl (· + ·) 0]
  if size : whole.length = sizeOfEdidBlock then some ⟨whole, size⟩ else none

def sinkWith (extension : List UInt8) : Outside where
  ddc
    | 0 => sealed ([0x00, 0xFF, 0xFF, 0xFF, 0xFF, 0xFF, 0xFF, 0x00] ++ List.replicate 27 0 ++ [0x20] ++
        List.replicate 90 0 ++ [1])
    | 1 => sealed extension
    | _ => none
  malloc := true
  beyond := fun _ => 0

def nothingBehind : Nat → EdidParams := fun _ => ⟨0, 0, 0, 0, 0, 0, false, 0⟩

end EdidLibrary
