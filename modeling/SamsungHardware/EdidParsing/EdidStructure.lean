import SamsungHardware.EdidParsing.EdidQueries

/- The parts of an EDID as functions of its bytes, and what the queries compute in these terms. -/
namespace EdidStructure
open ReadPrograms VideoFormats EdidQueries

def bytes (m : Place → UInt8) (i : Nat) : UInt8 := m (.data i)

section

variable (d : Nat → UInt8) (n : Nat)

def tagAt (p : Nat) : UInt8 := tagCode (d p)

def lengthAt (p : Nat) : Nat := dataBlockSize (d p)

def dtdOffset (e : Nat) : Nat := (d (e * sizeOfEdidBlock + 2)).toNat

def blocks (e : Nat) : List Nat :=
  chain (lengthAt d) (dtdOffset d e - 4) (e * sizeOfEdidBlock + 4)
    (e * sizeOfEdidBlock + dtdOffset d e)

def hdmiAt (p : Nat) : Bool :=
  tagAt d p == vsdbTag && (d (p + 1) == 0x03 && (d (p + 2) == 0x0C &&
    (d (p + 3) == 0x00 && lengthAt d p + 1 > 5)))

def vsdb (e : Nat) : Nat := if e > n then 0 else ((blocks d e).find? (hdmiAt d)).getD 0

def timing (e : Nat) : Bool :=
  !(e > n) && (d (e * sizeOfEdidBlock) == 0x02 && (d (e * sizeOfEdidBlock + 1) == 3 ||
    (!((extensions n).any fun i => vsdb d n i > 0) && d (e * sizeOfEdidBlock + 1) != 2)))

def hasField (k e : Nat) : Bool := vsdb d n e > 0 && lengthAt d (vsdb d n e) ≥ k

def colorimetryBlock (p : Nat) : Bool :=
  tagAt d p == extendedTag && (d (p + 1) == 5 && lengthAt d p == 3)

def audioDescriptor (audio : HDMIAudioParameter) (p j : Nat) : Option Nat :=
  audioSupports audio (d (p + j)) (d (p + j + 1)) (d (p + j + 2))

def audioBlock (audio : HDMIAudioParameter) (p : Nat) : Option Nat :=
  if tagAt d p = shortAudioTag then
    (upTo 1 (lengthAt d p + 1) 3).findSome? (audioDescriptor d audio p)
  else none

def timingsOf (e : Nat) : List Nat :=
  upTo (e * sizeOfEdidBlock + dtdOffset d e) ((e + 1) * sizeOfEdidBlock) 18

def clockAt (i : Nat) : Nat := (d (i + 1)).toNat <<< 8 ||| (d i).toNat

def hBlankAt (i : Nat) : Nat := (d (i + 4) &&& 0x0F).toNat <<< 8 ||| (d (i + 3)).toNat

end

variable (m : Place → UInt8) (Inside : Place → Prop) (n : Nat)

@[simp] theorem val_byteAt (i : Nat) : (byteAt i).val m = bytes m i := rfl

@[simp] theorem val_check (i : Nat) (holds : UInt8 → Bool) :
    (check i holds).val m = holds (bytes m i) := rfl

@[simp] theorem stays_byteAt (i : Nat) : (byteAt i).Stays m Inside ↔ Inside (.data i) :=
  stays_fetch m Inside _

theorem val_byteAt_bind {α : Type} (i : Nat) (f : UInt8 → Query α) :
    (byteAt i >>= f).val m = (f (bytes m i)).val m := rfl

theorem stays_byteAt_bind {α : Type} (i : Nat) (f : UInt8 → Query α) :
    (byteAt i >>= f).Stays m Inside ↔ Inside (.data i) ∧ (f (bytes m i)).Stays m Inside := by
  rw [stays_bind, stays_byteAt]
  rfl

@[simp] theorem stays_check (i : Nat) (holds : UInt8 → Bool) :
    (check i holds).Stays m Inside ↔ Inside (.data i) := by
  simp [check]

@[simp] theorem val_blockLength (p : Nat) : (blockLength p).val m = lengthAt (bytes m) p := rfl

@[simp] theorem stays_blockLength (p : Nat) :
    (blockLength p).Stays m Inside ↔ Inside (.data p) := by
  simp [blockLength]

@[simp] theorem val_dataBlocks {β : Type} (e : Nat) (body : Nat → Query (Option β)) :
    (dataBlocks e body).val m = (blocks (bytes m) e).findSome? fun p => (body p).val m := by
  simp only [dataBlocks, val_bind, val_byteAt, val_chase, val_blockLength]
  rfl

theorem stays_dataBlocks {β : Type} (e : Nat) (body : Nat → Query (Option β)) :
    (dataBlocks e body).Stays m Inside ↔ Inside (.data (e * sizeOfEdidBlock + 2)) ∧
      ∀ p ∈ reached (fun p => ((body p).val m).isSome) (blocks (bytes m) e),
        Inside (.data p) ∧ (body p).Stays m Inside := by
  simp only [dataBlocks, stays_bind, stays_byteAt, val_byteAt, stays_chase, stays_blockLength,
    val_blockLength]
  rfl

@[simp] theorem val_isHdmiVsdb (p : Nat) : (isHdmiVsdb p).val m = hdmiAt (bytes m) p := by
  simp only [isHdmiVsdb, val_both, val_check]
  rfl

@[simp] theorem val_getVSDBOffset (e : Nat) :
    (getVSDBOffset n e).val m = vsdb (bytes m) n e := by
  have found : ∀ list : List Nat, (list.findSome? fun p =>
      if hdmiAt (bytes m) p then some p else none) = list.find? (hdmiAt (bytes m)) := by
    intro list
    rw [List.find?_eq_findSome?_guard]
    rfl
  simp only [getVSDBOffset, val_ite, val_bind, val_pure, val_dataBlocks, val_isHdmiVsdb, found]
  rfl

@[simp] theorem val_isTimingExtension (e : Nat) :
    (isTimingExtension n e).val m = timing (bytes m) n e := by
  simp only [isTimingExtension, checkHDMIMode, val_ite, val_both, val_either, val_check, val_bind,
    val_pure, val_anyOf, val_getVSDBOffset, timing]
  split
  · rename_i outside
    simp [outside]
  · rename_i inside
    simp [inside]

@[simp] theorem val_whenTiming {β : Type} (body : Nat → Query (Option β)) (e : Nat) :
    (whenTiming n body e).val m =
      if timing (bytes m) n e then (body e).val m else none := by
  simp [whenTiming]

end EdidStructure
