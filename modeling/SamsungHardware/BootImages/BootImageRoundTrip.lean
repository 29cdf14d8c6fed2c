import SamsungHardware.BootImages.BootImage

/- Reading a boot image back with dtbhtool/unpackbootimg.c. Output streams are named by the
   suffix of the file they were opened on. A write to a stream that is already closed is undefined:
   its data is kept apart in `stale`, and once there is some the model says nothing of the files. -/
namespace BootImageRoundTrip
open PageRounding ByteBuffer DtbhBlock BootImage List Function Nat
open Option (bind_eq_some_iff bind_some)

inductive Suffix where
  | cmdline | base | ramdiskOffset | secondOffset | tagsOffset | pagesize | zImage | ramdiskLz4
  | ramdiskGz | second | dt | signature
  deriving DecidableEq, Repr

structure Heap where
  malloc : Nat → Bytes
  malloc_length : ∀ n, (malloc n).length = n

structure Stdio where
  pos : Nat
  files : Suffix → Option Bytes
  streams : List Suffix
  stale : List (Suffix × Bytes)

def fopen (name : Suffix) (io : Stdio) : Stdio :=
  { io with files := update io.files name (some []), streams := name :: io.streams }

def fclose (name : Suffix) (io : Stdio) : Stdio :=
  { io with streams := io.streams.erase name }

def fwrite (name : Suffix) (data : Bytes) (io : Stdio) : Stdio :=
  if data = [] then io
  else if name ∈ io.streams then
    { io with files := update io.files name ((io.files name).map (· ++ data)) }
  else { io with stale := io.stale ++ [(name, data)] }

variable (heap : Heap) (file : Bytes)

/-- A short read leaves the end of the buffer as it was allocated. -/
def fread (size : Nat) (io : Stdio) : Bytes × Stdio :=
  let data := (file.drop io.pos).take size
  (data ++ (heap.malloc size).drop data.length, { io with pos := io.pos + data.length })

def readPadding (itemsize pagesize : UInt32) (io : Stdio) : Stdio :=
  { io with pos :=
      io.pos + ((file.drop io.pos).take (paddingCount pagesize itemsize)).length }

def writeStringToFile (name : Suffix) (text : Bytes) (io : Stdio) : Stdio :=
  fclose name (fwrite name [0x0a] (fwrite name text (fopen name io)))

def dumpSection (name stream : Suffix) (size : UInt32) (io : Stdio) : Stdio :=
  let (data, io) := fread heap file size.toNat (fopen name io)
  fclose name (fwrite stream data io)

def hexDigit (d : Nat) : UInt8 := UInt8.ofNat (if d < 10 then 0x30 + d else 0x57 + d)

def hex08 (x : UInt32) : Bytes :=
  (List.range 8).map fun i => hexDigit (x.toNat / 16 ^ (7 - i) % 16)

def decimal (x : UInt32) : Bytes := cBytes (toString x.toBitVec.toInt)

-- A partial read keeps what the last one left in `tmp`.
def findMagic (file : Bytes) : Nat → Nat → Bytes → Option Nat
  | 0, _, _ => none
  | left + 1, i, tmp =>
    let got := (file.drop i).take 8
    let tmp := got ++ tmp.drop got.length
    if tmp = bootMagic then some i else findMagic file left (i + 1) tmp

def parseHeader (raw : Bytes) : Option BootImgHdr := do
  let kernelSize ← wordAt raw 8
  let kernelAddr ← wordAt raw 12
  let ramdiskSize ← wordAt raw 16
  let ramdiskAddr ← wordAt raw 20
  let secondSize ← wordAt raw 24
  let secondAddr ← wordAt raw 28
  let tagsAddr ← wordAt raw 32
  let pageSize ← wordAt raw 36
  let dtSize ← wordAt raw 40
  let unused ← wordAt raw 44
  if fits : 608 ≤ raw.length then
    return ⟨kernelSize, kernelAddr, ramdiskSize, ramdiskAddr, secondSize, secondAddr, tagsAddr,
      pageSize, dtSize, unused, (raw.drop 48).take 16, (raw.drop 64).take 512,
      (raw.drop 576).take 32, by simp; omega, by simp; omega, by simp; omega⟩
  else none

/-- The name test reads `ramdisk[0]` and, after 0x02, `ramdisk[1]`. -/
def ramdiskSuffix : Bytes → Option Suffix
  | [] => none
  | [b] => if b = 0x02 then none else some .ramdiskGz
  | b :: c :: _ => some (if b = 0x02 ∧ c = 0x21 then .ramdiskLz4 else .ramdiskGz)

def writeTexts (h : BootImgHdr) (cmdline : Bytes) (io : Stdio) : Stdio :=
  let io := writeStringToFile .cmdline cmdline io
  let io := writeStringToFile .base (hex08 (h.kernelAddr - 0x00008000)) io
  let io := writeStringToFile .ramdiskOffset (hex08 (h.ramdiskAddr - h.kernelAddr + 0x00008000)) io
  let io := writeStringToFile .secondOffset (hex08 (h.secondAddr - h.kernelAddr + 0x00008000)) io
  let io := writeStringToFile .tagsOffset (hex08 (h.tagsAddr - h.kernelAddr + 0x00008000)) io
  writeStringToFile .pagesize (decimal h.pageSize) io

/-- The second stage, the device tree and the signature are handed to `r`, the stream of the
    ramdisk file. -/
def unpackTail (h : BootImgHdr) (pagesize : UInt32) (r : Suffix) (io : Stdio) : Stdio :=
  let io := dumpSection heap file .second r h.secondSize io
  let io := readPadding file h.secondSize pagesize io
  let io := dumpSection heap file .dt r h.dtSize io
  let io := readPadding file h.dtSize pagesize io
  dumpSection heap file .signature r 256 io

def unpackSections (h : BootImgHdr) (pagesize : UInt32) (io : Stdio) : Except Failure Stdio :=
  let io := readPadding file 608 pagesize io
  let io := dumpSection heap file .zImage .zImage h.kernelSize io
  let io := readPadding file h.kernelSize pagesize io
  let (ramdisk, io) := fread heap file h.ramdiskSize.toNat io
  match ramdiskSuffix ramdisk with
  | none => .error .undefined
  | some r =>
    let io := fclose r (fwrite r ramdisk (fopen r io))
    let io := readPadding file h.ramdiskSize pagesize io
    .ok (unpackTail heap file h pagesize r io)

/-- `pagesizeArg` is 0 without the option `-p`. -/
def unpackbootimg (pagesizeArg : UInt32) (file : Bytes) : Except Failure Stdio :=
  match findMagic file 513 0 (heap.malloc 8) with
  | none => .error .exited
  | some i =>
    match (slice file i 608).bind parseHeader with
    | none => .error .undefined
    | some h =>
      let pagesize := if pagesizeArg = 0 then h.pageSize else pagesizeArg
      -- An unterminated command line runs on into `id`.
      match cString (h.cmdline ++ h.id) with
      | none => .error .undefined
      | some cmdline =>
        unpackSections heap file h pagesize (writeTexts h cmdline ⟨i + 608, fun _ => none, [], []⟩)

variable {host : Host} {args : List String} {built : Built}

section

def layoutStart (p : Nat) (s : Sections) : Section → Nat
  | .kernel => p
  | .ramdisk => p + roundUp p s.kernel.length
  | .second => p + roundUp p s.kernel.length + roundUp p s.ramdisk.length
  | .dt => p + roundUp p s.kernel.length + roundUp p s.ramdisk.length +
      roundUp p (s.second.getD []).length
  | .signature => p + roundUp p s.kernel.length + roundUp p s.ramdisk.length +
      roundUp p (s.second.getD []).length + roundUp p (s.dt.getD []).length

def InPlace (built : Built) : Prop :=
  ∀ start ∈ built.image.starts,
    start.2 = layoutStart built.options.pagesize.toNat built.sections start.1

def secondPart (p : UInt32) (h : BootImgHdr) : Option Bytes → Bytes
  | none => []
  | some data => data ++ calloc (paddingCount p h.ramdiskSize)

def dtPart (p : UInt32) (h : BootImgHdr) : Option Bytes → Bytes
  | none => []
  | some data => data ++ calloc (paddingCount p h.dtSize)

def signaturePart : Option Bytes → Bytes
  | none => []
  | some data => data.take 256

def startOf (s : Section) (data : Option Bytes) (pos : Nat) : List (Section × Nat) :=
  if data.isSome then [(s, pos)] else []

variable {capacity : Nat} {data : Bytes} {fd next : Image} {p n : UInt32} {h : BootImgHdr}

theorem writeBytes_eq (run : writeBytes capacity data fd = some next) :
    next = ⟨fd.bytes ++ data, fd.starts⟩ := by
  unfold writeBytes at run
  split at run
  · cases run
    rfl
  · cases run

theorem writeSection_eq {s : Section} (run : writeSection capacity s data fd = some next) :
    next = ⟨fd.bytes ++ data, fd.starts ++ [(s, fd.bytes.length)]⟩ :=
  writeBytes_eq run

theorem writePadding_eq (run : writePadding capacity p n fd = some next) :
    next = ⟨fd.bytes ++ calloc (paddingCount p n), fd.starts⟩ :=
  writeBytes_eq run

theorem writeSecond_eq {p : UInt32} {second : Option Bytes}
    (run : writeSecond capacity p h second fd = some next) :
    next = ⟨fd.bytes ++ secondPart p h second,
      fd.starts ++ startOf .second second fd.bytes.length⟩ := by
  cases second with
  | none =>
    cases run
    simp [secondPart, startOf]
  | some data =>
    obtain ⟨mid, first, run⟩ := bind_eq_some_iff.mp run
    rw [writePadding_eq run, writeSection_eq first]
    simp [secondPart, startOf, append_assoc]

theorem writeDt_eq {p : UInt32} {dt : Option Bytes} (run : writeDt capacity p h dt fd = some next) :
    next = ⟨fd.bytes ++ dtPart p h dt, fd.starts ++ startOf .dt dt fd.bytes.length⟩ := by
  cases dt with
  | none =>
    cases run
    simp [dtPart, startOf]
  | some data =>
    obtain ⟨mid, first, run⟩ := bind_eq_some_iff.mp run
    rw [writePadding_eq run, writeSection_eq first]
    simp [dtPart, startOf, append_assoc]

theorem writeSignature_eq {sig : Option Bytes} (run : writeSignature capacity sig fd = some next) :
    next = ⟨fd.bytes ++ signaturePart sig,
      fd.starts ++ startOf .signature sig fd.bytes.length⟩ := by
  cases sig with
  | none =>
    cases run
    simp [signaturePart, startOf]
  | some data =>
    rw [writeSection_eq run]
    simp [signaturePart, startOf]

def frontBytes (p : UInt32) (h : BootImgHdr) (s : Sections) : Bytes :=
  headerBytes h ++ (calloc (paddingCount p 608) ++ (s.kernel ++
    (calloc (paddingCount p h.kernelSize) ++ (s.ramdisk ++ calloc (paddingCount p h.ramdiskSize)))))

theorem writeImage_eq {p : UInt32} {s : Sections} {image : Image}
    (run : writeImage capacity p h s = some image) :
    let kernelAt := (headerBytes h).length + paddingCount p 608
    let ramdiskAt := kernelAt + s.kernel.length + paddingCount p h.kernelSize
    let secondAt := ramdiskAt + s.ramdisk.length + paddingCount p h.ramdiskSize
    let dtAt := secondAt + (secondPart p h s.second).length
    let signatureAt := dtAt + (dtPart p h s.dt).length
    image.bytes = frontBytes p h s ++
        (secondPart p h s.second ++ (dtPart p h s.dt ++ signaturePart s.sig)) ∧
      image.starts = [(.kernel, kernelAt), (.ramdisk, ramdiskAt)] ++
        startOf .second s.second secondAt ++ startOf .dt s.dt dtAt ++
        startOf .signature s.sig signatureAt := by
  obtain ⟨fd1, write1, run⟩ := bind_eq_some_iff.mp run
  obtain ⟨fd2, write2, run⟩ := bind_eq_some_iff.mp run
  obtain ⟨fd3, write3, run⟩ := bind_eq_some_iff.mp run
  obtain ⟨fd4, write4, run⟩ := bind_eq_some_iff.mp run
  obtain ⟨fd5, write5, run⟩ := bind_eq_some_iff.mp run
  obtain ⟨fd6, write6, run⟩ := bind_eq_some_iff.mp run
  obtain ⟨fd7, write7, run⟩ := bind_eq_some_iff.mp run
  obtain ⟨fd8, write8, run⟩ := bind_eq_some_iff.mp run
  rw [writeSignature_eq run, writeDt_eq write8, writeSecond_eq write7, writePadding_eq write6,
    writeSection_eq write5, writePadding_eq write4, writeSection_eq write3,
    writePadding_eq write2, writeBytes_eq write1]
  constructor
  · simp only [frontBytes, append_assoc, nil_append]
  · simp only [length_append, nil_append, append_assoc, calloc_length, cons_append, add_assoc]

theorem flatten_le32_length (ws : List UInt32) :
    (ws.map le32).flatten.length = 4 * ws.length := by
  induction ws with
  | nil => rfl
  | cons w ws ih =>
    rw [map_cons, flatten_cons, length_append, le32_length, length_cons]
    omega

theorem header_length (h : BootImgHdr) : (headerBytes h).length = 608 := by
  simp only [headerBytes, length_append, flatten_le32_length, h.name_length,
    h.cmdline_length, h.id_length]
  rfl

theorem paddingCount_eq {k : Nat} (power : p.toNat = 2 ^ k) :
    n.toNat + paddingCount p n = roundUp (2 ^ k) n.toNat := by
  have positive := Nat.two_pow_pos k
  have masked := and_pagemask_toNat p n power
  rw [roundUp_eq positive, paddingCount]
  by_cases whole : n &&& (p - 1) = 0
  · have zero : n.toNat % 2 ^ k = 0 := by rw [← masked, whole]; rfl
    rw [if_pos whole, if_pos zero]
  · have rest : n.toNat % 2 ^ k ≠ 0 := by
      intro zero
      exact whole (UInt32.toNat.inj (masked.trans zero))
    have lower : n &&& (p - 1) ≤ p := by
      rw [UInt32.le_iff_toNat_le]
      omega
    rw [if_neg whole, if_neg rest, UInt32.toNat_sub_of_le _ _ lower, masked, power]

/-- The padding of the ramdisk, written behind the second stage, is also the padding the
    second stage needs, unless nothing follows. -/
def SecondPadded (built : Built) : Prop :=
  ∀ data, built.sections.second = some data →
    built.sections.dt.isSome ∨ built.sections.sig.isSome →
    built.sections.ramdisk.length % built.options.pagesize.toNat =
      data.length % built.options.pagesize.toNat

variable (written : mkbootimg host args = .ok built)
include written

theorem written_power : ∃ k, built.options.pagesize.toNat = 2 ^ k ∧ 608 ≤ 2 ^ k := by
  obtain ⟨_, parsed, _⟩ := mkbootimg_ok written
  have start : ({} : Options).pagesize ∈ pageSizes := by decide
  exact pageSizes_power (parseArgs_pagesize start parsed)

theorem written_padding {k : Nat} (power : built.options.pagesize.toNat = 2 ^ k) :
    built.sections.kernel.length +
        paddingCount built.options.pagesize built.header.kernelSize =
          roundUp (2 ^ k) built.sections.kernel.length ∧
      built.sections.ramdisk.length +
        paddingCount built.options.pagesize built.header.ramdiskSize =
          roundUp (2 ^ k) built.sections.ramdisk.length ∧
      (built.sections.dt.getD []).length +
        paddingCount built.options.pagesize built.header.dtSize =
          roundUp (2 ^ k) (built.sections.dt.getD []).length := by
  obtain ⟨_, _, _, loaded, header, _⟩ := mkbootimg_ok written
  have sized := loadSections_sized loaded
  rw [header, ← sized.kernel, ← sized.ramdisk, ← sized.dt]
  exact ⟨paddingCount_eq power, paddingCount_eq power, paddingCount_eq power⟩

theorem kernel_start :
    608 + paddingCount built.options.pagesize 608 = built.options.pagesize.toNat := by
  obtain ⟨k, power, wide⟩ := written_power written
  have pad := paddingCount_eq (n := 608) power
  change 608 + paddingCount built.options.pagesize 608 = roundUp (2 ^ k) 608 at pad
  rw [pad, power, roundUp_eq (Nat.two_pow_pos k)]
  by_cases exact : 608 = 2 ^ k
  · rw [← exact]
    rfl
  · rw [mod_eq_of_lt (by omega), if_neg (by omega)]
    omega

omit written in
theorem startOf_forall (s : Section) (data : Option Bytes) (pos : Nat) (place : Section → Nat) :
    (∀ start ∈ startOf s data pos, start.2 = place start.1) ↔
      (data.isSome → pos = place s) := by
  cases data with
  | none => simp [startOf]
  | some data => simp [startOf]

theorem inPlace_iff : InPlace built ↔ SecondPadded built := by
  obtain ⟨k, power, _⟩ := written_power written
  have positive := Nat.two_pow_pos k
  have first := kernel_start written
  obtain ⟨_, _, _, _, _, wrote⟩ := mkbootimg_ok written
  obtain ⟨_, starts⟩ := writeImage_eq wrote
  obtain ⟨kernelPad, ramdiskPad, dtPad⟩ := written_padding written power
  have dtLength : (dtPart built.options.pagesize built.header built.sections.dt).length =
      roundUp (2 ^ k) (built.sections.dt.getD []).length := by
    cases present : built.sections.dt with
    | none => exact (roundUp_of_dvd positive (dvd_zero _)).symm
    | some data => simpa [present, dtPart] using dtPad
  rw [power] at first
  rw [InPlace, SecondPadded, starts, header_length, power]
  simp only [forall_mem_append, forall_mem_cons, startOf_forall]
  simp only [layoutStart, dtLength, not_mem_nil, false_implies, implies_true, and_true]
  cases present : built.sections.second with
  | none =>
    have none : roundUp (2 ^ k) 0 = 0 := roundUp_of_dvd positive (dvd_zero _)
    simp only [secondPart, Option.getD_none, length_nil, none]
    constructor
    · intro _ data absent
      cases absent
    · intro _
      exact ⟨⟨⟨⟨first, by omega⟩, fun _ => by omega⟩, fun _ => by omega⟩, fun _ => by omega⟩
  | some data =>
    have gap := roundUp_gap positive built.sections.ramdisk.length data.length
    simp only [secondPart, Option.getD_some, length_append, calloc_length,
      Option.some.injEq, forall_eq', ← gap]
    constructor
    · rintro ⟨⟨_, dtAt⟩, signatureAt⟩ (dt | sig)
      · have := dtAt dt
        omega
      · have := signatureAt sig
        omega
    · intro padded
      refine ⟨⟨⟨⟨first, by omega⟩, fun _ => by omega⟩, fun dt => ?_⟩, fun sig => ?_⟩
      · have := padded (Or.inl dt)
        omega
      · have := padded (Or.inr sig)
        omega

end

theorem fwrite_streams (name : Suffix) (data : Bytes) (io : Stdio) :
    (fwrite name data io).streams = io.streams := by
  unfold fwrite
  split
  · rfl
  · split <;> rfl

@[simp] theorem dumpSection_streams (heap : Heap) (file : Bytes) (name stream : Suffix)
    (size : UInt32) (io : Stdio) :
    (dumpSection heap file name stream size io).streams = io.streams := by
  simp [dumpSection, fclose, fwrite_streams, fread, fopen]

@[simp] theorem writeStringToFile_streams (name : Suffix) (text : Bytes) (io : Stdio) :
    (writeStringToFile name text io).streams = io.streams := by
  simp [writeStringToFile, fclose, fwrite_streams, fopen]

theorem fwrite_pos (name : Suffix) (data : Bytes) (io : Stdio) :
    (fwrite name data io).pos = io.pos := by
  unfold fwrite
  split
  · rfl
  · split <;> rfl

@[simp] theorem writeStringToFile_pos (name : Suffix) (text : Bytes) (io : Stdio) :
    (writeStringToFile name text io).pos = io.pos := by
  simp [writeStringToFile, fclose, fwrite_pos, fopen]

@[simp] theorem writeTexts_pos (h : BootImgHdr) (cmdline : Bytes) (io : Stdio) :
    (writeTexts h cmdline io).pos = io.pos := by
  simp [writeTexts]

@[simp] theorem readPadding_streams (file : Bytes) (itemsize pagesize : UInt32) (io : Stdio) :
    (readPadding file itemsize pagesize io).streams = io.streams := rfl

@[simp] theorem writeTexts_streams (h : BootImgHdr) (cmdline : Bytes) (io : Stdio) :
    (writeTexts h cmdline io).streams = io.streams := by
  simp [writeTexts]

theorem fwrite_opened (name : Suffix) (data : Bytes) (io : Stdio) :
    fwrite name data (fopen name io) =
      { io with files := update io.files name (some data),
                streams := name :: io.streams } := by
  by_cases empty : data = []
  · subst empty
    rfl
  · rw [fwrite, if_neg empty]
    simp [fopen]

@[simp] theorem writeStringToFile_stale (name : Suffix) (text : Bytes) (io : Stdio) :
    (writeStringToFile name text io).stale = io.stale := by
  rw [writeStringToFile, fwrite_opened]
  simp [fclose, fwrite]

@[simp] theorem writeTexts_stale (h : BootImgHdr) (cmdline : Bytes) (io : Stdio) :
    (writeTexts h cmdline io).stale = io.stale := by
  simp [writeTexts]

theorem fread_length (heap : Heap) (file : Bytes) (size : Nat) (io : Stdio) :
    (fread heap file size io).1.length = size := by
  simp only [fread, length_append, length_drop, heap.malloc_length, length_take]
  omega

variable {heap : Heap} {file : Bytes} {size : UInt32} {io : Stdio} {h : BootImgHdr}
  {pagesize : UInt32} {r : Suffix} {data : Bytes}

/-- A section of some bytes that is handed to a stream that is not open. -/
theorem dumpSection_closed {name stream : Suffix} (closed : stream ∉ io.streams)
    (other : stream ≠ name) (present : size ≠ 0) :
    (dumpSection heap file name stream size io).stale ≠ [] := by
  have missing : stream ∉ name :: io.streams := by simp [other, closed]
  have length := fread_length heap file size.toNat (fopen name io)
  simp only [dumpSection]
  cases data : fread heap file size.toNat (fopen name io) with
  | mk bytes next =>
    have opened : next.streams = name :: io.streams := by
      obtain ⟨_, rfl⟩ := data
      rfl
    have filled : bytes ≠ [] := by
      rintro rfl
      rw [data] at length
      exact present (UInt32.toNat.inj length.symm)
    simp [fclose, fwrite, opened, missing, filled]

/-- The 256 bytes of the signature are always handed to the closed stream of the ramdisk. -/
theorem unpackTail_closed (closed : r ∉ io.streams) (ramdisk : r = .ramdiskLz4 ∨ r = .ramdiskGz) :
    (unpackTail heap file h pagesize r io).stale ≠ [] := by
  have own : r ≠ .signature := by
    rcases ramdisk with rfl | rfl <;> decide
  exact dumpSection_closed (by simpa using closed) own (by decide)

theorem ramdiskSuffix_ramdisk (run : ramdiskSuffix data = some r) :
    r = .ramdiskLz4 ∨ r = .ramdiskGz := by
  unfold ramdiskSuffix at run
  split at run
  · cases run
  · split at run <;> cases run
    exact Or.inr rfl
  · split at run <;> cases run
    · exact Or.inl rfl
    · exact Or.inr rfl

theorem unpackSections_stale {io last : Stdio} (idle : io.streams = [])
    (run : unpackSections heap file h pagesize io = .ok last) : last.stale ≠ [] := by
  simp only [unpackSections] at run
  split at run
  · cases run
  · rename_i r found
    cases run
    apply unpackTail_closed ?_ (ramdiskSuffix_ramdisk found)
    simp [fclose, fwrite_streams, fopen, fread, idle]

theorem unpackbootimg_stale {pagesizeArg : UInt32} {last : Stdio}
    (run : unpackbootimg heap pagesizeArg file = .ok last) : last.stale ≠ [] := by
  rw [unpackbootimg] at run
  split at run
  · cases run
  · split at run
    · cases run
    · simp only at run
      split at run
      · cases run
      · exact unpackSections_stale (by simp) run

theorem wordAt_table {front back : Bytes} {place : Nat} (here : front.length = place)
    (ws : List UInt32) (i : Nat) (w : UInt32) (found : ws[i]? = some w) :
    wordAt (front ++ ((ws.map le32).flatten ++ back)) (place + 4 * i) = some w := by
  induction ws generalizing front place i with
  | nil => simp at found
  | cons first ws ih =>
    cases i with
    | zero =>
      simp only [getElem?_cons_zero, Option.some.injEq] at found
      subst w
      have read : slice (le32 first ++ ((ws.map le32).flatten ++ back)) 0 4 =
          some (le32 first) := by
        rfl
      rw [map_cons, flatten_cons, append_assoc, wordAt, slice_behind here, read,
        bind_some, readLe32_le32]
    | succ i =>
      have behind : (front ++ le32 first).length = place + 4 := by simp [here]
      have next := ih behind i (by simpa using found)
      rw [map_cons, flatten_cons, append_assoc, ← append_assoc front,
        show place + 4 * (i + 1) = place + 4 + 4 * i by omega]
      exact next

theorem parseHeader_bytes (h : BootImgHdr) : parseHeader (headerBytes h) = some h := by
  have shape : headerBytes h = bootMagic ++ ((h.words.map le32).flatten ++
      (h.name ++ (h.cmdline ++ h.id))) := by
    simp only [headerBytes, append_assoc]
  have word (i : Nat) (w : UInt32) (found : h.words[i]? = some w) :
      wordAt (headerBytes h) (8 + 4 * i) = some w := by
    rw [shape]
    exact wordAt_table rfl h.words i w found
  have front : (bootMagic ++ (h.words.map le32).flatten).length = 48 := by
    rfl
  have name : ((headerBytes h).drop 48).take 16 = h.name := by
    rw [shape, ← append_assoc, ← front, drop_left, ← h.name_length, take_left]
  have cmdline : ((headerBytes h).drop 64).take 512 = h.cmdline := by
    rw [shape, ← append_assoc, ← append_assoc,
      show 64 = (bootMagic ++ (h.words.map le32).flatten ++ h.name).length by
        rw [length_append, front, h.name_length],
      drop_left, ← h.cmdline_length, take_left]
  have id : ((headerBytes h).drop 576).take 32 = h.id := by
    rw [shape, ← append_assoc, ← append_assoc, ← append_assoc,
      show 576 = (bootMagic ++ (h.words.map le32).flatten ++ h.name ++ h.cmdline).length by
        rw [length_append, length_append, front, h.name_length, h.cmdline_length],
      drop_left, ← h.id_length, take_length]
  have w0 := word 0 _ rfl
  have w1 := word 1 _ rfl
  have w2 := word 2 _ rfl
  have w3 := word 3 _ rfl
  have w4 := word 4 _ rfl
  have w5 := word 5 _ rfl
  have w6 := word 6 _ rfl
  have w7 := word 7 _ rfl
  have w8 := word 8 _ rfl
  have w9 := word 9 _ rfl
  simp only [parseHeader, w0, w1, w2, w3, w4, w5, w6, w7, w8, w9, name, cmdline, id,
    Option.bind_eq_bind, bind_some, header_length, Option.pure_def]
  rfl

theorem findMagic_start {tmp : Bytes} (rest : Bytes) (left : Nat) (eight : tmp.length = 8) :
    findMagic (bootMagic ++ rest) (left + 1) 0 tmp = some 0 := by
  have got : ((bootMagic ++ rest).drop 0).take 8 = bootMagic := take_left' rfl
  have none : tmp.drop bootMagic.length = [] := drop_eq_nil_iff.mpr (le_of_eq eight)
  simp only [findMagic, got, none, append_nil, if_true]

theorem fread_at {file front data back : Bytes} {size : Nat}
    (shape : file = front ++ (data ++ back)) (here : io.pos = front.length)
    (whole : data.length = size) :
    fread heap file size io = (data, { io with pos := io.pos + size }) := by
  have got : (file.drop io.pos).take size = data := by
    rw [shape, here, drop_left, ← whole, take_left]
  have rest : (heap.malloc size).drop data.length = [] := by
    rw [drop_eq_nil_iff, heap.malloc_length, whole]
  simp only [fread, got, rest, append_nil]
  rw [whole]

theorem readPadding_at {file front back : Bytes} {itemsize pagesize : UInt32}
    (shape : file = front ++ (calloc (paddingCount pagesize itemsize) ++ back))
    (here : io.pos = front.length) :
    readPadding file itemsize pagesize io =
      { io with pos := io.pos + paddingCount pagesize itemsize } := by
  rw [readPadding, shape, here, drop_left, take_left' (calloc_length _), calloc_length]

theorem dumpSection_own {file front data back : Bytes} {name : Suffix}
    (shape : file = front ++ (data ++ back)) (here : io.pos = front.length)
    (whole : data.length = size.toNat) :
    dumpSection heap file name name size io =
      { io with pos := io.pos + size.toNat,
                files := update io.files name (some data) } := by
  have read : fread heap file size.toNat (fopen name io) = _ := fread_at shape here whole
  have moved : ({ fopen name io with pos := (fopen name io).pos + size.toNat } : Stdio) =
      fopen name { io with pos := io.pos + size.toNat } := rfl
  simp only [dumpSection, read]
  rw [moved, fwrite_opened]
  simp [fclose]

/-- From the end of the header the reader walks the same pages as the writer, up to the
    padding of the ramdisk. -/
theorem unpackSections_front (heap : Heap) {p : UInt32} {s : Sections} (tail : Bytes)
    (here : io.pos = 608)
    (kernelSize : s.kernel.length = h.kernelSize.toNat)
    (ramdiskSize : s.ramdisk.length = h.ramdiskSize.toNat)
    (named : ramdiskSuffix s.ramdisk = some r) :
    ∃ next, unpackSections heap (frontBytes p h s ++ tail) h p io =
        .ok (unpackTail heap (frontBytes p h s ++ tail) h p r next) ∧
      next.stale = io.stale ∧ next.files .zImage = some s.kernel ∧
      next.files r = some s.ramdisk := by
  obtain ⟨file, whole⟩ : ∃ file, file = frontBytes p h s ++ tail := ⟨_, rfl⟩
  rw [← whole]
  simp only [frontBytes, append_assoc] at whole
  have pad : readPadding file 608 p io = _ :=
    readPadding_at whole (here.trans (header_length h).symm)
  rw [← append_assoc] at whole
  have kernel : dumpSection heap file .zImage .zImage h.kernelSize (readPadding file 608 p io) = _
      := dumpSection_own whole (by rw [pad]; simp [here, header_length]) kernelSize
  rw [← append_assoc] at whole
  have kernelPad : readPadding file h.kernelSize p (dumpSection heap file .zImage .zImage
      h.kernelSize (readPadding file 608 p io)) = _ :=
    readPadding_at whole (by rw [kernel, pad]; simp [here, header_length, kernelSize]; omega)
  rw [← append_assoc] at whole
  have ramdisk : fread heap file h.ramdiskSize.toNat (readPadding file h.kernelSize p
      (dumpSection heap file .zImage .zImage h.kernelSize (readPadding file 608 p io))) = _ :=
    fread_at whole
      (by rw [kernelPad, kernel, pad]; simp [here, header_length, kernelSize]; omega) ramdiskSize
  refine ⟨readPadding file h.ramdiskSize p (fclose r (fwrite r s.ramdisk (fopen r
    (fread heap file h.ramdiskSize.toNat (readPadding file h.kernelSize p
      (dumpSection heap file .zImage .zImage h.kernelSize (readPadding file 608 p io)))).2))),
    ?_, ?_, ?_, ?_⟩
  · simp only [unpackSections, ramdisk, named]
  · rw [fwrite_opened, ramdisk, kernel]
    rfl
  · have other : r ≠ .zImage := by
      rcases ramdiskSuffix_ramdisk named with rfl | rfl <;> decide
    rw [ramdisk, fwrite_opened, kernel]
    simp [readPadding, fclose, other.symm]
  · rw [fwrite_opened]
    simp [readPadding, fclose]

theorem terminated (zero : 0 ∈ h.cmdline) : ∃ text, cString (h.cmdline ++ h.id) = some text := by
  exact ⟨_, if_pos (mem_append_left _ zero)⟩

theorem zero_mem_zeroFilled {n : Nat} (short : data.length < n) : 0 ∈ zeroFilled n data := by
  have inside : data.length < (zeroFilled n data).length := by rw [zeroFilled_length]; exact short
  have zero : (zeroFilled n data)[data.length] = 0 := by
    simp [zeroFilled, calloc]
  rw [← zero]
  exact getElem_mem inside

theorem checkOptions_cmdline {o : Options} {names : Names} (run : checkOptions o = .ok names) :
    (cBytes o.cmdline).length < 512 := by
  rw [checkOptions] at run
  split at run
  · cases run
  · split at run
    · cases run
    · cases run
    · cases run
    · split at run
      · cases run
      · split at run
        · cases run
        · omega

/-- When the reader comes to the second stage it has written to open streams only, and the files of
    the kernel and the ramdisk hold what the image was made from. -/
theorem unpack_kernel_ramdisk (written : mkbootimg host args = .ok built) (heap : Heap)
    {r : Suffix} (named : ramdiskSuffix built.sections.ramdisk = some r) :
    ∃ io, unpackbootimg heap 0 built.image.bytes =
        .ok (unpackTail heap built.image.bytes built.header built.options.pagesize r io) ∧
      io.stale = [] ∧ io.files .zImage = some built.sections.kernel ∧
      io.files r = some built.sections.ramdisk := by
  obtain ⟨names, _, checked, loaded, header, wrote⟩ := mkbootimg_ok written
  have sized := loadSections_sized loaded
  have pageSize : built.header.pageSize = built.options.pagesize := by rw [header]; rfl
  have kernelSize : built.sections.kernel.length = built.header.kernelSize.toNat := by
    rw [header]; exact sized.kernel.symm
  have ramdiskSize : built.sections.ramdisk.length = built.header.ramdiskSize.toNat := by
    rw [header]; exact sized.ramdisk.symm
  have zero : 0 ∈ built.header.cmdline := by
    rw [header]; exact zero_mem_zeroFilled (checkOptions_cmdline checked)
  obtain ⟨text, line⟩ := terminated zero
  obtain ⟨bytes, _⟩ := writeImage_eq wrote
  have magic : findMagic built.image.bytes 513 0 (heap.malloc 8) = some 0 := by
    rw [bytes, frontBytes]
    simp only [append_assoc]
    exact findMagic_start _ 512 (heap.malloc_length 8)
  have parsed : (slice built.image.bytes 0 608).bind parseHeader = some built.header := by
    rw [bytes, frontBytes, append_assoc, slice_left _ _ _ _ (by rw [header_length]), slice,
      if_pos (by rw [header_length]), drop_zero, ← header_length built.header,
      take_length, bind_some, parseHeader_bytes]
  have here : (writeTexts built.header text ⟨0 + 608, fun _ => none, [], []⟩).pos = 608 := by
    simp
  obtain ⟨next, run, stale, kernel, ramdisk⟩ :=
    unpackSections_front heap _ here kernelSize ramdiskSize named
  rw [← bytes] at run
  refine ⟨next, ?_, ?_, kernel, ramdisk⟩
  · simp only [unpackbootimg, magic, parsed, line, if_true, pageSize]
    exact run
  · rw [stale]
    simp

structure Recovered (heap : Heap) (built : Built) (io : Stdio) : Prop where
  run : unpackbootimg heap 0 built.image.bytes = .ok io
  defined : io.stale = []
  kernel : io.files .zImage = some built.sections.kernel
  ramdisk : ∃ r, ramdiskSuffix built.sections.ramdisk = some r ∧
    io.files r = some built.sections.ramdisk
  second : io.files .second = some (built.sections.second.getD [])
  dt : io.files .dt = some (built.sections.dt.getD [])
  signature : io.files .signature = some (built.sections.sig.getD [])

/-- No image is recovered by defined steps only: every run of unpackbootimg hands the signature to a
    closed stream, which is undefined. The image itself keeps the layout of bootimg.h unless the ramdisk and a second stage that
    is followed by another section end at different places in their pages. -/
theorem boot_image_never_recovered (written : mkbootimg host args = .ok built) :
    (∀ heap io, ¬ Recovered heap built io) ∧ (InPlace built ↔ SecondPadded built) := by
  constructor
  · intro heap io back
    exact unpackbootimg_stale back.run back.defined
  · exact inPlace_iff written

def sampleFiles (fn : String) : Option Bytes :=
  if fn = "zImage" then some [1, 2, 3]
  else if fn = "ramdisk" then some [0x1f, 0x8b]
  else if fn = "second" then some [4]
  else if fn = "sig" then some (calloc 256)
  else none

def sampleHost : Host where
  readFile := sampleFiles
  readDir _ := none
  strtoul _ _ := 0
  sha1 _ := []
  board := ⟨[0x44, 0x54, 0x42, 0x48], rfl, 2, none, [0x61], [0x62], 0x50a6, 0x217584da⟩
  fdt := ⟨fun _ => -9, fun _ _ => none⟩
  qsort _ es := es
  canCreate _ := true
  capacity := 16384

def sampleArgs : List String :=
  ["--kernel", "zImage", "--ramdisk", "ramdisk", "-o", "boot.img"]

theorem built_of_check {host : Host} {args : List String} {check : Built → Bool}
    (ok : ((mkbootimg host args).toOption.any check) = true) :
    ∃ built, mkbootimg host args = .ok built ∧ check built = true := by
  cases run : mkbootimg host args with
  | error halt => simp [run, Except.toOption] at ok
  | ok built => exact ⟨built, rfl, by simpa [run, Except.toOption] using ok⟩

theorem sample_never_recovered : ∃ built, mkbootimg sampleHost sampleArgs = .ok built ∧
    ∀ heap io, ¬ Recovered heap built io := by
  obtain ⟨built, written, _⟩ : ∃ built, mkbootimg sampleHost sampleArgs = .ok built ∧
      true = true := built_of_check (by decide +kernel)
  exact ⟨built, written, (boot_image_never_recovered written).1⟩

theorem sample_kernel_ramdisk : ∃ built io, mkbootimg sampleHost sampleArgs = .ok built ∧
    unpackbootimg ⟨calloc, fun _ => length_replicate⟩ 0 built.image.bytes =
      .ok (unpackTail ⟨calloc, fun _ => length_replicate⟩ built.image.bytes built.header
        built.options.pagesize .ramdiskGz io) ∧
    io.stale = [] ∧ io.files .zImage = some built.sections.kernel ∧
    io.files .ramdiskGz = some built.sections.ramdisk := by
  obtain ⟨built, written, check⟩ := built_of_check (show ((mkbootimg sampleHost
    sampleArgs).toOption.any (ramdiskSuffix ·.sections.ramdisk = some .ramdiskGz)) = true by
    decide +kernel)
  obtain ⟨io, run, found⟩ := unpack_kernel_ramdisk written _ (of_decide_eq_true check)
  exact ⟨built, io, written, run, found⟩

/-- With a second stage of one byte behind a ramdisk of two, the signature is written one byte
    before its page, and what is read for it is handed to a closed stream. -/
theorem shifted_signature_lost : ∃ built,
    mkbootimg sampleHost (sampleArgs ++ ["--second", "second", "--signature", "sig"]) =
        .ok built ∧
      (.signature, 8191) ∈ built.image.starts ∧
      layoutStart built.options.pagesize.toNat built.sections .signature = 8192 ∧
      ∀ heap io, ¬ Recovered heap built io := by
  obtain ⟨built, written, check⟩ := built_of_check (show ((mkbootimg sampleHost
    (sampleArgs ++ ["--second", "second", "--signature", "sig"])).toOption.any fun built =>
      decide ((.signature, 8191) ∈ built.image.starts) &&
        layoutStart built.options.pagesize.toNat built.sections .signature == 8192) = true by
    decide +kernel)
  simp only [Bool.and_eq_true, decide_eq_true_eq, beq_iff_eq] at check
  refine ⟨built, written, check.1, check.2, ?_⟩
  intro heap io back
  exact unpackbootimg_stale back.run back.defined

end BootImageRoundTrip
