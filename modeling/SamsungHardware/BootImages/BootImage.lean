import SamsungHardware.BootImages.DtbhLayout

/- The boot image written by dtbhtool/mkbootimg.c in the format of bootimg.h: a header of
   608 bytes and up to five sections, each behind the padding of the one before it. File
   contents, directories, `strtoul`, SHA-1 and the room on the disk are those of the host. -/
namespace BootImage
open PageRounding ByteBuffer DtbhBlock DtbhLayout

inductive Halt where
  | usage (message : String)
  | exit (status : Int) (message : String)
  | undefined
  deriving DecidableEq, Repr

structure Host where
  readFile : String → Option Bytes
  readDir : String → Option (List DirEntry)
  strtoul : String → Nat → UInt32
  sha1 : Bytes → Bytes
  board : Board
  fdt : Libfdt
  qsort : (BlobEntry → BlobEntry → Int) → List BlobEntry → List BlobEntry
  canCreate : String → Bool
  capacity : Nat

def bootMagic : Bytes := [0x41, 0x4e, 0x44, 0x52, 0x4f, 0x49, 0x44, 0x21]

/-- `boot_img_hdr` without its magic; the ten words follow each other in this order. -/
structure BootImgHdr where
  (kernelSize kernelAddr ramdiskSize ramdiskAddr secondSize secondAddr tagsAddr pageSize : UInt32)
  (dtSize unused : UInt32)
  (name cmdline id : Bytes)
  name_length : name.length = 16
  cmdline_length : cmdline.length = 512
  id_length : id.length = 32

def BootImgHdr.words (h : BootImgHdr) : List UInt32 :=
  [h.kernelSize, h.kernelAddr, h.ramdiskSize, h.ramdiskAddr, h.secondSize, h.secondAddr,
    h.tagsAddr, h.pageSize, h.dtSize, h.unused]

def headerBytes (h : BootImgHdr) : Bytes :=
  bootMagic ++ (h.words.map le32).flatten ++ h.name ++ h.cmdline ++ h.id

structure Options where
  bootimg : Option String := none
  kernelFn : Option String := none
  ramdiskFn : Option String := none
  secondFn : Option String := none
  cmdline : String := ""
  board : String := ""
  dtDir : Option String := none
  dtFn : Option String := none
  sigFn : Option String := none
  pagesize : UInt32 := 2048
  base : UInt32 := 0x10000000
  kernelOffset : UInt32 := 0x00008000
  ramdiskOffset : UInt32 := 0x01000000
  secondOffset : UInt32 := 0x00f00000
  tagsOffset : UInt32 := 0x00000100

def pageSizes : List UInt32 := [2048, 4096, 8192, 16384, 32768, 65536, 131072]

inductive Flag where
  | output | kernel | ramdisk | second | cmdline | base | kernelOffset | ramdiskOffset
  | secondOffset | tagsOffset | board | pagesize | dtDir | dt | signature
  deriving DecidableEq, Repr

def flags : List (String × Flag) :=
  [("--output", .output), ("-o", .output), ("--kernel", .kernel), ("--ramdisk", .ramdisk),
    ("--second", .second), ("--cmdline", .cmdline), ("--base", .base),
    ("--kernel_offset", .kernelOffset), ("--ramdisk_offset", .ramdiskOffset),
    ("--second_offset", .secondOffset), ("--tags_offset", .tagsOffset), ("--board", .board),
    ("--pagesize", .pagesize), ("--dt_dir", .dtDir), ("--dt", .dt),
    ("--signature", .signature)]

def setOption (strtoul : String → Nat → UInt32) (o : Options) (val : String) :
    Flag → Except Halt Options
  | .output => .ok { o with bootimg := some val }
  | .kernel => .ok { o with kernelFn := some val }
  | .ramdisk => .ok { o with ramdiskFn := some val }
  | .second => .ok { o with secondFn := some val }
  | .cmdline => .ok { o with cmdline := val }
  | .base => .ok { o with base := strtoul val 16 }
  | .kernelOffset => .ok { o with kernelOffset := strtoul val 16 }
  | .ramdiskOffset => .ok { o with ramdiskOffset := strtoul val 16 }
  | .secondOffset => .ok { o with secondOffset := strtoul val 16 }
  | .tagsOffset => .ok { o with tagsOffset := strtoul val 16 }
  | .board => .ok { o with board := val }
  | .pagesize =>
    if strtoul val 10 ∈ pageSizes then .ok { o with pagesize := strtoul val 10 }
    else .error (.exit (-1) "error: unsupported page size")
  | .dtDir => .ok { o with dtDir := some val }
  | .dt => .ok { o with dtFn := some val }
  | .signature => .ok { o with sigFn := some val }

def parseArgs (strtoul : String → Nat → UInt32) : List String → Options → Except Halt Options
  | [], o => .ok o
  | [_], _ => .error (.usage "")
  | arg :: val :: rest, o =>
    match flags.lookup arg with
    | none => .error (.usage "")
    | some flag =>
      match setOption strtoul o val flag with
      | .error halt => .error halt
      | .ok next => parseArgs strtoul rest next

def cBytes (s : String) : Bytes := s.toUTF8.toList

structure Names where
  (bootimg kernelFn ramdiskFn : String)

def checkOptions (o : Options) : Except Halt Names :=
  if o.dtDir.isSome ∧ o.dtFn.isSome then
    .error (.usage "error: don't use both --dt_dir and --dt option")
  else
    match o.bootimg, o.kernelFn, o.ramdiskFn with
    | none, _, _ => .error (.usage "error: no output filename specified")
    | some _, none, _ => .error (.usage "error: no kernel image specified")
    | some _, some _, none => .error (.usage "error: no ramdisk image specified")
    | some bootimg, some kernelFn, some ramdiskFn =>
      if 16 ≤ (cBytes o.board).length then .error (.usage "error: board name too large")
      else if 511 < (cBytes o.cmdline).length then
        .error (.exit 1 "error: kernel commandline too large")
      else .ok ⟨bootimg, kernelFn, ramdiskFn⟩

def requireFile (host : Host) (what fn : String) : Except Halt Bytes :=
  match (host.readFile fn).bind loadFile with
  | none => .error (.exit 1 ("error: could not load " ++ what ++ " '" ++ fn ++ "'"))
  | some data => .ok data

def optionalFile (host : Host) (what : String) : Option String → Except Halt (Option Bytes)
  | none => .ok none
  | some fn => (requireFile host what fn).map some

def loadRamdisk (host : Host) (fn : String) : Except Halt Bytes :=
  if fn = "NONE" then .ok [] else requireFile host "ramdisk" fn

-- `hdr.dt_size` is the size of the block that `load_dtbh_block` allocated.
def loadDt (host : Host) (o : Options) : Except Halt (Option Bytes) :=
  match o.dtDir with
  | none => optionalFile host "device tree image" o.dtFn
  | some dir =>
    match host.readDir dir with
    | none => .error (.exit 1 ("failed to open '" ++ dir ++ "'"))
    | some files =>
      match loadDtbhBlock host.board host.fdt host.qsort files o.pagesize with
      | .error .exited => .error (.exit 1 "failed to read dtb")
      | .error .undefined => .error .undefined
      | .ok none =>
        .error (.exit 1 ("error: could not load device tree blobs '" ++ dir ++ "'"))
      | .ok (some block) => .ok (some block.image)

structure Sections where
  (kernel ramdisk : Bytes)
  (second dt sig : Option Bytes)

def loadSections (host : Host) (o : Options) (names : Names) : Except Halt Sections := do
  let kernel ← requireFile host "kernel" names.kernelFn
  let ramdisk ← loadRamdisk host names.ramdiskFn
  let second ← optionalFile host "secondstage" o.secondFn
  let dt ← loadDt host o
  let sig ← optionalFile host "signature" o.sigFn
  return ⟨kernel, ramdisk, second, dt, sig⟩

def zeroFilled (n : Nat) (data : Bytes) : Bytes := (data ++ calloc n).take n

theorem zeroFilled_length (n : Nat) (data : Bytes) : (zeroFilled n data).length = n := by
  simp [zeroFilled]

def size (data : Bytes) : UInt32 := UInt32.ofNat data.length

def sizeOf : Option Bytes → UInt32
  | none => 0
  | some data => size data

def digestInput (s : Sections) : Bytes :=
  s.kernel ++ le32 (size s.kernel) ++ s.ramdisk ++ le32 (size s.ramdisk) ++
    s.second.getD [] ++ le32 (sizeOf s.second) ++
    match s.dt with
    | none => []
    | some dt => dt ++ le32 (size dt)

def makeHeader (host : Host) (o : Options) (s : Sections) : BootImgHdr where
  kernelSize := size s.kernel
  kernelAddr := o.base + o.kernelOffset
  ramdiskSize := size s.ramdisk
  ramdiskAddr := o.base + o.ramdiskOffset
  secondSize := sizeOf s.second
  secondAddr := o.base + o.secondOffset
  tagsAddr := o.base + o.tagsOffset
  pageSize := o.pagesize
  dtSize := sizeOf s.dt
  unused := 0
  name := zeroFilled 16 (cBytes o.board)
  cmdline := zeroFilled 512 (cBytes o.cmdline)
  id := zeroFilled 32 ((host.sha1 (digestInput s)).take 20)
  name_length := zeroFilled_length _ _
  cmdline_length := zeroFilled_length _ _
  id_length := zeroFilled_length _ _

inductive Section where
  | kernel | ramdisk | second | dt | signature
  deriving DecidableEq, Repr

structure Image where
  bytes : Bytes
  starts : List (Section × Nat)

variable (capacity : Nat)

def writeBytes (data : Bytes) (fd : Image) : Option Image :=
  if fd.bytes.length + data.length ≤ capacity then some { fd with bytes := fd.bytes ++ data }
  else none

def writeSection (s : Section) (data : Bytes) (fd : Image) : Option Image :=
  writeBytes capacity data { fd with starts := fd.starts ++ [(s, fd.bytes.length)] }

def paddingCount (pagesize itemsize : UInt32) : Nat :=
  if itemsize &&& (pagesize - 1) = 0 then 0
  else (pagesize - (itemsize &&& (pagesize - 1))).toNat

def writePadding (pagesize itemsize : UInt32) (fd : Image) : Option Image :=
  writeBytes capacity (calloc (paddingCount pagesize itemsize)) fd

/-- The second stage is padded with the size of the ramdisk. -/
def writeSecond (pagesize : UInt32) (h : BootImgHdr) (second : Option Bytes)
    (fd : Image) : Option Image :=
  match second with
  | none => some fd
  | some data =>
    (writeSection capacity .second data fd).bind (writePadding capacity pagesize h.ramdiskSize)

def writeDt (pagesize : UInt32) (h : BootImgHdr) (dt : Option Bytes) (fd : Image) : Option Image :=
  match dt with
  | none => some fd
  | some data =>
    (writeSection capacity .dt data fd).bind (writePadding capacity pagesize h.dtSize)

def writeSignature (sig : Option Bytes) (fd : Image) : Option Image :=
  match sig with
  | none => some fd
  | some data => writeSection capacity .signature (data.take 256) fd

def writeImage (pagesize : UInt32) (h : BootImgHdr) (s : Sections) :
    Option Image := do
  let fd ← writeBytes capacity (headerBytes h) ⟨[], []⟩
  let fd ← writePadding capacity pagesize 608 fd
  let fd ← writeSection capacity .kernel s.kernel fd
  let fd ← writePadding capacity pagesize h.kernelSize fd
  let fd ← writeSection capacity .ramdisk s.ramdisk fd
  let fd ← writePadding capacity pagesize h.ramdiskSize fd
  let fd ← writeSecond capacity pagesize h s.second fd
  let fd ← writeDt capacity pagesize h s.dt fd
  writeSignature capacity s.sig fd

structure Built where
  options : Options
  header : BootImgHdr
  sections : Sections
  image : Image

/- A signature file shorter than 256 bytes is read behind its buffer; a failed write
   removes the file. -/
def mkbootimg (host : Host) (args : List String) : Except Halt Built := do
  let o ← parseArgs host.strtoul args {}
  let names ← checkOptions o
  let s ← loadSections host o names
  let h := makeHeader host o s
  if !host.canCreate names.bootimg then
    throw (.exit 1 ("error: could not create '" ++ names.bootimg ++ "'"))
  if s.sig.any (fun data => data.length < 256) then throw .undefined
  match writeImage host.capacity o.pagesize h s with
  | none => throw (.exit 1 ("error: failed writing '" ++ names.bootimg ++ "'"))
  | some image => return ⟨o, h, s, image⟩

theorem bind_ok {ε α β : Type} {x : Except ε α} {f : α → Except ε β} {b : β}
    (run : (x >>= f) = .ok b) : ∃ a, x = .ok a ∧ f a = .ok b := by
  cases x with
  | error e => cases run
  | ok a => exact ⟨a, rfl, run⟩

variable {host : Host} {args : List String} {strtoul : String → Nat → UInt32} {data : Bytes}
  {found : Option Bytes} {o : Options}

theorem mkbootimg_ok {built : Built} (written : mkbootimg host args = .ok built) :
    ∃ names, parseArgs host.strtoul args {} = .ok built.options ∧
      checkOptions built.options = .ok names ∧
      loadSections host built.options names = .ok built.sections ∧
      built.header = makeHeader host built.options built.sections ∧
      writeImage host.capacity built.options.pagesize built.header built.sections =
        some built.image := by
  obtain ⟨o, parsed, written⟩ := bind_ok written
  obtain ⟨names, checked, written⟩ := bind_ok written
  obtain ⟨s, loaded, written⟩ := bind_ok written
  by_cases create : host.canCreate names.bootimg
  · by_cases short : s.sig.any (fun data => data.length < 256)
    · simp [create, short] at written
      cases written
    · cases wrote : writeImage host.capacity o.pagesize (makeHeader host o s) s with
      | none => simp [create, short, wrote] at written
      | some image =>
        simp [create, short, wrote] at written
        cases written
        exact ⟨names, parsed, checked, loaded, rfl, wrote⟩
  · simp [create] at written
    cases written

theorem setOption_pagesize {o next : Options} {val : String} {flag : Flag}
    (accepted : o.pagesize ∈ pageSizes) (run : setOption strtoul o val flag = .ok next) :
    next.pagesize ∈ pageSizes := by
  cases flag with
  | pagesize =>
    rw [setOption] at run
    split at run
    · cases run
      assumption
    · cases run
  | _ =>
    cases run
    exact accepted

theorem parseArgs_pagesize {o last : Options} (accepted : o.pagesize ∈ pageSizes)
    (run : parseArgs strtoul args o = .ok last) : last.pagesize ∈ pageSizes := by
  fun_induction parseArgs strtoul args o with
  | case1 o =>
    cases run
    exact accepted
  | case5 arg val rest o flag _ next step ih =>
    exact ih (setOption_pagesize accepted step) run
  | _ => cases run

theorem pageSizes_power {pagesize : UInt32} (accepted : pagesize ∈ pageSizes) :
    ∃ k, pagesize.toNat = 2 ^ k ∧ 608 ≤ 2 ^ k := by
  simp only [pageSizes, List.mem_cons, List.not_mem_nil, or_false] at accepted
  rcases accepted with rfl | rfl | rfl | rfl | rfl | rfl | rfl
  · exact ⟨11, rfl, by decide⟩
  · exact ⟨12, rfl, by decide⟩
  · exact ⟨13, rfl, by decide⟩
  · exact ⟨14, rfl, by decide⟩
  · exact ⟨15, rfl, by decide⟩
  · exact ⟨16, rfl, by decide⟩
  · exact ⟨17, rfl, by decide⟩

theorem requireFile_length {what fn : String} (run : requireFile host what fn = .ok data) :
    data.length < 2 ^ 32 := by
  rw [requireFile] at run
  split at run
  · cases run
  · rename_i content loaded
    cases run
    obtain ⟨raw, _, loaded⟩ := Option.bind_eq_some_iff.mp loaded
    have := loadFile_length loaded
    omega

theorem optionalFile_length {what : String} {fn : Option String}
    (run : optionalFile host what fn = .ok found) :
    ∀ data, found = some data → data.length < 2 ^ 32 := by
  cases fn with
  | none =>
    cases run
    intro data absent
    cases absent
  | some fn =>
    cases required : requireFile host what fn with
    | error halt => simp [optionalFile, required, Except.map] at run
    | ok content =>
      simp only [optionalFile, required, Except.map, Except.ok.injEq] at run
      rintro data rfl
      cases run
      exact requireFile_length required

theorem loadRamdisk_length {fn : String} (run : loadRamdisk host fn = .ok data) :
    data.length < 2 ^ 32 := by
  rw [loadRamdisk] at run
  split at run
  · cases run
    simp
  · exact requireFile_length run

theorem loadDt_length (run : loadDt host o = .ok found) :
    ∀ data, found = some data → data.length < 2 ^ 32 := by
  rw [loadDt] at run
  split at run
  · exact optionalFile_length run
  · split at run
    · cases run
    · split at run
      · cases run
      · cases run
      · cases run
      · rename_i block loaded
        cases run
        rintro data ⟨⟩
        exact loadDtbhBlock_length loaded

structure Sized (s : Sections) : Prop where
  kernel : (size s.kernel).toNat = s.kernel.length
  ramdisk : (size s.ramdisk).toNat = s.ramdisk.length
  second : (sizeOf s.second).toNat = (s.second.getD []).length
  dt : (sizeOf s.dt).toNat = (s.dt.getD []).length

theorem size_toNat (small : data.length < 2 ^ 32) : (size data).toNat = data.length := by
  rw [size, UInt32.toNat_ofNat', Nat.mod_eq_of_lt small]

theorem sizeOf_toNat (small : ∀ data, found = some data → data.length < 2 ^ 32) :
    (sizeOf found).toNat = (found.getD []).length := by
  cases found with
  | none => rfl
  | some data => exact size_toNat (small data rfl)

theorem loadSections_sized {names : Names} {s : Sections} (run : loadSections host o names = .ok s) :
    Sized s := by
  obtain ⟨kernel, kernelRead, run⟩ := bind_ok run
  obtain ⟨ramdisk, ramdiskRead, run⟩ := bind_ok run
  obtain ⟨second, secondRead, run⟩ := bind_ok run
  obtain ⟨dt, dtRead, run⟩ := bind_ok run
  obtain ⟨sig, sigRead, run⟩ := bind_ok run
  cases run
  exact ⟨size_toNat (requireFile_length kernelRead), size_toNat (loadRamdisk_length ramdiskRead),
    sizeOf_toNat (optionalFile_length secondRead), sizeOf_toNat (loadDt_length dtRead)⟩

end BootImage
