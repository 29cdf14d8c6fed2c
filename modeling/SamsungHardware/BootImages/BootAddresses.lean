import SamsungHardware.BootImages.BootImageRoundTrip

/- The load addresses of a boot image: unpackbootimg.c prints a base and offsets as eight hexadecimal
   digits, and mkbootimg.c reads them with `strtoul` and adds them up again. -/
namespace BootAddresses
open ByteBuffer BootImage BootImageRoundTrip List

def digitValue (digit : UInt8) : Nat :=
  if digit.toNat < 0x3a then digit.toNat - 0x30 else digit.toNat - 0x57

def hexValue (text : Bytes) : Nat := text.foldl (fun value digit => 16 * value + digitValue digit) 0

/-- What is assumed of `strtoul`: a text of eight digits is read as the number it shows. -/
def ReadsHex (strtoul : String → Nat → UInt32) : Prop :=
  ∀ text x, cBytes text = hex08 x → strtoul text 16 = UInt32.ofNat (hexValue (cBytes text))

def addressFlags : List Flag := [.base, .kernelOffset, .ramdiskOffset, .secondOffset, .tagsOffset]

def addressFiles : List (Flag × Suffix) :=
  [(.base, .base), (.ramdiskOffset, .ramdiskOffset), (.secondOffset, .secondOffset),
    (.tagsOffset, .tagsOffset)]

def address (o : Options) : Flag → UInt32
  | .base => o.base
  | .kernelOffset => o.kernelOffset
  | .ramdiskOffset => o.ramdiskOffset
  | .secondOffset => o.secondOffset
  | .tagsOffset => o.tagsOffset
  | _ => 0

/-- The last value that is given for a flag. -/
def value (flag : Flag) : List String → Option String
  | arg :: val :: rest =>
    (value flag rest).or (if flags.lookup arg = some flag then some val else none)
  | _ => none

structure Given (args : List String) (files : Suffix → Option Bytes) : Prop where
  kernel : value .kernelOffset args = none
  each : ∀ pair ∈ addressFiles,
    ∃ text, value pair.1 args = some text ∧ files pair.2 = some (cBytes text ++ [0x0a])

theorem hexValue_hex08 (x : UInt32) : hexValue (hex08 x) = x.toNat := by
  have bound := x.toNat_lt
  have digit : ∀ d < 16, digitValue (hexDigit d) = d := by decide
  have each (n : Nat) : digitValue (hexDigit (n % 16)) = n % 16 :=
    digit _ (Nat.mod_lt n (by decide))
  simp only [hexValue, hex08, range_succ, range_zero, nil_append, map_append,
    map_singleton, foldl_append, foldl_cons, foldl_nil, each]
  omega

variable {strtoul : String → Nat → UInt32} {o next last : Options} {flag : Flag}

theorem setOption_address {val : String} {other : Flag} (wanted : flag ∈ addressFlags)
    (run : setOption strtoul o val other = .ok next) :
    address next flag = if other = flag then strtoul val 16 else address o flag := by
  simp only [addressFlags, mem_cons, not_mem_nil, or_false] at wanted
  cases other with
  | pagesize =>
    rw [setOption] at run
    split at run
    · cases run
      rcases wanted with rfl | rfl | rfl | rfl | rfl
      all_goals rfl
    · cases run
  | _ =>
    cases run
    rcases wanted with rfl | rfl | rfl | rfl | rfl
    all_goals rfl

theorem parseArgs_address {args : List String} (wanted : flag ∈ addressFlags)
    (run : parseArgs strtoul args o = .ok last) :
    address last flag = ((value flag args).map (strtoul · 16)).getD (address o flag) := by
  fun_induction parseArgs strtoul args o with
  | case1 o =>
    cases run
    rfl
  | case5 arg val rest o other found next step ih =>
    rw [ih run, setOption_address wanted step, value, found]
    cases value flag rest with
    | some text => rfl
    | none =>
      by_cases same : other = flag
      · simp [same]
      · simp [same]
  | _ => cases run

theorem writeStringToFile_files (name : Suffix) (text : Bytes) (io : Stdio) :
    (writeStringToFile name text io).files =
      Function.update io.files name (some (text ++ [0x0a])) := by
  rw [writeStringToFile, fwrite_opened]
  simp [fwrite, fclose]

/-- The four sums are the four addresses again, also where they wrap around. -/
theorem addresses_survive {host : Host} {args : List String} {built : Built} {h : BootImgHdr}
    {cmdline : Bytes} {io : Stdio} (reads : ReadsHex host.strtoul)
    (given : Given args (writeTexts h cmdline io).files)
    (written : mkbootimg host args = .ok built) :
    built.header.kernelAddr = h.kernelAddr ∧ built.header.ramdiskAddr = h.ramdiskAddr ∧
      built.header.secondAddr = h.secondAddr ∧ built.header.tagsAddr = h.tagsAddr := by
  obtain ⟨names, parsed, _, _, header, _⟩ := mkbootimg_ok written
  have printed (flag : Flag) (suffix : Suffix) (x : UInt32) (wanted : flag ∈ addressFlags)
      (pair : (flag, suffix) ∈ addressFiles)
      (file : (writeTexts h cmdline io).files suffix = some (hex08 x ++ [0x0a])) :
      address built.options flag = x := by
    obtain ⟨text, got, shown⟩ := given.each _ pair
    have same : cBytes text = hex08 x := by
      rw [shown] at file
      exact append_cancel_right (Option.some.inj file)
    rw [parseArgs_address wanted parsed, got]
    simp [reads text x same, same, hexValue_hex08]
  have kernel : address built.options .kernelOffset = 0x8000 := by
    rw [parseArgs_address (by decide) parsed, given.kernel]
    rfl
  have base := printed .base .base (h.kernelAddr - 0x8000) (by decide) (by decide)
    (by simp [writeTexts, writeStringToFile_files])
  have ramdisk := printed .ramdiskOffset .ramdiskOffset (h.ramdiskAddr - h.kernelAddr + 0x8000)
    (by decide) (by decide) (by simp [writeTexts, writeStringToFile_files])
  have second := printed .secondOffset .secondOffset (h.secondAddr - h.kernelAddr + 0x8000)
    (by decide) (by decide) (by simp [writeTexts, writeStringToFile_files])
  have tags := printed .tagsOffset .tagsOffset (h.tagsAddr - h.kernelAddr + 0x8000)
    (by decide) (by decide) (by simp [writeTexts, writeStringToFile_files])
  simp only [address] at kernel base ramdisk second tags
  have sum (x k : UInt32) : k - 0x8000 + (x - k + 0x8000) = x := by grind
  simp only [header, makeHeader, kernel, base, ramdisk, second, tags, sum, UInt32.sub_add_cancel,
    and_self]

def wrapHeader : BootImgHdr :=
  makeHeader sampleHost { base := 0xffff0000, kernelOffset := 0x10000, tagsOffset := 1 }
    ⟨[], [], none, none, none⟩

def wrapArgs : List String :=
  sampleArgs ++ ["--base", "ffff8000", "--ramdisk_offset", "00ff8000",
    "--second_offset", "00ef8000", "--tags_offset", "ffff8001"]

def hexHost : Host :=
  { sampleHost with strtoul := fun text _ => UInt32.ofNat (hexValue (cBytes text)) }

theorem wrapArgs_given :
    Given wrapArgs (writeTexts wrapHeader [] ⟨0, fun _ => none, [], []⟩).files := by
  constructor
  case kernel => decide +kernel
  case each =>
    simp only [addressFiles, forall_mem_cons, not_mem_nil, false_implies, implies_true,
      and_true, writeTexts, writeStringToFile_files]
    exact ⟨⟨"ffff8000", by decide +kernel⟩, ⟨"00ff8000", by decide +kernel⟩,
      ⟨"00ef8000", by decide +kernel⟩, ⟨"ffff8001", by decide +kernel⟩⟩

theorem wrapped_addresses_survive : ∃ built, mkbootimg hexHost wrapArgs = .ok built ∧
    built.header.kernelAddr = 0 ∧ built.header.tagsAddr = 0xffff0001 := by
  obtain ⟨built, written, _⟩ : ∃ built, mkbootimg hexHost wrapArgs = .ok built ∧ true = true :=
    built_of_check (by decide +kernel)
  obtain ⟨kernel, _, _, tags⟩ := addresses_survive (fun _ _ _ => rfl) wrapArgs_given written
  exact ⟨built, written, kernel, tags⟩

end BootAddresses
