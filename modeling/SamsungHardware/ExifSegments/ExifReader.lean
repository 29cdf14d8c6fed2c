import SamsungHardware.ExifSegments.ExifStructure

/- A reader of the segment that follows the TIFF rules and the length behind the JPEG
   marker, and for which pictures it finds what makeExif was given. -/
namespace ExifReader

open ByteMemory TiffDirectories ExifWriter ExifFields ExifLayout ExifStructure List Option Nat

structure Reading where
  /-- where the next segment is looked for -/
  stop : Nat
  (zeroth exif gps first : List Entry)
  thumbnail : List UInt8
  deriving DecidableEq, Repr

variable (m : Memory)

def readAt : Option Nat → List Entry
  | none => []
  | some start => readDirectory m ifdStart start

def markerLength : Nat := 256 * (m 2).toNat + (m 3).toNat

def readNext (next : Nat) : List Entry :=
  if next = 0 then [] else readDirectory m ifdStart next

def readThumbnail (first : List Entry) : List UInt8 :=
  match lookup Tag.jpegInterchangeFormat first, lookup Tag.jpegInterchangeFormatLen first with
  | some offset, some length => bytesAt m (ifdStart + offset) length
  | _, _ => []

def readSegment : Reading :=
  let start := numberAt m (ifdStart + 4) 4
  let zeroth := readDirectory m ifdStart start
  let first := readNext m (nextDirectory m ifdStart start)
  { stop := 2 + markerLength m
    zeroth := zeroth
    exif := readAt m (lookup Tag.exifIfdPointer zeroth)
    gps := readAt m (lookup Tag.gpsIfdPointer zeroth)
    first := first
    thumbnail := readThumbnail m first }

def firstEntries (info : ExifAttribute) (p : Places) : Option (List UInt8) → List Entry
  | none => []
  | some bytes => (firstFields info p.image bytes.length).map Field.read

def reading (size : Nat) (info : ExifAttribute) (picture : Option (List UInt8)) (p : Places) :
    Reading where
  stop := size
  zeroth := (zerothFields info p.exif p.gps).map Field.read
  exif := (exifFields info info.width.toNat info.height.toNat).map Field.read
  gps := if info.enableGps then (gpsFields info).map Field.read else []
  first := firstEntries info p picture
  thumbnail := picture.getD []

def KeepsAll (start : Nat) (fields : List Field) : Prop :=
  ∀ i f, fields[i]? = some f → KeepsSmall m (ifdStart + start + 2 + 12 * i) f

structure Conforms (m : Memory) (size : Nat) (info : ExifAttribute)
    (picture : Option (List UInt8)) (p : Places) : Prop where
  zeroth : KeepsAll m 8 (zerothFields info p.exif p.gps)
  exif : KeepsAll m p.exif (exifFields info info.width.toNat info.height.toNat)
  gps : info.enableGps = true → KeepsAll m p.gps (gpsFields info)
  first : ∀ bytes, picture = some bytes →
    KeepsAll m p.first (firstFields info p.image bytes.length)
  length : markerLength m = size - 2
  recovered : readSegment m = reading size info picture p

/-- A string that is read although it is stored behind the table: it is too long for the
    entry, or it looks like the offset. -/
def Found {n : Nat} (s : CString n) (offset : Nat) : Prop :=
  4 ≤ s.strlen ∨ s.text = [UInt8.ofNat offset]

instance {n : Nat} (s : CString n) (offset : Nat) : Decidable (Found s offset) :=
  inferInstanceAs (Decidable (_ ∨ _))

theorem le_small {offset : Nat} (small : offset < 256) : le 4 offset = [UInt8.ofNat offset, 0, 0, 0] := by
  have zero : offset / 256 = 0 := by omega
  simp [le, zero]

theorem text_kept_iff {m : Memory} {p n : Nat} {offset : Nat} (tag : UInt16) (s : CString n)
    (slot : Holds m (p + 8) (le 4 offset)) (positive : 0 < offset) (small : offset < 256) :
    KeepsSmall m p (text tag s) ↔ Found s offset := by
  have value : (text tag s).value = s.text ++ [0] := rfl
  rw [KeepsSmall, Found, value, length_append, length_singleton, CString.strlen]
  by_cases long : 4 ≤ s.text.length
  · constructor
    · intro _
      exact Or.inl long
    · intro _ short
      omega
  · have inside : s.text.length + 1 ≤ (le 4 offset).length := by
      rw [le_length]
      omega
    have nonzero := text_ne_zero s
    have first : UInt8.ofNat offset ≠ 0 := by
      intro zero
      have := congrArg UInt8.toNat zero
      rw [UInt8.toNat_ofNat'] at this
      simp at this
      omega
    rw [slot.bytesAt_take inside, le_small small]
    cases letters : s.text with
    | nil => simp [first]
    | cons c rest =>
      cases rest with
      | nil => simp [eq_comm]
      | cons d tail =>
        have other : d ≠ 0 := nonzero d (by simp [letters])
        constructor
        · intro kept
          have same := kept (by simp [letters] at long; simp; omega)
          simp at same
          exact absurd same.2.1.symm other
        · rintro (many | one)
          · rw [letters] at long
            exact absurd many long
          · simp at one

variable {m : Memory} {info : ExifAttribute}

section

variable {picture : Option (List UInt8)}

section

variable (info)

theorem exif_long (pixelX pixelY : Nat) :
    ∀ f ∈ exifFields info pixelX pixelY, f.outside = true → 4 < f.value.length := by
  simp [exifFields, rational, srational, chars, comment, Field.short, Field.long, Field.behind,
    Field.scalar, Field.octets, code]

theorem method_long :
    ∀ f ∈ processingMethod info, f.outside = true → 4 < f.value.length := by
  unfold processingMethod
  split
  · simp
  · simp [Field.behind, exifAsciiPrefix]

theorem gps_long :
    ∀ f ∈ gpsFields info, f.outside = true → 4 < f.value.length := by
  rw [gpsFields, forall_mem_append, forall_mem_append]
  refine ⟨⟨?_, method_long info⟩, ?_⟩
  · simp [rational, rationals, Field.byte, Field.behind, Field.scalar, Field.octets]
  · simp [chars, Field.behind]

theorem first_long (image length : Nat) :
    ∀ f ∈ firstFields info image length, f.outside = true → 4 < f.value.length := by
  simp [firstFields, rational, Field.short, Field.long, Field.behind, Field.scalar]

end

theorem keepsAll_of_long {start next : Nat} {fields : List Field}
    (directory : Directory m ifdStart start fields next)
    (long : ∀ f ∈ fields, f.outside = true → 4 < f.value.length) : KeepsAll m start fields := by
  intro i f found
  exact (directory.entry i f found).keeps (long f (mem_of_getElem? found))

theorem zeroth_others (info : ExifAttribute) (exif gps : Nat) {i : Nat} {f : Field}
    (found : (zerothFields info exif gps)[i]? = some f) (maker : i ≠ 2) (model : i ≠ 3)
    (software : i ≠ 5) : f.outside = true → 4 < f.value.length := by
  have bound : i < 10 := by
    have inside := (List.getElem?_eq_some_iff.mp found).1
    rw [zerothFields_length, numZerothIfd] at inside
    split at inside <;> omega
  have head := found
  rw [zerothFields] at head
  interval_cases i <;> simp [zerothHead] at head maker model software
  case «9» =>
    split at head <;> simp at head
    simp [← head, Field.long, Field.scalar]
  all_goals
    subst head
    simp [Field.long, Field.short, Field.scalar, chars, Field.behind]

def makerPlace (info : ExifAttribute) : Nat := zerothValues info

def modelPlace (info : ExifAttribute) : Nat := makerPlace info + info.maker.strlen + 1

def softwarePlace (info : ExifAttribute) : Nat := modelPlace info + info.model.strlen + 1

theorem softwarePlace_lt (info : ExifAttribute) : softwarePlace info < 256 := by
  have maker := strlen_lt info.maker
  have model := strlen_lt info.model
  rw [softwarePlace, modelPlace, makerPlace, zerothValues, numZerothIfd]
  split <;> omega

theorem place_zeroth {exif gps i offset : Nat}
    (sum : zerothValues info + (outers ((zerothFields info exif gps).take i)).length = offset) :
    place 8 (zerothFields info exif gps) i = offset := by
  rw [place, zerothFields_length, ← sum]
  rfl

variable (held : Held m info picture)
include held

theorem string_kept_iff {n i offset : Nat} {tag : UInt16} {s : CString n}
    (found : (zerothFields info (places info).exif (places info).gps)[i]? = some (text tag s))
    (here : place 8 (zerothFields info (places info).exif (places info).gps) i = offset)
    (positive : 0 < offset) (small : offset < 256) :
    KeepsSmall m (ifdStart + 8 + 2 + 12 * i) (text tag s) ↔ Found s offset := by
  have slot := table_slot_at held.zeroth found
  rw [here] at slot
  exact text_kept_iff tag s slot positive small

theorem maker_kept_iff :
    KeepsSmall m (ifdStart + 8 + 2 + 12 * 2) (text Tag.make info.maker) ↔
      Found info.maker (makerPlace info) := by
  have last := softwarePlace_lt info
  rw [softwarePlace, modelPlace] at last
  apply string_kept_iff held rfl
  · apply place_zeroth
    simp [zerothFields, zerothHead, outers, Field.long, makerPlace]
  · rw [makerPlace, zerothValues]
    omega
  · omega

theorem model_kept_iff :
    KeepsSmall m (ifdStart + 8 + 2 + 12 * 3) (text Tag.model info.model) ↔
      Found info.model (modelPlace info) := by
  have last := softwarePlace_lt info
  rw [softwarePlace] at last
  apply string_kept_iff held rfl
  · apply place_zeroth
    simp [zerothFields, zerothHead, outers, Field.long, text, modelPlace, makerPlace, CString.strlen]
    omega
  · rw [modelPlace]
    omega
  · omega

theorem software_kept_iff :
    KeepsSmall m (ifdStart + 8 + 2 + 12 * 5) (text Tag.software info.software) ↔
      Found info.software (softwarePlace info) := by
  apply string_kept_iff held rfl
  · apply place_zeroth
    simp [zerothFields, zerothHead, outers, Field.long, Field.short, text, softwarePlace, modelPlace,
      makerPlace, CString.strlen]
    omega
  · rw [softwarePlace]
    omega
  · exact softwarePlace_lt info

theorem zeroth_keeps (far : stop info picture < 2 ^ 32) (maker : Found info.maker (makerPlace info))
    (model : Found info.model (modelPlace info))
    (software : Found info.software (softwarePlace info)) :
    KeepsAll m 8 (zerothFields info (places info).exif (places info).gps) := by
  intro i f found
  by_cases second : i = 2
  · subst second
    obtain rfl : text Tag.make info.maker = f := some.inj found
    exact (maker_kept_iff held).mpr maker
  by_cases third : i = 3
  · subst third
    obtain rfl : text Tag.model info.model = f := some.inj found
    exact (model_kept_iff held).mpr model
  by_cases fifth : i = 5
  · subst fifth
    obtain rfl : text Tag.software info.software = f := some.inj found
    exact (software_kept_iff held).mpr software
  exact ((zeroth_directory held far).entry i f found).keeps
    (zeroth_others info _ _ found second third fifth)

end

section

variable {picture : Option (List UInt8)}

theorem number_long {n : Nat} (small : n < 2 ^ 32) (tag : UInt16) : number (Field.long tag n).value = n := by
  rw [Field.long, Field.scalar, number_le]
  exact mod_eq_of_lt small

variable (held : Held m info picture)
include held

theorem start_read : numberAt m (ifdStart + 4) 4 = 8 := by
  have header : Holds m ifdStart ([0x49, 0x49, 0x2A, 0x00] ++ le 4 8) := held.header
  exact numberAt_of_holds header.right (by decide)

section

variable (far : stop info picture < 2 ^ 32)
include far

theorem exif_lookup :
    lookup Tag.exifIfdPointer (readDirectory m ifdStart 8) = some (places info).exif := by
  have order := places_order info picture
  have found := lookup_read (zeroth_directory held far) (i := 8)
    (f := .long Tag.exifIfdPointer (places info).exif) rfl rfl (by
      change Tag.exifIfdPointer ∉ [Tag.imageWidth, Tag.imageHeight, Tag.make, Tag.model,
        Tag.orientation, Tag.software, Tag.dateTime, Tag.ycbcrPositioning]
      decide)
  rw [number_long (by omega)] at found
  exact found

theorem gps_lookup (gps : info.enableGps = true) :
    lookup Tag.gpsIfdPointer (readDirectory m ifdStart 8) = some (places info).gps := by
  have order := places_order info picture
  have fields : zerothFields info (places info).exif (places info).gps =
      zerothHead info (places info).exif ++ [.long Tag.gpsIfdPointer (places info).gps] := by
    rw [zerothFields, if_pos gps]
  have directory := zeroth_directory held far
  rw [fields] at directory
  have found := lookup_read directory (i := 9)
    (f := .long Tag.gpsIfdPointer (places info).gps) rfl rfl (by
      change Tag.gpsIfdPointer ∉ [Tag.imageWidth, Tag.imageHeight, Tag.make, Tag.model,
        Tag.orientation, Tag.software, Tag.dateTime, Tag.ycbcrPositioning, Tag.exifIfdPointer]
      decide)
  rw [number_long (by omega)] at found
  exact found

theorem no_gps_lookup (gps : info.enableGps = false) :
    lookup Tag.gpsIfdPointer (readDirectory m ifdStart 8) = none := by
  have fields : zerothFields info (places info).exif (places info).gps =
      zerothHead info (places info).exif := by
    simp [zerothFields, gps]
  have directory := zeroth_directory held far
  rw [fields] at directory
  apply lookup_none directory
  change Tag.gpsIfdPointer ∉ [Tag.imageWidth, Tag.imageHeight, Tag.make, Tag.model,
    Tag.orientation, Tag.software, Tag.dateTime, Tag.ycbcrPositioning, Tag.exifIfdPointer]
  decide

end

omit held in
theorem image_lookup {bytes : List UInt8} (held : Held m info (some bytes))
    (far : stop info (some bytes) < 2 ^ 32) :
    lookup Tag.jpegInterchangeFormat (readDirectory m ifdStart (places info).first) =
        some (places info).image ∧
      lookup Tag.jpegInterchangeFormatLen (readDirectory m ifdStart (places info).first) =
        some bytes.length := by
  have bound : (places info).image + bytes.length < 2 ^ 32 := far
  have directory := (first_directory held far).1
  have image := lookup_read directory (i := 7)
    (f := .long Tag.jpegInterchangeFormat (places info).image) rfl rfl (by
      change Tag.jpegInterchangeFormat ∉ [Tag.imageWidth, Tag.imageHeight, Tag.compressionScheme,
        Tag.orientation, Tag.xResolution, Tag.yResolution, Tag.resolutionUnit]
      decide)
  have length := lookup_read directory (i := 8)
    (f := .long Tag.jpegInterchangeFormatLen bytes.length) rfl rfl (by
      change Tag.jpegInterchangeFormatLen ∉ [Tag.imageWidth, Tag.imageHeight, Tag.compressionScheme,
        Tag.orientation, Tag.xResolution, Tag.yResolution, Tag.resolutionUnit,
        Tag.jpegInterchangeFormat]
      decide)
  rw [number_long (by omega)] at image length
  exact ⟨image, length⟩

theorem markerLength_eq : markerLength m = (segmentLength info picture - 2) % 2 ^ 16 := by
  have high : m 2 = UInt8.ofNat ((segmentLength info picture - 2) >>> 8) := held.length 0 _ rfl
  have low : m 3 = UInt8.ofNat (segmentLength info picture - 2) := held.length 1 _ rfl
  rw [markerLength, high, low, UInt8.toNat_ofNat', UInt8.toNat_ofNat', shiftRight_eq_div_pow]
  omega

end

/-- A comment that leaves room for the code does not reach the picture's size. The characters of a
    longer one from the 143rd on and its terminator are moved over the first bytes of the size, and
    have to be these bytes. -/
def SizeKept (info : ExifAttribute) : Prop :=
  141 < info.userComment.strlen →
    (le 4 info.width.toNat ++ le 4 info.height.toNat).take (info.userComment.strlen - 141) =
      info.userComment.text.drop 142 ++ [0]

section

variable (info : ExifAttribute)

theorem size_bytes_iff : shiftedWidth info = info.width.toNat ∧
    shiftedHeight info = info.height.toNat ↔
      (shiftComment info).drop 150 = le 4 info.width.toNat ++ le 4 info.height.toNat := by
  have length : ((shiftComment info).drop 150).length = 8 := by
    have short := strlen_lt info.userComment
    rw [shiftComment_eq]
    simp [commentMemory, code, commentsLen]
    rw [CString.strlen] at short ⊢
    omega
  have behind : (shiftComment info).drop 154 = ((shiftComment info).drop 150).drop 4 := by
    rw [drop_drop]
  unfold shiftedWidth shiftedHeight
  rw [behind]
  generalize (shiftComment info).drop 150 = bytes at length ⊢
  constructor
  · rintro ⟨width, height⟩
    rw [take_of_length_le (by simp [length])] at height
    have first := le_number (bytes.take 4)
    have second := le_number (bytes.drop 4)
    rw [width, length_take_of_le (by omega)] at first
    rw [height, length_drop, length] at second
    rw [first, second, take_append_drop]
  · rintro rfl
    rw [take_left' (le_length 4 _), drop_left' (le_length 4 _), take_of_length_le (by simp),
      number_le, number_le]
    exact ⟨mod_eq_of_lt info.width.toNat_lt, mod_eq_of_lt info.height.toNat_lt⟩

theorem size_kept_iff : shiftedWidth info = info.width.toNat ∧
    shiftedHeight info = info.height.toNat ↔ SizeKept info := by
  have short := strlen_lt info.userComment
  have eight : code.length = 8 := rfl
  have text : info.userComment.text.length = info.userComment.strlen := rfl
  have size : (commentMemory info).drop 150 = le 4 info.width.toNat ++ le 4 info.height.toNat := by
    rw [commentMemory, append_assoc]
    exact drop_left' (by simp)
  rw [size_bytes_iff, shiftComment_eq, SizeKept, ← size]
  by_cases long : 141 < info.userComment.strlen
  · have rest : (commentMemory info).drop (8 + commentsLen info) =
        ((commentMemory info).drop 150).drop (info.userComment.strlen - 141) := by
      have place : 8 + commentsLen info = 150 + (info.userComment.strlen - 141) := by
        rw [commentsLen]
        omega
      rw [drop_drop, place]
    have front : (code ++ info.userComment.text ++ [0]).drop 150 =
        info.userComment.text.drop 142 ++ [0] := by
      rw [append_assoc, drop_append, drop_of_length_le (by omega), nil_append, eight,
        drop_append_of_le_length (by omega)]
    rw [drop_append_of_le_length (by simp [eight, text]; omega), front, rest]
    nth_rewrite 2 [← take_append_drop (info.userComment.strlen - 141) ((commentMemory info).drop 150)]
    rw [append_left_inj, eq_comm]
    simp [long]
  · refine iff_of_true ?_ fun reaches => absurd reaches long
    rw [drop_append, drop_of_length_le (by simp [eight, text]; omega), nil_append, drop_drop]
    congr 1
    simp [eight, text, commentsLen]
    omega

end

section

variable {picture : Option (List UInt8)}

structure Readable (info : ExifAttribute) (picture : Option (List UInt8)) : Prop where
  maker : Found info.maker (makerPlace info)
  model : Found info.model (modelPlace info)
  software : Found info.software (softwarePlace info)
  size : SizeKept info
  length : segmentLength info picture - 2 < 2 ^ 16

variable (held : Held m info picture)
include held

variable (far : stop info picture < 2 ^ 32)
include far

theorem zeroth_read (readable : Readable info picture) :
    readDirectory m ifdStart 8 =
      (zerothFields info (places info).exif (places info).gps).map Field.read :=
  (readDirectory_iff (zeroth_directory held far)).mpr
    (zeroth_keeps held far readable.maker readable.model readable.software)

omit far in
omit held in
theorem read_of_long {start next : Nat} {fields : List Field}
    (directory : Directory m ifdStart start fields next)
    (long : ∀ f ∈ fields, f.outside = true → 4 < f.value.length) :
    readDirectory m ifdStart start = fields.map Field.read :=
  (readDirectory_iff directory).mpr (keepsAll_of_long directory long)

theorem gps_read :
    readAt m (lookup Tag.gpsIfdPointer (readDirectory m ifdStart 8)) =
      if info.enableGps then (gpsFields info).map Field.read else [] := by
  cases gps : info.enableGps with
  | false =>
    rw [no_gps_lookup held far gps]
    rfl
  | true =>
    rw [gps_lookup held far gps]
    exact read_of_long (gps_directory held far gps) (gps_long info)

theorem exif_read :
    readAt m (lookup Tag.exifIfdPointer (readDirectory m ifdStart 8)) =
      (exifFields info (shiftedWidth info) (shiftedHeight info)).map Field.read := by
  rw [exif_lookup held far]
  exact read_of_long (exif_directory held far) (exif_long info _ _)

theorem first_read :
    readNext m (next info picture) = firstEntries info (places info) picture ∧
      readThumbnail m (readNext m (next info picture)) = picture.getD [] := by
  cases picture with
  | none => exact ⟨rfl, rfl⟩
  | some bytes =>
    have first := first_directory held far
    obtain ⟨image, length⟩ := image_lookup held far
    have named : (places info).first ≠ 0 := by
      have order := places_order info (some bytes)
      have := places_exif info
      omega
    have read : readNext m (next info (some bytes)) =
        readDirectory m ifdStart (places info).first := if_neg named
    constructor
    · rw [read, read_of_long first.1 (first_long info _ _)]
      rfl
    · rw [read, readThumbnail, image, length]
      exact first.2.bytesAt_eq

theorem recovered_of_readable (readable : Readable info picture) :
    readSegment m = reading (segmentLength info picture) info picture (places info) := by
  have exif := exif_read held far
  obtain ⟨width, height⟩ := (size_kept_iff info).mpr readable.size
  rw [width, height] at exif
  have gps := gps_read held far
  have ends := segmentLength_eq info picture
  have stop : 2 + markerLength m = segmentLength info picture := by
    have length := readable.length
    rw [markerLength_eq held]
    omega
  obtain ⟨first, thumbnail⟩ := first_read held far
  rw [readSegment, reading, start_read held, (zeroth_directory held far).nextDirectory_eq,
    stop, exif, gps, thumbnail, first, zeroth_read held far readable]

theorem conforms_of_readable (readable : Readable info picture) :
    Conforms m (segmentLength info picture) info picture (places info) := by
  have exif := exif_directory held far
  obtain ⟨width, height⟩ := (size_kept_iff info).mpr readable.size
  rw [width, height] at exif
  constructor
  case zeroth => exact zeroth_keeps held far readable.maker readable.model readable.software
  case exif => exact keepsAll_of_long exif (exif_long info _ _)
  case gps =>
    intro gps
    exact keepsAll_of_long (gps_directory held far gps) (gps_long info)
  case first =>
    rintro bytes rfl
    exact keepsAll_of_long (first_directory held far).1 (first_long info _ _)
  case length =>
    rw [markerLength_eq held]
    exact mod_eq_of_lt readable.length
  case recovered => exact recovered_of_readable held far readable

theorem zeroth_recovered {exif gps : Nat}
    (read : readDirectory m ifdStart 8 = (zerothFields info exif gps).map Field.read) {n i : Nat}
    {tag : UInt16} {s : CString n} (found : (zerothFields info exif gps)[i]? = some (text tag s))
    (here : (zerothFields info (places info).exif (places info).gps)[i]? = some (text tag s)) :
    KeepsSmall m (ifdStart + 8 + 2 + 12 * i) (text tag s) := by
  have directory := zeroth_directory held far
  have stands := readDirectory_at directory here
  rw [read, getElem?_map, found, map_some, some.injEq] at stands
  exact (readEntry_iff (directory.entry i _ here)).mp stands.symm

omit far in
omit held in
theorem dimensions_recovered {x y w h : Nat}
    (same : (exifFields info x y).map Field.read = (exifFields info w h).map Field.read)
    (xSmall : x < 2 ^ 32) (ySmall : y < 2 ^ 32) (wSmall : w < 2 ^ 32) (hSmall : h < 2 ^ 32) :
    x = w ∧ y = h := by
  have width : (exifFields info x y)[17]?.map Field.read = (exifFields info w h)[17]?.map Field.read := by
    rw [← getElem?_map, ← getElem?_map, same]
  have height : (exifFields info x y)[18]?.map Field.read = (exifFields info w h)[18]?.map Field.read := by
    rw [← getElem?_map, ← getElem?_map, same]
  have widths : (Field.long Tag.pixelXDimension x).value = (Field.long Tag.pixelXDimension w).value :=
    congrArg Entry.value (some.inj width)
  have heights : (Field.long Tag.pixelYDimension y).value = (Field.long Tag.pixelYDimension h).value :=
    congrArg Entry.value (some.inj height)
  constructor
  · rw [← number_long xSmall Tag.pixelXDimension, widths, number_long wSmall]
  · rw [← number_long ySmall Tag.pixelYDimension, heights, number_long hSmall]

theorem readable_of_conforms {p : Places}
    (conforms : Conforms m (segmentLength info picture) info picture p) :
    Readable info picture := by
  have recovered := conforms.recovered
  have zeroth : readDirectory m ifdStart 8 = (zerothFields info p.exif p.gps).map Field.read := by
    have same := congrArg Reading.zeroth recovered
    rw [readSegment, start_read held] at same
    exact same
  have exif : (exifFields info (shiftedWidth info) (shiftedHeight info)).map Field.read =
      (exifFields info info.width.toNat info.height.toNat).map Field.read := by
    have same := congrArg Reading.exif recovered
    rw [readSegment, start_read held] at same
    exact (exif_read held far).symm.trans same
  have size := dimensions_recovered exif (number_take_lt _) (number_take_lt _)
    info.width.toNat_lt info.height.toNat_lt
  constructor
  case maker => exact (maker_kept_iff held).mp (zeroth_recovered held far zeroth rfl rfl)
  case model => exact (model_kept_iff held).mp (zeroth_recovered held far zeroth rfl rfl)
  case software => exact (software_kept_iff held).mp (zeroth_recovered held far zeroth rfl rfl)
  case size => exact (size_kept_iff info).mp size
  case length =>
    rw [← conforms.length, markerLength_eq held]
    exact mod_lt _ (by decide)

end

theorem written_conforms_iff (out : OutputBuffer) {info : ExifAttribute} {thumb : Thumb}
    (enough : segmentLength info (picture info thumb) ≤ out.capacity) :
    (∃ p, Conforms (makeExif out.mem info thumb).1 (makeExif out.mem info thumb).2 info
      (picture info thumb) p) ↔ Readable info (picture info thumb) := by
  have far : segmentLength info (picture info thumb) < 2 ^ 32 := by
    have := out.addressable
    omega
  have held := makeExif_held out.mem far
  have ends := segmentLength_eq info (picture info thumb)
  have size : (makeExif out.mem info thumb).2 = segmentLength info (picture info thumb) := by
    rw [makeExif_eq out.mem info thumb far]
  rw [size]
  constructor
  · rintro ⟨p, conforms⟩
    exact readable_of_conforms held (by omega) conforms
  · intro readable
    exact ⟨places info, conforms_of_readable held (by omega) readable⟩

/-- Which attributes and thumbnails a standard reader gets back from a segment that
    JpegEncoder has written. -/
theorem makeExif_conforms_iff (out : OutputBuffer) (info : ExifAttribute) (encoder : JpegEncoder)
    (useMainbufForThumb : Bool) (available : encoder.available = true)
    (enough : segmentLength info (picture info (encoder.thumb useMainbufForThumb)) ≤ out.capacity) :
    ∃ m size, encoder.makeExif out.mem info useMainbufForThumb = some (m, size) ∧
      ((∃ p, Conforms m size info (picture info (encoder.thumb useMainbufForThumb)) p) ↔
        Readable info (picture info (encoder.thumb useMainbufForThumb))) := by
  refine ⟨_, _, ?_, written_conforms_iff out enough⟩
  simp [JpegEncoder.makeExif, available]

theorem samsung_conforms :
    let info := sample samsung (by decide) [] (by decide) true true
    let encoder : JpegEncoder := ⟨true, zeros 3, zeros 3⟩
    ∃ m size, encoder.makeExif (fun _ => 0) info false = some (m, size) ∧
      ∃ p, Conforms m size info (some [0, 0, 0]) p := by
  intro info encoder
  have bound := places_first_le info
  have ends : segmentLength info (some [0, 0, 0]) = 10 + ((places info).first + 130 + 3) :=
    segmentLength_eq info _
  obtain ⟨m, size, written, iff⟩ :=
    makeExif_conforms_iff ⟨fun _ => 0, 4096, by decide⟩ info encoder false rfl (by
      change segmentLength info (some [0, 0, 0]) ≤ 4096
      omega)
  refine ⟨m, size, written, iff.mpr ?_⟩
  constructor
  case maker => exact Or.inl (by decide)
  case model => exact Or.inl (by decide)
  case software => exact Or.inl (by decide)
  case size => exact fun long => absurd long (by decide)
  case length =>
    change segmentLength info (some [0, 0, 0]) - 2 < 2 ^ 16
    omega

theorem unreadable (out : OutputBuffer) {info : ExifAttribute} {encoder : JpegEncoder}
    (available : encoder.available = true)
    (enough : segmentLength info (picture info (encoder.thumb false)) ≤ out.capacity)
    (lost : ¬ Readable info (picture info (encoder.thumb false))) :
    ∃ m size, encoder.makeExif out.mem info false = some (m, size) ∧
      ¬ ∃ p, Conforms m size info (picture info (encoder.thumb false)) p := by
  refine ⟨_, _, ?_, fun conforms => lost ((written_conforms_iff out enough).mp conforms)⟩
  simp [JpegEncoder.makeExif, available]

/-- A maker of three letters, a thumbnail of 70000 bytes, a comment of 142 letters. -/
theorem attributes_lost :
    let out : OutputBuffer := ⟨fun _ => 0, 2 ^ 20, by decide⟩
    let encoder : JpegEncoder := ⟨true, zeros 70000, zeros 70000⟩
    let abc := sample [97, 98, 99] (by decide) [] (by decide) false false
    let large := sample samsung (by decide) [] (by decide) false true
    let wordy := sample samsung (by decide) (replicate 142 65) (by simp) false false
    (∃ m size, encoder.makeExif out.mem abc false = some (m, size) ∧
      ¬ ∃ p, Conforms m size abc (picture abc (encoder.thumb false)) p) ∧
    (∃ m size, encoder.makeExif out.mem large false = some (m, size) ∧
      ¬ ∃ p, Conforms m size large (picture large (encoder.thumb false)) p) ∧
    (∃ m size, encoder.makeExif out.mem wordy false = some (m, size) ∧
      ¬ ∃ p, Conforms m size wordy (picture wordy (encoder.thumb false)) p) := by
  intro out encoder abc large wordy
  refine ⟨?_, ?_, ?_⟩
  · have bound := places_first_le abc
    have ends : segmentLength abc none = 10 + (places abc).first := segmentLength_eq abc none
    apply unreadable out rfl
    · change segmentLength abc none ≤ 2 ^ 20
      omega
    · intro readable
      have found : Found abc.maker (makerPlace abc) := readable.maker
      revert found
      decide
  · have bound := places_first_le large
    have shown : picture large (encoder.thumb false) = some (replicate 70000 0) := by
      have size : (encoder.thumb false).size = 70000 := by decide
      have buf : (encoder.thumb false).buf = some (replicate 70000 0) := rfl
      have enabled : large.enableThumb = true ∧ (encoder.thumb false).size > 0 := by
        rw [size]
        exact ⟨rfl, by decide⟩
      have whole : (replicate 70000 (0 : UInt8)).length ≤ (70000 : Int).toNat := by
        rw [length_replicate]
        decide
      rw [picture, buf]
      dsimp only
      rw [if_pos enabled, size, take_of_length_le whole]
    have ends := segmentLength_eq large (some (replicate 70000 0))
    have stops : stop large (some (replicate 70000 0)) = (places large).first + 130 + 70000 := by
      rw [stop, length_replicate]
      rfl
    apply unreadable out rfl
    · rw [shown, ends, stops]
      change _ ≤ 2 ^ 20
      omega
    · intro readable
      have short := readable.length
      rw [shown, ends, stops] at short
      omega
  · have bound := places_first_le wordy
    have ends : segmentLength wordy none = 10 + (places wordy).first := segmentLength_eq wordy none
    apply unreadable out rfl
    · change segmentLength wordy none ≤ 2 ^ 20
      omega
    · intro readable
      have moved : SizeKept wordy := readable.size
      exact absurd (moved (by decide +kernel)) (by decide +kernel)

end ExifReader
