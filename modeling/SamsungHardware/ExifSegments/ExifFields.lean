import SamsungHardware.ExifSegments.ExifWriter

/- What the Exif header is to consist of: the fields of its four tables with their values.
   Each call of writeExifIfd writes one of these fields, and a table's calls write the
   table. -/
namespace ExifFields
open List (append_assoc length_append length_cons)

open ByteMemory TiffDirectories ExifWriter

section

variable {n : Nat}

theorem terminated_split {chars : List UInt8} (terminated : 0 ∈ chars) :
    ∃ rest, chars = chars.takeWhile (· ≠ 0) ++ 0 :: rest := by
  induction chars with
  | nil => simp at terminated
  | cons c tail ih =>
    by_cases zero : c = 0
    · exact ⟨tail, by simp [zero]⟩
    · have later : 0 ∈ tail := by simpa [Ne.symm zero] using terminated
      obtain ⟨rest, split⟩ := ih later
      refine ⟨rest, ?_⟩
      rw [List.takeWhile_cons_of_pos (by simpa using zero), List.cons_append, ← split]

variable (s : CString n)

theorem chars_split : ∃ rest, s.chars.toList = s.text ++ 0 :: rest :=
  terminated_split s.terminated

theorem take_strlen : s.chars.toList.take (s.strlen + 1) = s.text ++ [0] := by
  obtain ⟨rest, split⟩ := chars_split s
  rw [split, CString.strlen, List.take_length_add_append]
  rfl

theorem text_take : s.chars.toList.take s.strlen = s.text := by
  obtain ⟨rest, split⟩ := chars_split s
  rw [split, CString.strlen, List.take_left]

theorem text_ne_zero : ∀ c ∈ s.text, c ≠ 0 := by
  intro c member
  simpa using List.mem_takeWhile_imp member

theorem strlen_lt : s.strlen < n := by
  obtain ⟨rest, split⟩ := chars_split s
  have whole := congrArg List.length split
  simp only [Vector.length_toList, length_append, length_cons] at whole
  rw [CString.strlen]
  omega

end

section

def text {n : Nat} (tag : UInt16) (s : CString n) : Field :=
  .behind tag .ascii (s.strlen + 1) (s.text ++ [0]) (by simp [CString.strlen, FieldType.size])

def chars {n : Nat} (tag : UInt16) (v : Vector UInt8 n) : Field :=
  .behind tag .ascii n v.toList (by simp [FieldType.size])

@[simp] theorem rational_bytes_length (r : Rational) : r.bytes.length = 8 := by
  simp [Rational.bytes]

theorem rationals_length (rs : List Rational) :
    (rs.flatMap Rational.bytes).length = 8 * rs.length := by
  induction rs with
  | nil => rfl
  | cons r rest ih =>
    simp only [List.flatMap_cons, length_append, rational_bytes_length, ih, length_cons]
    omega

def rational (tag : UInt16) (r : Rational) : Field :=
  .behind tag .rational 1 r.bytes (by simp [FieldType.size])

def rationals {n : Nat} (tag : UInt16) (v : Vector Rational n) : Field :=
  .behind tag .rational n (v.toList.flatMap Rational.bytes)
    (by rw [rationals_length, Nat.mul_comm, Vector.length_toList]; rfl)

def srational (tag : UInt16) (r : SRational) : Field :=
  .behind tag .srational 1 r.cast.bytes (by simp [FieldType.size])

variable (info : ExifAttribute)

def zerothHead (exif : Nat) : List Field :=
  [.long Tag.imageWidth info.width.toNat,
    .long Tag.imageHeight info.height.toNat,
    text Tag.make info.maker,
    text Tag.model info.model,
    .short Tag.orientation info.orientation,
    text Tag.software info.software,
    chars Tag.dateTime info.dateTime,
    .short Tag.ycbcrPositioning info.ycbcrPositioning,
    .long Tag.exifIfdPointer exif]

def zerothFields (exif gps : Nat) : List Field :=
  zerothHead info exif ++ if info.enableGps then [.long Tag.gpsIfdPointer gps] else []

def comment : Field :=
  .behind Tag.userComment .undefined (commentsLen info + code.length)
    (code ++ info.userComment.text ++ [0]) (by
      simp only [length_append, commentsLen, CString.strlen, FieldType.size]
      simp
      omega)

/-- The picture's size stands once more in this table. -/
def exifFields (pixelX pixelY : Nat) : List Field :=
  [rational Tag.exposureTime info.exposureTime,
    rational Tag.fnumber info.fnumber,
    .short Tag.exposureProgram info.exposureProgram,
    .short Tag.isoSpeedRating info.isoSpeedRating,
    .octets Tag.exifVersion .undefined (by decide) (by decide) info.exifVersion,
    chars Tag.dateTimeOrg info.dateTime,
    chars Tag.dateTimeDigitize info.dateTime,
    srational Tag.shutterSpeed info.shutterSpeed,
    rational Tag.aperture info.aperture,
    srational Tag.brightness info.brightness,
    srational Tag.exposureBias info.exposureBias,
    rational Tag.maxAperture info.maxAperture,
    .short Tag.meteringMode info.meteringMode,
    .short Tag.flash info.flash,
    rational Tag.focalLength info.focalLength,
    comment info,
    .short Tag.colorSpace info.colorSpace,
    .long Tag.pixelXDimension pixelX,
    .long Tag.pixelYDimension pixelY,
    .long Tag.exposureMode info.exposureMode.toNat,
    .long Tag.whiteBalance info.whiteBalance.toNat,
    .long Tag.scenceCaptureType info.sceneCaptureType.toNat]

def processingMethod : List Field :=
  if info.gpsProcessingMethod.text = [] then []
  else
    [.behind Tag.gpsProcessingMethod .undefined
      (info.gpsProcessingMethod.strlen + exifAsciiPrefix.length)
      (exifAsciiPrefix ++ info.gpsProcessingMethod.text)
      (by simp [CString.strlen, FieldType.size, Nat.add_comm])]

def gpsFields : List Field :=
  [.octets Tag.gpsVersionId .byte (by decide) (by decide) info.gpsVersionId,
    .octets Tag.gpsLatitudeRef .ascii (by decide) (by decide) info.gpsLatitudeRef,
    rationals Tag.gpsLatitude info.gpsLatitude,
    .octets Tag.gpsLongitudeRef .ascii (by decide) (by decide) info.gpsLongitudeRef,
    rationals Tag.gpsLongitude info.gpsLongitude,
    .byte Tag.gpsAltitudeRef info.gpsAltitudeRef,
    rational Tag.gpsAltitude info.gpsAltitude,
    rationals Tag.gpsTimestamp info.gpsTimestamp] ++
  processingMethod info ++
  [chars Tag.gpsDatestamp info.gpsDatestamp]

def firstFields (image length : Nat) : List Field :=
  [.long Tag.imageWidth info.widthThumb.toNat,
    .long Tag.imageHeight info.heightThumb.toNat,
    .short Tag.compressionScheme info.compressionScheme,
    .short Tag.orientation info.orientation,
    rational Tag.xResolution info.xResolution,
    rational Tag.yResolution info.yResolution,
    .short Tag.resolutionUnit info.resolutionUnit,
    .long Tag.jpegInterchangeFormat image,
    .long Tag.jpegInterchangeFormatLen length]

end

section

theorem put_put (w : Writer) (first second : List UInt8) :
    (w.put first).put second = w.put (first ++ second) := by
  simp only [Writer.put, write_append, length_append, Nat.add_assoc]

theorem putHeader_put (w : Writer) (tag : UInt16) (type : FieldType) (count : Nat)
    (bytes : List UInt8) :
    (putHeader w tag type count).put bytes =
      w.put (le 2 tag.toNat ++ le 2 type.code ++ le 4 count ++ bytes) := by
  simp only [putHeader, put_put, append_assoc]

/-- The call writes the entry of the field and puts its value where LongerTagOffest says. -/
def Writes (offset : Nat) (call : Call) (f : Field) : Prop :=
  ∀ w : Writer, w.longerTagOffest = offset → offset + f.outer.length < 2 ^ 32 →
    writeExifIfd w call =
      ⟨write (write w.mem w.pCur (f.entry offset)) (ifdStart + offset) f.outer, w.pCur + 12,
        offset + f.outer.length⟩

variable {w : Writer} {offset : Nat} {type : FieldType} {count : Nat} {calls : List Call}
  {fields : List Field}

theorem put_entry {f : Field} (longer : w.longerTagOffest = offset) (inside : f.outer = []) :
    w.put (f.entry offset) =
      ⟨write (write w.mem w.pCur (f.entry offset)) (ifdStart + offset) f.outer, w.pCur + 12,
        offset + f.outer.length⟩ := by
  simp [Writer.put, inside, write_nil, longer]

theorem writes_value (offset : Nat) (tag : UInt16) (small : type.size ≤ 4) {value : Nat}
    (bound : value < 256 ^ type.size) :
    Writes offset (.value tag type 1 value) (.scalar tag type small value) := by
  intro w longer _
  have padded : (Field.scalar tag type small value).slot offset = le 4 value := by
    have extended := le_extend bound (4 - type.size)
    rw [Nat.add_sub_cancel' small] at extended
    simp [Field.slot, Field.scalar, extended]
  rw [← put_entry longer rfl, writeExifIfd, putHeader_put, Field.entry, padded]
  rfl

theorem writes_offset (offset : Nat) (tag : UInt16) :
    Writes offset (.offset tag .long 1) (.long tag offset) := by
  intro w longer _
  rw [← put_entry longer rfl, writeExifIfd, putHeader_put, longer]
  rfl

theorem writes_bytes (offset : Nat) (tag : UInt16) {n : Nat} (unit : type.size = 1) (few : n ≤ 4)
    (v : Vector UInt8 n) :
    Writes offset (.bytes tag type n v.toList) (.octets tag type unit few v) := by
  intro w longer _
  have whole : v.toList.take n = v.toList := List.take_of_length_le (by simp)
  rw [← put_entry longer rfl, writeExifIfd, putHeader_put, whole, Field.entry, Field.slot]
  simp [Field.octets]

theorem put_copyLonger {offset count bound : Nat} {tag : UInt16} {value pValue : List UInt8}
    (sized : value.length = count * type.size) (longer : w.longerTagOffest = offset)
    (copied : pValue.take bound = value) (length : value.length = bound)
    (far : offset + value.length < 2 ^ 32) :
    ((putHeader w tag type count).put (le 4 w.longerTagOffest)).copyLonger pValue bound =
      ⟨write (write w.mem w.pCur ((Field.behind tag type count value sized).entry offset))
          (ifdStart + offset) value, w.pCur + 12, offset + value.length⟩ := by
  have entry : (Field.behind tag type count value sized).entry offset =
      le 2 tag.toNat ++ le 2 type.code ++ le 4 count ++ le 4 offset := rfl
  have small : (offset + bound) % 2 ^ 32 = offset + value.length := by
    rw [length] at far ⊢
    exact Nat.mod_eq_of_lt far
  rw [putHeader_put, entry]
  simp only [Writer.put, Writer.copyLonger, Writer.addLonger, longer, copied, small,
    length_append, le_length]

theorem writes_longer (offset : Nat) (tag : UInt16) {pValue value : List UInt8}
    (unit : type.size = 1) (copied : pValue.take count = value)
    (sized : value.length = count * type.size) :
    Writes offset (.longer tag type count pValue) (.behind tag type count value sized) := by
  intro w longer far
  have length : value.length = count := by rw [sized, unit, Nat.mul_one]
  exact put_copyLonger sized longer copied length far

theorem writes_rationals (offset : Nat) (tag : UInt16) {pValue : List Rational} {value : List UInt8}
    (counted : pValue.length = count) (copied : pValue.flatMap Rational.bytes = value)
    (sized : value.length = count * type.size) :
    Writes offset (.rationals tag type count pValue) (.behind tag type count value sized) := by
  intro w longer far
  have length : value.length = 8 * count := by rw [← copied, rationals_length, counted]
  have whole : (pValue.flatMap Rational.bytes).take (8 * count) = value := by
    rw [copied, ← length, List.take_length]
  exact put_copyLonger sized longer whole length far

def WritesAll : Nat → List Call → List Field → Prop
  | _, [], [] => True
  | offset, call :: calls, f :: fields =>
    Writes offset call f ∧ WritesAll (offset + f.outer.length) calls fields
  | _, _, _ => False

theorem WritesAll.append {calls more : List Call} {fields others : List Field}
    (first : WritesAll offset calls fields)
    (second : WritesAll (offset + (outers fields).length) more others) :
    WritesAll offset (calls ++ more) (fields ++ others) := by
  induction calls generalizing offset fields with
  | nil =>
    cases fields with
    | nil => exact second
    | cons f rest => exact first.elim
  | cons call calls ih =>
    cases fields with
    | nil => exact first.elim
    | cons f rest =>
      rw [outers_cons, length_append, ← Nat.add_assoc] at second
      exact ⟨first.1, ih first.2 second⟩

theorem calls_write (writes : WritesAll offset calls fields) (longer : w.longerTagOffest = offset)
    (room : w.pCur + 12 * fields.length ≤ ifdStart + offset)
    (far : offset + (outers fields).length < 2 ^ 32) :
    calls.foldl writeExifIfd w =
      ⟨write (write w.mem w.pCur (entries offset fields)) (ifdStart + offset) (outers fields),
        w.pCur + 12 * fields.length, offset + (outers fields).length⟩ := by
  induction calls generalizing offset fields w with
  | nil =>
    cases fields with
    | nil => simp [entries, outers, write_nil, ← longer]
    | cons f rest => exact writes.elim
  | cons call calls ih =>
    cases fields with
    | nil => exact writes.elim
    | cons f rest =>
      obtain ⟨here, later⟩ := writes
      rw [outers_cons, length_append] at far
      rw [length_cons] at room
      rw [List.foldl_cons, here w longer (by omega)]
      rw [ih later rfl (by dsimp only; omega) (by omega), entries, outers_cons, length_cons,
        length_append]
      have apart : w.pCur + (f.entry offset).length +
          (entries (offset + f.outer.length) rest).length ≤ ifdStart + offset := by
        rw [Field.entry_length, entries_length]
        omega
      have cursors := write_two_cursors w.mem (f.entry offset) f.outer
        (entries (offset + f.outer.length) rest) (outers rest) apart
      rw [Field.entry_length, Nat.add_assoc] at cursors
      rw [cursors]
      simp only [Writer.mk.injEq, true_and]
      omega

theorem table_write {num : Nat} (counted : fields.length = num)
    (writes : WritesAll (w.longerTagOffest + 6 + 12 * num) calls fields)
    (far : w.longerTagOffest + (table w.longerTagOffest 0 fields).length < 2 ^ 32) :
    writeIfd num calls w =
      ⟨write w.mem (ifdStart + w.longerTagOffest) (table w.longerTagOffest 0 fields),
        ifdStart + w.longerTagOffest + 6 + 12 * num,
        w.longerTagOffest + (table w.longerTagOffest 0 fields).length⟩ := by
  subst counted
  rw [table_length] at far ⊢
  have behind : (w.longerTagOffest + (2 + fields.length * 12 + 4)) % 2 ^ 32 =
      w.longerTagOffest + 6 + 12 * fields.length := by
    omega
  simp only [writeIfd, Writer.put, Writer.addLonger, le_length, behind]
  rw [calls_write writes rfl (by dsimp only; omega) (by omega)]
  simp only [write_table, Writer.mk.injEq, true_and]
  omega

end

section
variable (offset : Nat)
include offset

variable (tag : UInt16)
include tag

theorem writes_long {value : Nat} (bound : value < 2 ^ 32) :
    Writes offset (.value tag .long 1 value) (.long tag value) :=
  writes_value offset tag (by decide) bound

omit tag in
theorem writes_short (tag value : UInt16) :
    Writes offset (.value tag .short 1 value.toNat) (.short tag value) :=
  writes_value offset tag (by decide) value.toNat_lt

theorem writes_byte (value : UInt8) :
    Writes offset (.value tag .byte 1 value.toNat) (.byte tag value) :=
  writes_value offset tag (by decide) value.toNat_lt

theorem writes_text {n : Nat} (s : CString n) :
    Writes offset (.longer tag .ascii (s.strlen + 1) s.chars.toList) (text tag s) :=
  writes_longer offset tag rfl (take_strlen s) _

theorem writes_chars {n : Nat} (v : Vector UInt8 n) :
    Writes offset (.longer tag .ascii n v.toList) (chars tag v) :=
  writes_longer offset tag rfl (List.take_of_length_le (by simp)) _

theorem writes_vector {n : Nat} (v : Vector Rational n) :
    Writes offset (.rationals tag .rational n v.toList) (rationals tag v) :=
  writes_rationals offset tag Vector.length_toList rfl _

theorem writes_rational (r : Rational) :
    Writes offset (.rationals tag .rational 1 [r]) (rational tag r) := by
  have copied : [r].flatMap Rational.bytes = r.bytes := List.flatMap_singleton _ _
  exact writes_rationals offset tag rfl copied _

theorem writes_srational (r : SRational) :
    Writes offset (.rationals tag .srational 1 [r.cast]) (srational tag r) := by
  have copied : [r.cast].flatMap Rational.bytes = r.cast.bytes := List.flatMap_singleton _ _
  exact writes_rationals offset tag rfl copied _

end

def stringsLength (info : ExifAttribute) : Nat :=
  info.maker.strlen + info.model.strlen + info.software.strlen + 23

variable (info : ExifAttribute)
include info

theorem zerothHead_outers (exif : Nat) :
    (outers (zerothHead info exif)).length = stringsLength info := by
  simp [outers, zerothHead, text, chars, Field.long, Field.short, stringsLength, CString.strlen]
  omega

variable (offset : Nat)

theorem zeroth_writes :
    WritesAll offset (zerothCalls info) (zerothHead info (offset + stringsLength info)) := by
  refine ⟨writes_long _ _ info.width.toNat_lt, writes_long _ _ info.height.toNat_lt,
    writes_text _ _ _, writes_text _ _ _, writes_short _ _ _, writes_text _ _ _,
    writes_chars _ _ _, writes_short _ _ _, ?_, trivial⟩
  -- the Exif pointer is the last call, behind all values of this table
  convert writes_offset _ _ using 2
  simp [text, chars, Field.long, Field.short, stringsLength, CString.strlen]
  omega

theorem commentMemory_take :
    (commentMemory info).take (commentsLen info) = info.userComment.text ++ [0] := by
  have short := strlen_lt info.userComment
  rw [commentMemory, append_assoc, List.take_append_of_le_length, commentsLen, take_strlen]
  rw [Vector.length_toList]
  exact short

theorem shiftComment_eq :
    shiftComment info = code ++ info.userComment.text ++ [0] ++
      (commentMemory info).drop (8 + commentsLen info) := by
  have eight : ((commentMemory info).take 8).length = 8 := by
    simp [commentMemory]
  have length : (info.userComment.text ++ [0]).length = commentsLen info := by
    simp [commentsLen, CString.strlen]
  simp only [shiftComment, overwrite, commentMemory_take, length, List.take_zero, List.nil_append,
    Nat.zero_add, append_assoc]
  rw [List.drop_append_of_le_length (by simp [code, eight]),
    List.drop_of_length_le (by simp [code])]
  rfl

theorem shiftComment_take :
    (shiftComment info).take (commentsLen info + code.length) =
      code ++ info.userComment.text ++ [0] := by
  have length : (code ++ info.userComment.text ++ [0]).length = commentsLen info + code.length := by
    simp [commentsLen, CString.strlen]
    omega
  rw [shiftComment_eq, ← length, List.take_left]

omit info in
theorem number_take_lt (bytes : List UInt8) : number (bytes.take 4) < 2 ^ 32 := by
  have bound := number_lt (bytes.take 4)
  have short : (bytes.take 4).length ≤ 4 := List.length_take_le 4 bytes
  exact Nat.lt_of_lt_of_le bound (Nat.pow_le_pow_right (by decide) short)

omit info in
theorem short_lt (value : UInt16) : value.toNat < 2 ^ 32 :=
  Nat.lt_trans value.toNat_lt (by decide)

theorem exif_writes :
    WritesAll offset (exifCalls info) (exifFields info (shiftedWidth info) (shiftedHeight info)) :=
  ⟨writes_rational _ _ _, writes_rational _ _ _, writes_short _ _ _, writes_short _ _ _,
    writes_bytes _ _ _ _ _, writes_chars _ _ _, writes_chars _ _ _, writes_srational _ _ _,
    writes_rational _ _ _, writes_srational _ _ _, writes_srational _ _ _, writes_rational _ _ _,
    writes_short _ _ _, writes_short _ _ _, writes_rational _ _ _,
    writes_longer _ _ rfl (shiftComment_take info) _, writes_short _ _ _,
    writes_long _ _ (number_take_lt _), writes_long _ _ (number_take_lt _),
    writes_long _ _ (short_lt _), writes_long _ _ (short_lt _), writes_long _ _ (short_lt _), trivial⟩

theorem method_writes : WritesAll offset (processingMethodCalls info) (processingMethod info) := by
  have short := strlen_lt info.gpsProcessingMethod
  by_cases empty : info.gpsProcessingMethod.text = []
  · simp [processingMethodCalls, processingMethod, CString.strlen, empty, WritesAll]
  · have some : 0 < info.gpsProcessingMethod.strlen := List.length_pos_iff.mpr empty
    have few : ¬ info.gpsProcessingMethod.strlen > 100 := by omega
    rw [processingMethodCalls, processingMethod, if_pos some, if_neg few, if_neg empty]
    refine ⟨writes_longer _ _ rfl ?_ _, trivial⟩
    rw [text_take, Nat.add_comm]
    exact List.take_of_length_le (by simp [CString.strlen])

theorem gps_writes : WritesAll offset (gpsCalls info) (gpsFields info) := by
  apply WritesAll.append
  · apply WritesAll.append
    · exact ⟨writes_bytes _ _ _ _ _, writes_bytes _ _ _ _ _, writes_vector _ _ _,
        writes_bytes _ _ _ _ _, writes_vector _ _ _, writes_byte _ _ _, writes_rational _ _ _,
        writes_vector _ _ _, trivial⟩
    · exact method_writes info _
  · exact ⟨writes_chars _ _ _, trivial⟩

theorem first_writes {length : Nat} (far : length < 2 ^ 32) :
    WritesAll offset (firstCalls info length) (firstFields info (offset + 16) length) := by
  refine ⟨writes_long _ _ info.widthThumb.toNat_lt, writes_long _ _ info.heightThumb.toNat_lt,
    writes_short _ _ _, writes_short _ _ _, writes_rational _ _ _, writes_rational _ _ _,
    writes_short _ _ _, ?_, writes_long _ _ far, trivial⟩
  convert writes_offset _ _ using 2
  simp [rational, Field.long, Field.short]

omit info in
theorem first_char_iff {n : Nat} (s : CString (n + 1)) : s.chars[0] = 0 ↔ s.text = [] := by
  obtain ⟨rest, split⟩ := chars_split s
  have head : s.chars.toList[0]? = some s.chars[0] := by simp
  cases letters : s.text with
  | nil =>
    rw [split, letters] at head
    simpa using head.symm
  | cons c tail =>
    have nonzero := text_ne_zero s c (by simp [letters])
    rw [split, letters] at head
    simp only [List.cons_append, List.getElem?_cons_zero, Option.some.injEq] at head
    simp [← head, nonzero]

theorem gps_counted :
    (gpsFields info).length = if info.gpsProcessingMethod.text = [] then 9 else 10 := by
  by_cases empty : info.gpsProcessingMethod.text = []
  · simp [gpsFields, processingMethod, empty]
  · simp [gpsFields, processingMethod, empty]

end ExifFields
