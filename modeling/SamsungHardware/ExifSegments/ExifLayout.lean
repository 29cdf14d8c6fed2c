import SamsungHardware.ExifSegments.ExifFields

/- The Exif header as a string of bytes, table behind table, and that makeExif writes
   exactly this string: the patched entries and the values that go behind their tables
   leave no gap and meet nothing twice. -/
namespace ExifLayout
open List

open ByteMemory TiffDirectories ExifWriter ExifFields

section

structure Places where
  (exif gps first image : Nat)

def places (info : ExifAttribute) : Places :=
  let exif := 14 + 12 * numZerothIfd info + stringsLength info
  let gps := exif + (table exif 0 (exifFields info 0 0)).length
  let first := gps + if info.enableGps then (table gps 0 (gpsFields info)).length else 0
  ⟨exif, gps, first, first + 130⟩

theorem places_exif (info : ExifAttribute) :
    (places info).exif = 14 + 12 * numZerothIfd info + stringsLength info := rfl

theorem places_gps (info : ExifAttribute) : (places info).gps =
    (places info).exif + (table (places info).exif 0 (exifFields info 0 0)).length := rfl

def zerothTable (info : ExifAttribute) (next : Nat) : List UInt8 :=
  table 8 next (zerothFields info (places info).exif (places info).gps)

def exifTable (info : ExifAttribute) : List UInt8 :=
  table (places info).exif 0 (exifFields info (shiftedWidth info) (shiftedHeight info))

def gpsTable (info : ExifAttribute) : List UInt8 :=
  if info.enableGps then table (places info).gps 0 (gpsFields info) else []

def firstTable (info : ExifAttribute) (length : Nat) : List UInt8 :=
  table (places info).first 0 (firstFields info (places info).image length)

def next (info : ExifAttribute) : Option (List UInt8) → Nat
  | none => 0
  | some _ => (places info).first

def thumbTable (info : ExifAttribute) : Option (List UInt8) → List UInt8
  | none => []
  | some picture => firstTable info picture.length ++ picture

def tables (info : ExifAttribute) (picture : Option (List UInt8)) : List UInt8 :=
  zerothTable info (next info picture) ++ exifTable info ++ gpsTable info ++ thumbTable info picture

def segmentLength (info : ExifAttribute) (picture : Option (List UInt8)) : Nat :=
  18 + (tables info picture).length

def lengthBytes (length : Nat) : List UInt8 := [UInt8.ofNat (length >>> 8), UInt8.ofNat length]

def segment (info : ExifAttribute) (picture : Option (List UInt8)) : List UInt8 :=
  app1Marker ++ lengthBytes (segmentLength info picture - 2) ++ exifIdentifierCode ++ tiffHeader ++
    tables info picture

variable (info : ExifAttribute)
include info

variable (picture : Option (List UInt8))

theorem zerothFields_length (exif gps : Nat) :
    (zerothFields info exif gps).length = numZerothIfd info := by
  unfold zerothFields numZerothIfd
  split <;> rfl

theorem zerothFields_outers (exif gps : Nat) :
    outers (zerothFields info exif gps) = outers (zerothHead info exif) := by
  rw [zerothFields, outers_append]
  split <;> simp [outers, Field.long]

theorem zerothTable_length (next : Nat) :
    8 + (zerothTable info next).length = (places info).exif := by
  rw [zerothTable, table_length, zerothFields_length, zerothFields_outers, zerothHead_outers,
    places_exif]
  omega

theorem exifFields_length (pixelX pixelY : Nat) : (exifFields info pixelX pixelY).length = 22 := rfl

theorem exifFields_outers (pixelX pixelY : Nat) :
    outers (exifFields info pixelX pixelY) = outers (exifFields info 0 0) := by
  simp only [outers, exifFields, flatMap_cons, Field.long, Field.outer_scalar]

theorem exifTable_length : (places info).exif + (exifTable info).length = (places info).gps := by
  rw [places_gps, exifTable, table_length, table_length, exifFields_outers, exifFields_length,
    exifFields_length]

theorem gpsTable_length : (places info).gps + (gpsTable info).length = (places info).first := by
  unfold gpsTable places
  split <;> simp_all

theorem firstTable_length (length : Nat) :
    (places info).first + (firstTable info length).length = (places info).image := by
  simp [firstTable, outers, firstFields, rational, Field.long, Field.short, places]

omit info in
def stop (info : ExifAttribute) : Option (List UInt8) → Nat
  | none => (places info).first
  | some picture => (places info).image + picture.length

theorem thumbTable_length :
    (places info).first + (thumbTable info picture).length = stop info picture := by
  cases picture with
  | none => rfl
  | some picture =>
    have first := firstTable_length info picture.length
    simp only [thumbTable, stop, length_append]
    omega

theorem segmentLength_eq : segmentLength info picture = 10 + stop info picture := by
  have zeroth := zerothTable_length info (next info picture)
  have exif := exifTable_length info
  have gps := gpsTable_length info
  have thumb := thumbTable_length info picture
  simp only [segmentLength, tables, length_append]
  omega

theorem places_order :
    (places info).exif ≤ (places info).gps ∧ (places info).gps ≤ (places info).first ∧
      (places info).first ≤ stop info picture := by
  have exif := exifTable_length info
  have gps := gpsTable_length info
  have thumb := thumbTable_length info picture
  omega

/-- The tables with their values are short; only the thumbnail makes a segment long. -/
theorem places_first_le : (places info).first ≤ 1106 := by
  have maker := strlen_lt info.maker
  have model := strlen_lt info.model
  have software := strlen_lt info.software
  have comments := strlen_lt info.userComment
  have exif : (places info).exif ≤ 250 := by
    rw [places_exif, numZerothIfd, stringsLength]
    split <;> omega
  have gps : (places info).gps ≤ (places info).exif + 532 := by
    rw [places_gps, table_length, exifFields_length]
    simp [outers, exifFields, rational, srational, chars, comment, Field.short, Field.long, code]
    rw [CString.strlen] at comments
    omega
  have methods : (outers (processingMethod info)).length ≤ 107 := by
    have method := strlen_lt info.gpsProcessingMethod
    unfold processingMethod
    split
    · decide
    · rw [CString.strlen] at method
      simp [outers, exifAsciiPrefix]
      omega
  have table : (gpsTable info).length ≤ 324 := by
    unfold gpsTable
    split
    · rw [table_length, gps_counted, gpsFields, outers_append, outers_append]
      simp only [length_append]
      have fixed : ∀ (front back : Nat), front = 80 → back = 11 →
          6 + 12 * (if info.gpsProcessingMethod.text = [] then 9 else 10) +
            (front + (outers (processingMethod info)).length + back) ≤ 324 := by
        intro front back first last
        split <;> omega
      apply fixed
      · simp [outers, rational, rationals, Field.byte]
      · simp [outers, chars]
    · decide
  have first := gpsTable_length info
  omega

end

variable {m : Memory} {values : Nat} {head tail : List UInt8} {w : Writer}

/-- The memory of a writer that has filled the front of the 0th table up to its patched
    entries, and everything from the table's values on up to LongerTagOffest. -/
structure Laid (m : Memory) (values : Nat) (head tail : List UInt8) (w : Writer) : Prop where
  mem : w.mem = write (write m 4 head) (ifdStart + values) tail
  longer : w.longerTagOffest = values + tail.length

section
variable (laid : Laid m values head tail w)
include laid

theorem Laid.patch (bytes : List UInt8) (pCur : Nat)
    (apart : 4 + head.length + bytes.length ≤ ifdStart + values) :
    Laid m values (head ++ bytes) tail
      ⟨write w.mem (4 + head.length) bytes, pCur, w.longerTagOffest⟩ := by
  constructor
  · rw [laid.mem, write_comm _ apart, write_append]
  · exact laid.longer

theorem Laid.extend (bytes : List UInt8) (pCur : Nat) :
    Laid m values head (tail ++ bytes)
      ⟨write w.mem (ifdStart + w.longerTagOffest) bytes, pCur,
        w.longerTagOffest + bytes.length⟩ := by
  constructor
  · rw [laid.mem, laid.longer, ← Nat.add_assoc, write_append]
  · rw [laid.longer, length_append, Nat.add_assoc]

theorem Laid.table {num : Nat} {calls : List Call} {fields : List Field}
    (counted : fields.length = num)
    (writes : WritesAll (w.longerTagOffest + 6 + 12 * num) calls fields)
    (far : w.longerTagOffest + (table w.longerTagOffest 0 fields).length < 2 ^ 32) :
    Laid m values head (tail ++ TiffDirectories.table w.longerTagOffest 0 fields)
      (writeIfd num calls w) := by
  rw [table_write counted writes far]
  exact laid.extend _ _

theorem Laid.copy {pValue : List UInt8} {count : Nat} (held : count ≤ pValue.length)
    (far : w.longerTagOffest + count < 2 ^ 32) :
    Laid m values head (tail ++ pValue.take count) (w.copyLonger pValue count) := by
  have length : (pValue.take count).length = count := length_take_of_le held
  have extended := laid.extend (pValue.take count) w.pCur
  rw [Writer.copyLonger, Writer.addLonger, Nat.mod_eq_of_lt far]
  rw [length] at extended
  exact extended

end

def zerothValues (info : ExifAttribute) : Nat := 14 + 12 * numZerothIfd info

def zerothFront (info : ExifAttribute) : List UInt8 :=
  exifIdentifierCode ++ tiffHeader ++ le 2 (numZerothIfd info) ++
    entries (zerothValues info) (zerothHead info (places info).exif)

def zerothOuters (info : ExifAttribute) : List UInt8 := outers (zerothHead info (places info).exif)

def gpsPointer (info : ExifAttribute) : List UInt8 :=
  if info.enableGps then (Field.long Tag.gpsIfdPointer (places info).gps).entry 0 else []

section
variable (info : ExifAttribute)
include info

theorem zerothFront_length : (zerothFront info).length = 124 := by
  simp [zerothFront, exifIdentifierCode, tiffHeader, zerothHead]

theorem zerothOuters_length :
    zerothValues info + (zerothOuters info).length = (places info).exif := by
  rw [zerothOuters, zerothHead_outers]
  rfl

theorem gpsPointer_length : 128 + (gpsPointer info).length + 4 = ifdStart + zerothValues info := by
  unfold gpsPointer zerothValues numZerothIfd ifdStart
  split <;> simp

theorem zeroth_laid (m : Memory) (far : (places info).exif < 2 ^ 32) :
    Laid m (zerothValues info) (zerothFront info) (zerothOuters info) (zerothIfd info m) ∧
      (zerothIfd info m).pCur = 128 := by
  have values := zerothOuters_length info
  have pointer := gpsPointer_length info
  let header := exifIdentifierCode ++ tiffHeader ++ le 2 (numZerothIfd info)
  have small : (0 + (8 + 2 + numZerothIfd info * 12 + 4)) % 2 ^ 32 = zerothValues info := by
    have unfolded : zerothValues info = 14 + 12 * numZerothIfd info := rfl
    rw [Nat.mod_eq_of_lt (by omega)]
    omega
  have begun : zerothIfd info m =
      (zerothCalls info).foldl writeExifIfd ⟨write m 4 header, 20, zerothValues info⟩ := by
    rw [zerothIfd, put_put, put_put, Writer.addLonger, ← small]
    rfl
  have room : 20 + 12 * 9 ≤ ifdStart + zerothValues info := by omega
  have bound : zerothValues info + (zerothOuters info).length < 2 ^ 32 := by omega
  rw [begun, calls_write (zeroth_writes info (zerothValues info)) rfl room bound]
  refine ⟨⟨?_, rfl⟩, rfl⟩
  exact congrArg (write · _ _) (write_append m 4 header _)

theorem exif_laid (m : Memory) (far : (places info).gps < 2 ^ 32) :
    Laid m (zerothValues info) (zerothFront info) (zerothOuters info ++ exifTable info)
      (writeIfd 22 (exifCalls info) (zerothIfd info m)) := by
  have values := zerothOuters_length info
  have length := exifTable_length info
  have laid := (zeroth_laid info m (by omega)).1
  have longer : (zerothIfd info m).longerTagOffest = (places info).exif := by
    rw [laid.longer, values]
  have table := laid.table (exifFields_length info _ _) (exif_writes info _) (by
    rw [longer]
    change (places info).exif + (exifTable info).length < 2 ^ 32
    omega)
  rw [longer] at table
  exact table

end

variable {info : ExifAttribute}

theorem pointer_write (gps : info.enableGps = true) (longer : w.longerTagOffest = (places info).gps)
    (far : (places info).gps < 2 ^ 32) :
    writeExifIfd { w with pCur := 128 } (.offset Tag.gpsIfdPointer .long 1) =
      ⟨write w.mem 128 (gpsPointer info), 140, w.longerTagOffest⟩ := by
  have written := writes_offset (places info).gps Tag.gpsIfdPointer { w with pCur := 128 } longer far
  rw [written, gpsPointer, if_pos gps, longer]
  simp only [Field.long, Field.outer_scalar, write_nil]
  rfl

theorem gps_laid (laid : Laid m (zerothValues info) (zerothFront info) tail w)
    (longer : w.longerTagOffest = (places info).gps) (far : (places info).first < 2 ^ 32) :
    Laid m (zerothValues info) (zerothFront info ++ gpsPointer info) (tail ++ gpsTable info)
      (if info.enableGps then gpsIfd info 128 w else w) := by
  have room := gpsPointer_length info
  have length := gpsTable_length info
  have front := zerothFront_length info
  cases gps : info.enableGps with
  | false => simpa [gpsPointer, gpsTable, gps] using laid
  | true =>
    have patched := laid.patch (gpsPointer info) 140 (by omega)
    have counted : (gpsFields info).length =
        if info.gpsProcessingMethod.chars[0] = 0 then 9 else 10 := by
      simp only [gps_counted, first_char_iff]
    have table := patched.table counted (gps_writes info _) (by
      rw [gpsTable, if_pos gps] at length
      rw [longer]
      omega)
    rw [if_pos rfl, gpsIfd, pointer_write gps longer (by omega), gpsTable, if_pos gps, ← longer]
    exact table

def picture (info : ExifAttribute) (thumb : Thumb) : Option (List UInt8) :=
  match thumb.buf with
  | none => none
  | some thumbBuf =>
    if info.enableThumb ∧ thumb.size > 0 then some (thumbBuf.take thumb.size.toNat) else none

theorem first_laid {length : Nat} (laid : Laid m values head tail w)
    (longer : w.longerTagOffest = (places info).first) (far : (places info).image + length < 2 ^ 32) :
    Laid m values head (tail ++ firstTable info length) (writeIfd 9 (firstCalls info length) w) := by
  have ends := firstTable_length info length
  have image : w.longerTagOffest + 6 + 12 * 9 + 16 = (places info).image := by
    have unfolded : (places info).image = (places info).first + 130 := rfl
    omega
  have bound : length < 2 ^ 32 := by omega
  have writes := first_writes info (w.longerTagOffest + 6 + 12 * 9) bound
  rw [image] at writes
  have counted : (firstFields info (places info).image length).length = 9 := rfl
  have table := laid.table counted writes (by
    rw [longer]
    change (places info).first + (firstTable info length).length < 2 ^ 32
    omega)
  rw [longer] at table
  exact table

theorem thumb_laid {thumb : Thumb}
    (laid : Laid m (zerothValues info) (zerothFront info ++ gpsPointer info) tail w)
    (longer : w.longerTagOffest = (places info).first)
    (far : stop info (picture info thumb) < 2 ^ 32) :
    Laid m (zerothValues info)
      (zerothFront info ++ gpsPointer info ++ le 4 (next info (picture info thumb)))
      (tail ++ thumbTable info (picture info thumb))
      (thumbIfd info thumb (128 + (gpsPointer info).length) w) := by
  have room := gpsPointer_length info
  have front := zerothFront_length info
  have patched : ∀ next, Laid m (zerothValues info) (zerothFront info ++ gpsPointer info ++ le 4 next)
      tail (patchNext w (128 + (gpsPointer info).length) next) := by
    intro next
    have done := laid.patch (le 4 next) w.pCur (by
      simp only [length_append, le_length]
      omega)
    rw [length_append, front, ← Nat.add_assoc] at done
    exact done
  cases buf : thumb.buf with
  | none => simpa [picture, thumbIfd, thumbTable, next, buf] using patched 0
  | some thumbBuf =>
    by_cases shown : info.enableThumb ∧ thumb.size > 0
    · have held := thumb.held thumbBuf buf
      have count : thumb.size.toNat ≤ thumbBuf.length := by omega
      have length : (thumbBuf.take thumb.size.toNat).length = thumb.size.toNat :=
        length_take_of_le count
      simp only [picture, buf, if_pos shown, stop, length] at far ⊢
      have first := firstTable_length info thumb.size.toNat
      have patch := patched w.longerTagOffest
      have table := first_laid patch longer far
      have copied := table.copy count (by
        rw [table.longer, length_append, ← Nat.add_assoc, ← laid.longer, longer, first]
        exact far)
      rw [thumbIfd, buf]
      simp only [if_pos shown, next, thumbTable, length, ← append_assoc, ← longer]
      exact copied
    · simpa [picture, thumbIfd, thumbTable, next, buf, shown] using patched 0

theorem zerothTable_eq (info : ExifAttribute) (next : Nat) :
    exifIdentifierCode ++ tiffHeader ++ zerothTable info next =
      zerothFront info ++ gpsPointer info ++ le 4 next ++ zerothOuters info := by
  have pointer : ∀ offset, entries offset (if info.enableGps then
      [Field.long Tag.gpsIfdPointer (places info).gps] else []) = gpsPointer info := by
    intro offset
    unfold gpsPointer
    split
    · exact append_nil _
    · rfl
  have start : 8 + 6 + 12 * numZerothIfd info = zerothValues info := rfl
  rw [zerothTable, table, zerothFields_length, zerothFields_outers, start, zerothFields,
    entries_append, pointer]
  simp only [zerothFront, zerothOuters, append_assoc]

theorem write_marker (m : Memory) (length : Nat) (body : List UInt8) :
    write (write (write m 4 body) 0 app1Marker) 2 (lengthBytes length) =
      write m 0 (app1Marker ++ lengthBytes length ++ body) := by
  have marker : write (write m 4 body) 0 app1Marker = write (write m 0 app1Marker) 4 body :=
    write_comm m (by decide)
  have field : write (write (write m 0 app1Marker) 4 body) 2 (lengthBytes length) =
      write (write (write m 0 app1Marker) 2 (lengthBytes length)) 4 body :=
    write_comm _ (Nat.le_refl 4)
  have front : write (write m 0 app1Marker) 2 (lengthBytes length) =
      write m 0 (app1Marker ++ lengthBytes length) := write_append m 0 app1Marker (lengthBytes length)
  rw [marker, field, front]
  exact write_append m 0 (app1Marker ++ lengthBytes length) body

variable (exifOut : Memory)

def lastWriter (info : ExifAttribute) (thumb : Thumb) : Writer :=
  let w := writeIfd 22 (exifCalls info) (zerothIfd info exifOut)
  let w := if info.enableGps then gpsIfd info 128 w else w
  thumbIfd info thumb (128 + (gpsPointer info).length) w

theorem last_laid (info : ExifAttribute) (thumb : Thumb)
    (far : stop info (picture info thumb) < 2 ^ 32) :
    (lastWriter exifOut info thumb).mem =
        write exifOut 4 (exifIdentifierCode ++ tiffHeader ++ tables info (picture info thumb)) ∧
      (lastWriter exifOut info thumb).longerTagOffest = stop info (picture info thumb) := by
  have order := places_order info (picture info thumb)
  have values := zerothOuters_length info
  have exif := exifTable_length info
  have gps := gpsTable_length info
  have last := thumbTable_length info (picture info thumb)
  have second := exif_laid info exifOut (by omega)
  have third := gps_laid second (by
    rw [second.longer, length_append]
    omega) (by omega)
  have fourth := thumb_laid third (by
    rw [third.longer, length_append, length_append]
    omega) far
  constructor
  · have room := gpsPointer_length info
    have front := zerothFront_length info
    have joined : ifdStart + zerothValues info = 4 + (zerothFront info ++ gpsPointer info ++
        le 4 (next info (picture info thumb))).length := by
      simp only [length_append, le_length]
      omega
    have whole : exifIdentifierCode ++ tiffHeader ++ tables info (picture info thumb) =
        zerothFront info ++ gpsPointer info ++ le 4 (next info (picture info thumb)) ++
          (zerothOuters info ++ exifTable info ++ gpsTable info ++
            thumbTable info (picture info thumb)) := by
      have zeroth := zerothTable_eq info (next info (picture info thumb))
      simp only [tables, ← append_assoc] at zeroth ⊢
      rw [zeroth]
    rw [lastWriter, fourth.mem, joined, write_append, whole]
  · rw [lastWriter, fourth.longer]
    simp only [length_append]
    omega

theorem makeExif_last (info : ExifAttribute) (thumb : Thumb) (far : (places info).exif < 2 ^ 32) :
    makeExif exifOut info thumb = let w := lastWriter exifOut info thumb
      let size := (10 + w.longerTagOffest) % 2 ^ 32
      (write (write w.mem 0 app1Marker) 2 (lengthBytes ((size + 2 ^ 32 - 2) % 2 ^ 32)), size) := by
  have cursor := (zeroth_laid info exifOut far).2
  have skipped : (if info.enableGps then 128 + 12 else 128) = 128 + (gpsPointer info).length := by
    unfold gpsPointer
    split <;> simp
  rw [makeExif, cursor, skipped]
  rfl

theorem makeExif_eq (info : ExifAttribute) (thumb : Thumb)
    (far : segmentLength info (picture info thumb) < 2 ^ 32) :
    makeExif exifOut info thumb =
      (write exifOut 0 (segment info (picture info thumb)),
        segmentLength info (picture info thumb)) := by
  have order := places_order info (picture info thumb)
  have ends := segmentLength_eq info (picture info thumb)
  obtain ⟨mem, longer⟩ := last_laid exifOut info thumb (by omega)
  have field : (segmentLength info (picture info thumb) + 2 ^ 32 - 2) % 2 ^ 32 =
      segmentLength info (picture info thumb) - 2 := by omega
  rw [makeExif_last exifOut info thumb (by omega)]
  dsimp only
  rw [mem, longer, ← ends]
  simp only [Nat.mod_eq_of_lt far, field, write_marker, segment, append_assoc]

end ExifLayout
