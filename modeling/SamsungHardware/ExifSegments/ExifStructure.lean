import SamsungHardware.ExifSegments.ExifLayout

/- The structure of the APP1 segment that makeExif leaves in the buffer: counts, entries,
   offsets and pointers agree, and no two tables or values share a byte. -/
namespace ExifStructure

open ByteMemory TiffDirectories ExifWriter ExifFields ExifLayout

structure OutputBuffer where
  mem : Memory
  capacity : Nat
  addressable : capacity < 2 ^ 32

def thumbSpans (m : Memory) (info : ExifAttribute) (p : Places) :
    Option (List UInt8) → List Span
  | none => []
  | some picture =>
    directorySpans m ifdStart p.first (firstFields info p.image picture.length) ++
      [⟨ifdStart + p.image, picture.length⟩]

def spans (m : Memory) (info : ExifAttribute) (picture : Option (List UInt8)) (p : Places) :
    List Span :=
  [⟨0, 18⟩] ++ directorySpans m ifdStart 8 (zerothFields info p.exif p.gps) ++
    directorySpans m ifdStart p.exif (exifFields info (shiftedWidth info) (shiftedHeight info)) ++
    (if info.enableGps then directorySpans m ifdStart p.gps (gpsFields info) else []) ++
    thumbSpans m info p picture

structure Structured (m : Memory) (size : Nat) (info : ExifAttribute)
    (picture : Option (List UInt8)) (p : Places) : Prop where
  marker : bytesAt m 0 2 = app1Marker
  identifier : bytesAt m 4 6 = exifIdentifierCode
  header : bytesAt m ifdStart 8 = tiffHeader
  zeroth : Directory m ifdStart 8 (zerothFields info p.exif p.gps)
    (if picture.isSome then p.first else 0)
  exif : Directory m ifdStart p.exif (exifFields info (shiftedWidth info) (shiftedHeight info)) 0
  gps : info.enableGps = true → Directory m ifdStart p.gps (gpsFields info) 0
  first : ∀ bytes, picture = some bytes →
    Directory m ifdStart p.first (firstFields info p.image bytes.length) 0 ∧
      bytesAt m (ifdStart + p.image) bytes.length = bytes
  disjoint : (spans m info picture p).Pairwise fun a b => Disjoint a.addresses b.addresses
  within : ∀ span ∈ spans m info picture p, span.start + span.length ≤ size

section

variable {m : Memory} {info : ExifAttribute} {picture : Option (List UInt8)}

structure Held (m : Memory) (info : ExifAttribute) (picture : Option (List UInt8)) : Prop where
  marker : Holds m 0 app1Marker
  length : Holds m 2 (lengthBytes (segmentLength info picture - 2))
  identifier : Holds m 4 exifIdentifierCode
  header : Holds m ifdStart tiffHeader
  zeroth : Holds m (ifdStart + 8) (zerothTable info (next info picture))
  exif : Holds m (ifdStart + (places info).exif) (exifTable info)
  gps : Holds m (ifdStart + (places info).gps) (gpsTable info)
  thumb : Holds m (ifdStart + (places info).first) (thumbTable info picture)

theorem held_of_holds (holds : Holds m 0 (segment info picture)) : Held m info picture := by
  have zeroth := zerothTable_length info (next info picture)
  have exif := exifTable_length info
  have gps := gpsTable_length info
  have front := holds.left
  have all : Holds m (ifdStart + 8) (tables info picture) := holds.right
  constructor
  case marker => exact front.left.left.left
  case length => exact front.left.left.right
  case identifier => exact front.left.right
  case header => exact front.right
  case zeroth => exact all.left.left.left
  case exif =>
    have table := all.left.left.right
    rw [Nat.add_assoc, zeroth] at table
    exact table
  case gps =>
    have table := all.left.right
    rw [List.length_append, Nat.add_assoc, ← Nat.add_assoc 8, zeroth, exif] at table
    exact table
  case thumb =>
    have table := all.right
    rw [List.length_append, List.length_append, Nat.add_assoc, ← Nat.add_assoc 8,
      ← Nat.add_assoc 8, zeroth, exif, gps] at table
    exact table

theorem next_eq (info : ExifAttribute) (picture : Option (List UInt8)) :
    next info picture = if picture.isSome then (places info).first else 0 := by
  cases picture <;> rfl

variable (held : Held m info picture)
include held

variable (far : stop info picture < 2 ^ 32)
include far

theorem zeroth_directory :
    Directory m ifdStart 8 (zerothFields info (places info).exif (places info).gps)
      (next info picture) := by
  have length := zerothTable_length info (next info picture)
  have order := places_order info picture
  apply directory_of_holds held.zeroth
  · rw [zerothFields_length, numZerothIfd]
    split <;> decide
  · change 8 + (zerothTable info (next info picture)).length < 2 ^ 32
    omega
  · rw [next_eq]
    split <;> omega

theorem exif_directory :
    Directory m ifdStart (places info).exif
      (exifFields info (shiftedWidth info) (shiftedHeight info)) 0 := by
  have length := exifTable_length info
  have order := places_order info picture
  apply directory_of_holds held.exif
  · rw [exifFields_length]
    decide
  · change (places info).exif + (exifTable info).length < 2 ^ 32
    omega
  · decide

theorem gps_directory (gps : info.enableGps = true) :
    Directory m ifdStart (places info).gps (gpsFields info) 0 := by
  have length := gpsTable_length info
  have order := places_order info picture
  have here := held.gps
  rw [gpsTable, if_pos gps] at length here
  apply directory_of_holds here
  · rw [gps_counted]
    split <;> decide
  · omega
  · decide

omit far in
omit held in
theorem first_directory {bytes : List UInt8} (held : Held m info (some bytes))
    (far : stop info (some bytes) < 2 ^ 32) :
    Directory m ifdStart (places info).first (firstFields info (places info).image bytes.length) 0 ∧
      Holds m (ifdStart + (places info).image) bytes := by
  have length := firstTable_length info bytes.length
  have bound : (places info).image + bytes.length < 2 ^ 32 := far
  have behind := held.thumb.right
  constructor
  · apply directory_of_holds held.thumb.left
    · change 9 < 2 ^ 16
      decide
    · change (places info).first + (firstTable info bytes.length).length < 2 ^ 32
      omega
    · decide
  · exact behind

theorem thumbSpans_tile :
    Tiles (ifdStart + (places info).first) (ifdStart + stop info picture)
      (thumbSpans m info (places info) picture) := by
  cases picture with
  | none => rfl
  | some bytes =>
    have length := firstTable_length info bytes.length
    have bound : (places info).image + bytes.length < 2 ^ 32 := far
    have table := directorySpans_tile held.thumb.left length (by omega)
    exact table.append ⟨rfl, Nat.add_assoc _ _ _⟩

theorem spans_tile : Tiles 0 (segmentLength info picture) (spans m info picture (places info)) := by
  have order := places_order info picture
  have headers : Tiles 0 (ifdStart + 8) [⟨0, 18⟩] := ⟨rfl, rfl⟩
  have zeroth := directorySpans_tile held.zeroth (zerothTable_length info (next info picture)) (by omega)
  have exif := directorySpans_tile held.exif (exifTable_length info) (by omega)
  have gps : Tiles (ifdStart + (places info).gps) (ifdStart + (places info).first)
      (if info.enableGps then directorySpans m ifdStart (places info).gps (gpsFields info)
        else []) := by
    have length := gpsTable_length info
    have here := held.gps
    unfold gpsTable at length here
    split at length
    · rename_i enabled
      rw [if_pos enabled] at here ⊢
      exact directorySpans_tile here length (by omega)
    · rename_i disabled
      rw [if_neg disabled, ← length]
      rfl
  rw [segmentLength_eq]
  exact (((headers.append zeroth).append exif).append gps).append (thumbSpans_tile held far)

theorem structured_of_held :
    Structured m (segmentLength info picture) info picture (places info) := by
  have tiles := spans_tile held far
  have zeroth := zeroth_directory held far
  rw [next_eq] at zeroth
  constructor
  case marker => exact held.marker.bytesAt_eq
  case identifier => exact held.identifier.bytesAt_eq
  case header => exact held.header.bytesAt_eq
  case zeroth => exact zeroth
  case exif => exact exif_directory held far
  case gps => exact gps_directory held far
  case first =>
    rintro bytes rfl
    have first := first_directory held far
    exact ⟨first.1, first.2.bytesAt_eq⟩
  case disjoint => exact tiles.disjoint
  case within =>
    intro span member
    exact (tiles.within.2 span member).2

end

theorem makeExif_held (exifOut : Memory) {info : ExifAttribute} {thumb : Thumb}
    (far : segmentLength info (picture info thumb) < 2 ^ 32) :
    Held (makeExif exifOut info thumb).1 info (picture info thumb) := by
  rw [makeExif_eq exifOut info thumb far]
  exact held_of_holds (holds_write exifOut 0 _)

theorem written_structured (out : OutputBuffer) {info : ExifAttribute} {thumb : Thumb}
    (enough : segmentLength info (picture info thumb) ≤ out.capacity) :
    Structured (makeExif out.mem info thumb).1 (makeExif out.mem info thumb).2 info
      (picture info thumb) (places info) := by
  have far : segmentLength info (picture info thumb) < 2 ^ 32 := by
    have := out.addressable
    omega
  have held := makeExif_held out.mem far
  have ends := segmentLength_eq info (picture info thumb)
  have structured := structured_of_held held (by omega)
  rw [makeExif_eq out.mem info thumb far] at structured ⊢
  exact structured

/-- Every segment that JpegEncoder or SecCamera writes into a buffer with room for it. -/
theorem makeExif_structured (out : OutputBuffer) (info : ExifAttribute) :
    (∀ (encoder : JpegEncoder) (useMainbufForThumb : Bool), encoder.available = true →
      segmentLength info (picture info (encoder.thumb useMainbufForThumb)) ≤ out.capacity →
      ∃ m size, encoder.makeExif out.mem info useMainbufForThumb = some (m, size) ∧
        size ≤ out.capacity ∧
        ∃ p, Structured m size info (picture info (encoder.thumb useMainbufForThumb)) p) ∧
    (∀ file : EncodedFile,
      segmentLength info (picture info file.asUnsigned) ≤ out.capacity →
      ∃ m size, SecCamera.makeExif out.mem file info = (m, size) ∧ size ≤ out.capacity ∧
        ∃ p, Structured m size info (picture info file.asUnsigned) p) := by
  have addressable := out.addressable
  constructor
  · intro encoder useMainbufForThumb available enough
    have structured := written_structured out enough
    have written := makeExif_eq out.mem info (encoder.thumb useMainbufForThumb) (by omega)
    refine ⟨_, _, ?_, ?_, places info, structured⟩
    · simp [JpegEncoder.makeExif, available]
    · rw [written]
      exact enough
  · intro file enough
    have structured := written_structured out enough
    have written := makeExif_eq out.mem info file.asUnsigned (by omega)
    refine ⟨_, _, rfl, ?_, places info, structured⟩
    change (makeExif out.mem info file.asUnsigned).2 ≤ out.capacity
    rw [written]
    exact enough

def cString {n : Nat} (letters : List UInt8) (short : letters.length < n) : CString n where
  chars := ⟨(letters ++ List.replicate (n - letters.length) 0).toArray, by simp; omega⟩
  terminated := by
    have room : n - letters.length ≠ 0 := by omega
    simp [room]

def samsung : List UInt8 := [83, 65, 77, 83, 85, 78, 71]

def sample (maker : List UInt8) (makerFits : maker.length < 32) (userComment : List UInt8)
    (commentFits : userComment.length < 150) (enableGps enableThumb : Bool) : ExifAttribute where
  enableGps := enableGps
  enableThumb := enableThumb
  maker := cString maker makerFits
  model := cString samsung (by decide)
  software := cString samsung (by decide)
  exifVersion := #v[48, 50, 50, 48]
  dateTime := Vector.replicate 20 0
  userComment := cString userComment commentFits
  width := 640
  height := 480
  widthThumb := 160
  heightThumb := 120
  orientation := 1
  ycbcrPositioning := 1
  exposureProgram := 3
  isoSpeedRating := 100
  meteringMode := 2
  flash := 0
  colorSpace := 1
  exposureMode := 0
  whiteBalance := 0
  sceneCaptureType := 0
  exposureTime := ⟨1, 30⟩
  fnumber := ⟨265, 100⟩
  aperture := ⟨281, 100⟩
  maxAperture := ⟨281, 100⟩
  focalLength := ⟨278, 100⟩
  shutterSpeed := ⟨490, 100⟩
  brightness := ⟨-3, 100⟩
  exposureBias := ⟨0, 10⟩
  gpsLatitudeRef := #v[78, 0]
  gpsLongitudeRef := #v[69, 0]
  gpsVersionId := #v[2, 2, 0, 0]
  gpsAltitudeRef := 0
  gpsLatitude := Vector.replicate 3 ⟨1, 1⟩
  gpsLongitude := Vector.replicate 3 ⟨2, 1⟩
  gpsAltitude := ⟨50, 1⟩
  gpsTimestamp := Vector.replicate 3 ⟨12, 1⟩
  gpsDatestamp := Vector.replicate 11 0
  gpsProcessingMethod := cString [71, 80, 83] (by decide)
  xResolution := ⟨72, 1⟩
  yResolution := ⟨72, 1⟩
  resolutionUnit := 2
  compressionScheme := 6

def zeros (n : Nat) : EncodedFile where
  buf := some (List.replicate n 0)
  fileSize := UInt32.ofNat n
  held bytes here := by
    have same := Option.some.inj here
    rw [← same, List.length_replicate, UInt32.toNat_ofNat']
    exact Nat.mod_le _ _

theorem small_thumbnail_structured :
    let info := sample samsung (by decide) [] (by decide) true true
    let out : OutputBuffer := ⟨fun _ => 0, 4096, by decide⟩
    let encoder : JpegEncoder := ⟨true, zeros 3, zeros 3⟩
    (∃ m size, encoder.makeExif out.mem info false = some (m, size) ∧ size ≤ 4096 ∧
      ∃ p, Structured m size info (some [0, 0, 0]) p) ∧
    ∃ m size, SecCamera.makeExif out.mem (zeros 3) info = (m, size) ∧ size ≤ 4096 ∧
      ∃ p, Structured m size info (some [0, 0, 0]) p := by
  intro info out encoder
  have short : segmentLength info (some [0, 0, 0]) ≤ 4096 := by
    have bound := places_first_le info
    rw [segmentLength_eq]
    change 10 + ((places info).first + 130 + 3) ≤ 4096
    omega
  exact ⟨(makeExif_structured out info).1 encoder false rfl short,
    (makeExif_structured out info).2 (zeros 3) short⟩

end ExifStructure
