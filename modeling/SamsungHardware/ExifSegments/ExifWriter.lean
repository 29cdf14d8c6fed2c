import SamsungHardware.Library.TiffDirectories

/- The Exif header of a picture, as makeExif of JpegEncoder and of SecCamera writes it:
   the APP1 marker, the TIFF header and up to four image file directories. One offset,
   LongerTagOffest, says where the next table or out-of-line value goes. -/
namespace ExifWriter

open ByteMemory TiffDirectories

namespace Tag

def imageWidth : UInt16 := 0x0100
def imageHeight : UInt16 := 0x0101
def make : UInt16 := 0x010f
def model : UInt16 := 0x0110
def orientation : UInt16 := 0x0112
def software : UInt16 := 0x0131
def dateTime : UInt16 := 0x0132
def ycbcrPositioning : UInt16 := 0x0213
def exifIfdPointer : UInt16 := 0x8769
def gpsIfdPointer : UInt16 := 0x8825

def exposureTime : UInt16 := 0x829A
def fnumber : UInt16 := 0x829D
def exposureProgram : UInt16 := 0x8822
def isoSpeedRating : UInt16 := 0x8827
def exifVersion : UInt16 := 0x9000
def dateTimeOrg : UInt16 := 0x9003
def dateTimeDigitize : UInt16 := 0x9004
def shutterSpeed : UInt16 := 0x9201
def aperture : UInt16 := 0x9202
def brightness : UInt16 := 0x9203
def exposureBias : UInt16 := 0x9204
def maxAperture : UInt16 := 0x9205
def meteringMode : UInt16 := 0x9207
def flash : UInt16 := 0x9209
def focalLength : UInt16 := 0x920A
def userComment : UInt16 := 0x9286
def colorSpace : UInt16 := 0xA001
def pixelXDimension : UInt16 := 0xA002
def pixelYDimension : UInt16 := 0xA003
def exposureMode : UInt16 := 0xA402
def whiteBalance : UInt16 := 0xA403
def scenceCaptureType : UInt16 := 0xA406

def gpsVersionId : UInt16 := 0x0000
def gpsLatitudeRef : UInt16 := 0x0001
def gpsLatitude : UInt16 := 0x0002
def gpsLongitudeRef : UInt16 := 0x0003
def gpsLongitude : UInt16 := 0x0004
def gpsAltitudeRef : UInt16 := 0x0005
def gpsAltitude : UInt16 := 0x0006
def gpsTimestamp : UInt16 := 0x0007
def gpsProcessingMethod : UInt16 := 0x001B
def gpsDatestamp : UInt16 := 0x001D

def compressionScheme : UInt16 := 0x0103
def xResolution : UInt16 := 0x011A
def yResolution : UInt16 := 0x011B
def resolutionUnit : UInt16 := 0x0128
def jpegInterchangeFormat : UInt16 := 0x0201
def jpegInterchangeFormatLen : UInt16 := 0x0202

end Tag

structure Rational where
  (num den : UInt32)
  deriving DecidableEq, Repr

structure SRational where
  (num den : Int32)
  deriving DecidableEq

def SRational.cast (r : SRational) : Rational := ⟨r.num.toUInt32, r.den.toUInt32⟩

def Rational.bytes (r : Rational) : List UInt8 := le 4 r.num.toNat ++ le 4 r.den.toNat

structure CString (n : Nat) where
  chars : Vector UInt8 n
  terminated : 0 ∈ chars.toList

def CString.text {n : Nat} (s : CString n) : List UInt8 := s.chars.toList.takeWhile (· ≠ 0)

def CString.strlen {n : Nat} (s : CString n) : Nat := s.text.length

structure ExifAttribute where
  (enableGps enableThumb : Bool)
  (maker model software : CString 32)
  exifVersion : Vector UInt8 4
  dateTime : Vector UInt8 20
  userComment : CString 150
  (width height widthThumb heightThumb : UInt32)
  (orientation ycbcrPositioning exposureProgram isoSpeedRating meteringMode flash colorSpace : UInt16)
  (exposureMode whiteBalance sceneCaptureType : UInt16)
  (exposureTime fnumber aperture maxAperture focalLength : Rational)
  (shutterSpeed brightness exposureBias : SRational)
  (gpsLatitudeRef gpsLongitudeRef : Vector UInt8 2)
  gpsVersionId : Vector UInt8 4
  gpsAltitudeRef : UInt8
  (gpsLatitude gpsLongitude : Vector Rational 3)
  gpsAltitude : Rational
  gpsTimestamp : Vector Rational 3
  gpsDatestamp : Vector UInt8 11
  gpsProcessingMethod : CString 100
  (xResolution yResolution : Rational)
  (resolutionUnit compressionScheme : UInt16)

def ifdStart : Nat := 10

structure Writer where
  mem : Memory
  (pCur longerTagOffest : Nat)

namespace Writer

def put (w : Writer) (bytes : List UInt8) : Writer :=
  { w with mem := write w.mem w.pCur bytes, pCur := w.pCur + bytes.length }

def addLonger (w : Writer) (n : Nat) : Writer :=
  { w with longerTagOffest := (w.longerTagOffest + n) % 2 ^ 32 }

def copyLonger (w : Writer) (pValue : List UInt8) (count : Nat) : Writer :=
  addLonger { w with mem := write w.mem (ifdStart + w.longerTagOffest) (pValue.take count) } count

end Writer

/-- A call of writeExifIfd, by its overload; `offset` passes LongerTagOffest as the value. -/
inductive Call where
  | value (tag : UInt16) (type : FieldType) (count value : Nat)
  | offset (tag : UInt16) (type : FieldType) (count : Nat)
  | bytes (tag : UInt16) (type : FieldType) (count : Nat) (pValue : List UInt8)
  | longer (tag : UInt16) (type : FieldType) (count : Nat) (pValue : List UInt8)
  | rationals (tag : UInt16) (type : FieldType) (count : Nat) (pValue : List Rational)

def putHeader (w : Writer) (tag : UInt16) (type : FieldType) (count : Nat) : Writer :=
  ((w.put (le 2 tag.toNat)).put (le 2 type.code)).put (le 4 count)

def writeExifIfd (w : Writer) : Call → Writer
  | .value tag type count value => (putHeader w tag type count).put (le 4 value)
  | .offset tag type count => (putHeader w tag type count).put (le 4 w.longerTagOffest)
  | .bytes tag type count pValue =>
    -- char buf[4] = { 0,}
    (putHeader w tag type count).put (pValue.take count ++ List.replicate (4 - count) 0)
  | .longer tag type count pValue =>
    ((putHeader w tag type count).put (le 4 w.longerTagOffest)).copyLonger pValue count
  | .rationals tag type count pValue =>
    ((putHeader w tag type count).put (le 4 w.longerTagOffest)).copyLonger
      (pValue.flatMap Rational.bytes) (8 * count)

def writeIfd (num : Nat) (calls : List Call) (w : Writer) : Writer :=
  let w := { w with pCur := ifdStart + w.longerTagOffest }
  let w := (w.put (le 2 num)).addLonger (2 + num * 12 + 4)
  (calls.foldl writeExifIfd w).put (le 4 0)

def exifIdentifierCode : List UInt8 := [0x45, 0x78, 0x69, 0x66, 0x00, 0x00]

def tiffHeader : List UInt8 := [0x49, 0x49, 0x2A, 0x00, 0x08, 0x00, 0x00, 0x00]

def app1Marker : List UInt8 := [0xff, 0xe1]

def exifAsciiPrefix : List UInt8 := [0x41, 0x53, 0x43, 0x49, 0x49, 0x0, 0x0, 0x0]

def zerothCalls (info : ExifAttribute) : List Call :=
  [.value Tag.imageWidth .long 1 info.width.toNat,
    .value Tag.imageHeight .long 1 info.height.toNat,
    .longer Tag.make .ascii (info.maker.strlen + 1) info.maker.chars.toList,
    .longer Tag.model .ascii (info.model.strlen + 1) info.model.chars.toList,
    .value Tag.orientation .short 1 info.orientation.toNat,
    .longer Tag.software .ascii (info.software.strlen + 1) info.software.chars.toList,
    .longer Tag.dateTime .ascii 20 info.dateTime.toList,
    .value Tag.ycbcrPositioning .short 1 info.ycbcrPositioning.toNat,
    .offset Tag.exifIfdPointer .long 1]

section

def code : List UInt8 := [0x00, 0x00, 0x00, 0x49, 0x49, 0x43, 0x53, 0x41]

def overwrite (bytes : List UInt8) (off : Nat) (data : List UInt8) : List UInt8 :=
  bytes.take off ++ data ++ bytes.drop (off + data.length)

variable (info : ExifAttribute)

/-- The structure from user_comment on: width and height follow its 150 bytes. -/
def commentMemory : List UInt8 :=
  info.userComment.chars.toList ++ le 4 info.width.toNat ++ le 4 info.height.toNat

def commentsLen : Nat := info.userComment.strlen + 1

/-- The comment is moved by the size of the code inside the structure itself, and the
    code copied before it. -/
def shiftComment : List UInt8 :=
  let moved := overwrite (commentMemory info) code.length
    ((commentMemory info).take (commentsLen info))
  overwrite moved 0 code

def shiftedWidth : Nat := number (((shiftComment info).drop 150).take 4)

def shiftedHeight : Nat := number (((shiftComment info).drop 154).take 4)

end

variable (info : ExifAttribute)

def exifCalls : List Call :=
  [.rationals Tag.exposureTime .rational 1 [info.exposureTime],
    .rationals Tag.fnumber .rational 1 [info.fnumber],
    .value Tag.exposureProgram .short 1 info.exposureProgram.toNat,
    .value Tag.isoSpeedRating .short 1 info.isoSpeedRating.toNat,
    .bytes Tag.exifVersion .undefined 4 info.exifVersion.toList,
    .longer Tag.dateTimeOrg .ascii 20 info.dateTime.toList,
    .longer Tag.dateTimeDigitize .ascii 20 info.dateTime.toList,
    .rationals Tag.shutterSpeed .srational 1 [info.shutterSpeed.cast],
    .rationals Tag.aperture .rational 1 [info.aperture],
    .rationals Tag.brightness .srational 1 [info.brightness.cast],
    .rationals Tag.exposureBias .srational 1 [info.exposureBias.cast],
    .rationals Tag.maxAperture .rational 1 [info.maxAperture],
    .value Tag.meteringMode .short 1 info.meteringMode.toNat,
    .value Tag.flash .short 1 info.flash.toNat,
    .rationals Tag.focalLength .rational 1 [info.focalLength],
    .longer Tag.userComment .undefined (commentsLen info + code.length) (shiftComment info),
    .value Tag.colorSpace .short 1 info.colorSpace.toNat,
    .value Tag.pixelXDimension .long 1 (shiftedWidth info),
    .value Tag.pixelYDimension .long 1 (shiftedHeight info),
    .value Tag.exposureMode .long 1 info.exposureMode.toNat,
    .value Tag.whiteBalance .long 1 info.whiteBalance.toNat,
    .value Tag.scenceCaptureType .long 1 info.sceneCaptureType.toNat]

def processingMethodCalls : List Call :=
  let tmp := info.gpsProcessingMethod.strlen
  if tmp > 0 then
    let tmp := if tmp > 100 then 100 else tmp
    [.longer Tag.gpsProcessingMethod .undefined (tmp + exifAsciiPrefix.length)
      (exifAsciiPrefix ++ info.gpsProcessingMethod.chars.toList.take tmp)]
  else []

def gpsCalls : List Call :=
  [.bytes Tag.gpsVersionId .byte 4 info.gpsVersionId.toList,
    .bytes Tag.gpsLatitudeRef .ascii 2 info.gpsLatitudeRef.toList,
    .rationals Tag.gpsLatitude .rational 3 info.gpsLatitude.toList,
    .bytes Tag.gpsLongitudeRef .ascii 2 info.gpsLongitudeRef.toList,
    .rationals Tag.gpsLongitude .rational 3 info.gpsLongitude.toList,
    .value Tag.gpsAltitudeRef .byte 1 info.gpsAltitudeRef.toNat,
    .rationals Tag.gpsAltitude .rational 1 [info.gpsAltitude],
    .rationals Tag.gpsTimestamp .rational 3 info.gpsTimestamp.toList] ++
  processingMethodCalls info ++
  [.longer Tag.gpsDatestamp .ascii 11 info.gpsDatestamp.toList]

def firstCalls (thumbSize : Nat) : List Call :=
  [.value Tag.imageWidth .long 1 info.widthThumb.toNat,
    .value Tag.imageHeight .long 1 info.heightThumb.toNat,
    .value Tag.compressionScheme .short 1 info.compressionScheme.toNat,
    .value Tag.orientation .short 1 info.orientation.toNat,
    .rationals Tag.xResolution .rational 1 [info.xResolution],
    .rationals Tag.yResolution .rational 1 [info.yResolution],
    .value Tag.resolutionUnit .short 1 info.resolutionUnit.toNat,
    .offset Tag.jpegInterchangeFormat .long 1,
    .value Tag.jpegInterchangeFormatLen .long 1 thumbSize]

def numZerothIfd : Nat := if info.enableGps then 10 else 9

def zerothIfd (exifOut : Memory) : Writer :=
  let w : Writer := ⟨exifOut, 4, 0⟩
  let w := (w.put exifIdentifierCode).put tiffHeader
  let tmp := numZerothIfd info
  let w := (w.put (le 2 tmp)).addLonger (8 + 2 + tmp * 12 + 4)
  (zerothCalls info).foldl writeExifIfd w

def gpsIfd (pGpsIfdPtr : Nat) (w : Writer) : Writer :=
  let w := writeExifIfd { w with pCur := pGpsIfdPtr } (.offset Tag.gpsIfdPointer .long 1)
  let tmp := if info.gpsProcessingMethod.chars[0] = 0 then 9 else 10
  writeIfd tmp (gpsCalls info) w

/-- thumbBuf, none for a null pointer, and thumbSize; the buffer has the bytes that the
    size promises. -/
structure Thumb where
  buf : Option (List UInt8)
  size : Int
  held : ∀ bytes, buf = some bytes → size ≤ bytes.length

def patchNext (w : Writer) (pNextIfdOffset next : Nat) : Writer :=
  { w with mem := write w.mem pNextIfdOffset (le 4 next) }

def thumbIfd (thumb : Thumb) (pNextIfdOffset : Nat) (w : Writer) : Writer :=
  match thumb.buf with
  | none => patchNext w pNextIfdOffset 0
  | some thumbBuf =>
    if info.enableThumb ∧ thumb.size > 0 then
      let w := patchNext w pNextIfdOffset w.longerTagOffest
      let w := writeIfd 9 (firstCalls info thumb.size.toNat) w
      w.copyLonger thumbBuf thumb.size.toNat
    else patchNext w pNextIfdOffset 0

/-- What both makeExif functions do once the thumbnail is chosen: the memory and *size. -/
def makeExif (exifOut : Memory) (info : ExifAttribute) (thumb : Thumb) : Memory × Nat :=
  let w := zerothIfd info exifOut
  let pGpsIfdPtr := w.pCur
  let pNextIfdOffset := if info.enableGps then w.pCur + 12 else w.pCur
  let w := writeIfd 22 (exifCalls info) w
  let w := if info.enableGps then gpsIfd info pGpsIfdPtr w else w
  let w := thumbIfd info thumb pNextIfdOffset w
  let size := (10 + w.longerTagOffest) % 2 ^ 32
  let tmp := (size + 2 ^ 32 - 2) % 2 ^ 32
  let mem := write w.mem 0 app1Marker
  (write mem 2 [UInt8.ofNat (tmp >>> 8), UInt8.ofNat tmp], size)

structure EncodedFile where
  buf : Option (List UInt8)
  fileSize : UInt32
  held : ∀ bytes, buf = some bytes → fileSize.toNat ≤ bytes.length

namespace EncodedFile

def asUnsigned (file : EncodedFile) : Thumb where
  buf := file.buf
  size := file.fileSize.toNat
  held bytes here := by
    have := file.held bytes here
    omega

theorem toInt_le (size : UInt32) : size.toInt32.toInt ≤ size.toNat := by
  have bits : size.toInt32.toInt = size.toBitVec.toInt := rfl
  have value : size.toNat = size.toBitVec.toNat := rfl
  rw [bits, value, BitVec.toInt_eq_toNat_cond]
  split <;> omega

def asInt (file : EncodedFile) : Thumb where
  buf := file.buf
  size := file.fileSize.toInt32.toInt
  held bytes here := by
    have := file.held bytes here
    have := toInt_le file.fileSize
    omega

end EncodedFile

structure JpegEncoder where
  available : Bool
  (out outThumb : EncodedFile)

namespace JpegEncoder

def thumb (encoder : JpegEncoder) (useMainbufForThumb : Bool) : Thumb :=
  if useMainbufForThumb then encoder.out.asInt else encoder.outThumb.asInt

/-- No result stands for JPG_FAIL. -/
def makeExif (encoder : JpegEncoder) (exifOut : Memory) (info : ExifAttribute)
    (useMainbufForThumb : Bool) : Option (Memory × Nat) :=
  if !encoder.available then none
  else some (ExifWriter.makeExif exifOut info (encoder.thumb useMainbufForThumb))

end JpegEncoder

def SecCamera.makeExif (exifOut : Memory) (thumb : EncodedFile) (info : ExifAttribute) :
    Memory × Nat :=
  ExifWriter.makeExif exifOut info thumb.asUnsigned

end ExifWriter
