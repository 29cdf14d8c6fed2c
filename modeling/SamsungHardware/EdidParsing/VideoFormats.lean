import Mathlib

/- Video formats, the timing table and the requests of libedid.c. -/
namespace VideoFormats

inductive VideoFormat where
  | v640x480p60Hz | v720x480p60Hz | v1280x720p60Hz | v1920x1080i60Hz | v720x480i60Hz | v720x240p60Hz
  | v2880x480i60Hz | v2880x240p60Hz | v1440x480p60Hz | v1920x1080p60Hz | v720x576p50Hz
  | v1280x720p50Hz | v1920x1080i50Hz | v720x576i50Hz | v720x288p50Hz | v2880x576i50Hz
  | v2880x288p50Hz | v1440x576p50Hz | v1920x1080p50Hz | v1920x1080p24Hz | v1920x1080p25Hz
  | v1920x1080p30Hz | v2880x480p60Hz | v2880x576p50Hz | v1920x1080i50Hz1250 | v1920x1080i100Hz
  | v1280x720p100Hz | v720x576p100Hz | v720x576i100Hz | v1920x1080i120Hz | v1280x720p120Hz
  | v720x480p120Hz | v720x480i120Hz | v720x576p200Hz | v720x576i200Hz | v720x480p240Hz
  | v720x480i240Hz | v1280x720p24Hz | v1280x720p25Hz | v1280x720p30Hz | v1920x1080p120Hz
  | v1920x1080p100Hz | v4Kx2K30Hz
  deriving DecidableEq, Repr

inductive ColorSpace where
  | rgb
  | ycbcr444
  | ycbcr422
  deriving DecidableEq, Repr

inductive ColorDepth where
  | cd36
  | cd30
  | cd24
  deriving DecidableEq, Repr

inductive HDMIMode where
  | dvi
  | hdmi
  deriving DecidableEq, Repr

inductive HDMIColorimetry where
  | noData | itu601 | itu709 | extendedXvYCC601 | extendedXvYCC709
  deriving DecidableEq, Repr

inductive PixelAspectRatio where
  | asPicture
  | ratio4to3
  | ratio16to9
  deriving DecidableEq, Repr

inductive HDMI3DVideoStructure where
  | video2D | fp | fa | la | ssf | ld | ldgfx | tb | vic | ssh
  deriving DecidableEq, Repr

def HDMI3DVideoStructure.toInt (s : HDMI3DVideoStructure) : Int := s.ctorIdx - 1

structure HDMIVideoParameter where
  mode : HDMIMode
  resolution : VideoFormat
  colorSpace : ColorSpace
  colorDepth : ColorDepth
  colorimetry : HDMIColorimetry
  pixelAspectRatio : PixelAspectRatio
  hdmi3dFormat : HDMI3DVideoStructure
  deriving DecidableEq, Repr

inductive AudioFormat where
  | lpcm | ac3 | mpeg1 | mp3 | mpeg2 | aac | dts | atrac | dsd | dolbyDigitalPlus | dtsHD | mat
  | dst | wamPro
  deriving DecidableEq, Repr

def AudioFormat.toNat (f : AudioFormat) : Nat := f.ctorIdx + 1

inductive LPCMWordLen where
  | word16 | word17 | word18 | word19 | word20 | word21 | word22 | word23 | word24
  deriving DecidableEq, Repr

inductive SamplingFreq where
  | sf32KHz | sf44KHz | sf48KHz | sf88KHz | sf96KHz | sf176KHz | sf192KHz
  deriving DecidableEq, Repr

inductive ChannelNum where
  | ch2 | ch3 | ch4 | ch5 | ch6 | ch7 | ch8
  deriving DecidableEq, Repr

def ChannelNum.toNat (c : ChannelNum) : Nat := c.ctorIdx + 2

structure HDMIAudioParameter where
  formatCode : AudioFormat
  channelNum : ChannelNum
  sampleFreq : SamplingFreq
  wordLength : LPCMWordLen
  deriving DecidableEq, Repr

/-- `struct edid_params`; the pixel clock is the value of the enumerator. -/
structure EdidParams where
  (hTotal hBlank vTotal vBlank vic vic16to9 : Nat)
  interlaced : Bool
  pixelClock : Nat
  deriving DecidableEq, Repr

def aVideoParams : List EdidParams := [
  ⟨800, 160, 525, 45, 1, 1, false, 2520⟩, -- v640x480p_60Hz
  ⟨858, 138, 525, 45, 2, 3, false, 2702⟩, -- v720x480p_60Hz
  ⟨1650, 370, 750, 30, 4, 4, false, 7425⟩, -- v1280x720p_60Hz
  ⟨2200, 280, 1125, 22, 5, 5, true, 7425⟩, -- v1920x1080i_60H
  ⟨1716, 276, 525, 22, 6, 7, true, 7425⟩, -- v720x480i_60Hz
  ⟨1716, 276, 262, 22, 8, 9, false, 2702⟩, -- v720x240p_60Hz
  ⟨3432, 552, 525, 22, 10, 11, true, 5405⟩, -- v2880x480i_60Hz
  ⟨3432, 552, 262, 22, 12, 13, false, 5405⟩, -- v2880x240p_60Hz
  ⟨1716, 276, 525, 45, 14, 15, false, 5405⟩, -- v1440x480p_60Hz
  ⟨2200, 280, 1125, 45, 16, 16, false, 14850⟩, -- v1920x1080p_60H
  ⟨864, 144, 625, 49, 17, 18, false, 2700⟩, -- v720x576p_50Hz
  ⟨1980, 700, 750, 30, 19, 19, false, 7425⟩, -- v1280x720p_50Hz
  ⟨2640, 720, 1125, 22, 20, 20, true, 7425⟩, -- v1920x1080i_50H
  ⟨1728, 288, 625, 24, 21, 22, true, 2700⟩, -- v720x576i_50Hz
  ⟨1728, 288, 312, 24, 23, 24, false, 2700⟩, -- v720x288p_50Hz
  ⟨3456, 576, 625, 24, 25, 26, true, 5400⟩, -- v2880x576i_50Hz
  ⟨3456, 576, 312, 24, 27, 28, false, 5400⟩, -- v2880x288p_50Hz
  ⟨1728, 288, 625, 49, 29, 30, false, 5400⟩, -- v1440x576p_50Hz
  ⟨2640, 720, 1125, 45, 31, 31, false, 14850⟩, -- v1920x1080p_50Hz
  ⟨2750, 830, 1125, 45, 32, 32, false, 7425⟩, -- v1920x1080p_24Hz
  ⟨2640, 720, 1125, 45, 33, 33, false, 7425⟩, -- v1920x1080p_25Hz
  ⟨2200, 280, 1125, 45, 34, 34, false, 7425⟩, -- v1920x1080p_30Hz
  ⟨3432, 552, 525, 45, 35, 36, false, 10810⟩, -- v2880x480p_60Hz
  ⟨3456, 576, 625, 49, 37, 38, false, 10800⟩, -- v2880x576p_50Hz
  ⟨2304, 384, 1250, 85, 39, 39, true, 7200⟩, -- v1920x1080i_50Hz(1250)
  ⟨2640, 720, 1125, 22, 40, 40, true, 14850⟩, -- v1920x1080i_100Hz
  ⟨1980, 700, 750, 30, 41, 41, false, 14850⟩, -- v1280x720p_100Hz
  ⟨864, 144, 625, 49, 42, 43, false, 5400⟩, -- v720x576p_100Hz
  ⟨1728, 288, 625, 24, 44, 45, true, 5400⟩, -- v720x576i_100Hz
  ⟨2200, 280, 1125, 22, 46, 46, true, 14850⟩, -- v1920x1080i_120Hz
  ⟨1650, 370, 750, 30, 47, 47, false, 14850⟩, -- v1280x720p_120Hz
  ⟨858, 138, 525, 54, 48, 49, false, 5405⟩, -- v720x480p_120Hz
  ⟨1716, 276, 525, 22, 50, 51, true, 5405⟩, -- v720x480i_120Hz
  ⟨864, 144, 625, 49, 52, 53, false, 10800⟩, -- v720x576p_200Hz
  ⟨1728, 288, 625, 24, 54, 55, true, 10800⟩, -- v720x576i_200Hz
  ⟨858, 138, 525, 45, 56, 57, false, 10810⟩, -- v720x480p_240Hz
  ⟨1716, 276, 525, 22, 58, 59, true, 10810⟩, -- v720x480i_240Hz
  ⟨3960, 2680, 750, 30, 61, 61, false, 7425⟩, -- v1280x720p25Hz
  ⟨3300, 2020, 750, 30, 62, 62, false, 7425⟩] -- v1280x720p30Hz

/- The table has fewer rows than there are formats. `behind` gives what follows it in memory. -/
variable (behind : Nat → EdidParams)

def videoParams (format : VideoFormat) : EdidParams :=
  aVideoParams[format.ctorIdx]?.getD (behind format.ctorIdx)

def vicOf (format : VideoFormat) (ratio : PixelAspectRatio) : Nat :=
  if ratio = .ratio16to9 then (videoParams behind format).vic16to9
  else (videoParams behind format).vic

def edid3D : List (VideoFormat × HDMI3DVideoStructure) :=
  [(.v1920x1080p24Hz, .fp), (.v1280x720p60Hz, .fp), (.v1920x1080i60Hz, .ssh),
    (.v1920x1080p24Hz, .tb), (.v1280x720p60Hz, .tb), (.v1280x720p50Hz, .fp),
    (.v1920x1080i50Hz, .ssh), (.v1280x720p50Hz, .tb)]

end VideoFormats
