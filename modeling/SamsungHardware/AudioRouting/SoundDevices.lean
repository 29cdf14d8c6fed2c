import Mathlib

/- Sound devices of audio_hw.h and the functions of audio_hw.c that choose one for a set of audio
   devices. An audio device set is a mask of `audio_devices_t` bits as in system/audio.h;
   `SND_DEVICE_NONE` is `none`. -/
namespace SoundDevices

inductive OutDevice where
  | earpiece | speaker | headphones | speakerAndHeadphones | voiceEarpiece | voiceEarpieceWb
  | voiceSpeaker | voiceSpeakerWb | voiceHeadphones | voiceHeadphonesWb | voiceBtSco | voiceBtScoWb
  | hdmi | speakerAndHdmi | btSco
  deriving DecidableEq, Repr

inductive InDevice where
  | earpieceMic | speakerMic | headsetMic | earpieceMicAec | speakerMicAec | headsetMicAec
  | voiceMic | voiceEarpieceMic | voiceEarpieceMicWb | voiceSpeakerMic | voiceSpeakerMicWb
  | voiceHeadsetMic | voiceHeadsetMicWb | voiceBtScoMic | voiceBtScoMicWb | hdmiMic | btScoMic
  | camcorderMic | voiceRecHeadsetMic | voiceRecMic
  deriving DecidableEq, Repr

inductive SndDevice where
  | none
  | out (d : OutDevice)
  | inp (d : InDevice)
  deriving DecidableEq, Repr

def SndDevice.ofOut : Option OutDevice → SndDevice
  | Option.none => .none
  | some d => .out d

def SndDevice.ofIn : Option InDevice → SndDevice
  | Option.none => .none
  | some d => .inp d

abbrev Mask := BitVec 32

def audioDeviceBitIn : Mask := 0x80000000

def outEarpiece : Mask := 0x1
def outSpeaker : Mask := 0x2
def outWiredHeadset : Mask := 0x4
def outWiredHeadphone : Mask := 0x8
def outBluetoothScoHeadset : Mask := 0x20
def outAllSco : Mask := 0x70

def inCommunication : Mask := audioDeviceBitIn ||| 0x1
def inBuiltinMic : Mask := audioDeviceBitIn ||| 0x4
def inBluetoothScoHeadset : Mask := audioDeviceBitIn ||| 0x8
def inWiredHeadset : Mask := audioDeviceBitIn ||| 0x10
def inAuxDigital : Mask := audioDeviceBitIn ||| 0x20
def inVoiceCall : Mask := audioDeviceBitIn ||| 0x40
def inBackMic : Mask := audioDeviceBitIn ||| 0x80

/-- The C condition `devices & mask`. -/
def Mask.has (devices mask : Mask) : Bool := devices &&& mask != 0

def popcount (devices : Mask) : Nat := (List.range 32).countP fun i => devices.getLsbD i

inductive AudioMode where
  | normal
  | ringtone
  | inCall
  | inCommunication
  deriving DecidableEq, Repr

inductive AudioSource where
  | default | mic | voiceUplink | voiceDownlink | voiceCall | camcorder | voiceRecognition
  | voiceCommunication | other
  deriving DecidableEq, Repr

structure Session where
  mode : AudioMode
  (wideband twoMicControl twoMicDisabled : Bool)
  deriving DecidableEq, Repr

variable (s : Session)

def prepareVoiceSession (activeOutDevices : Mask) : Session :=
  { s with twoMicControl :=
      !s.twoMicDisabled && (activeOutDevices == outEarpiece || activeOutDevices == outSpeaker) }

def Session.twomic : Bool := !s.twoMicDisabled && s.twoMicControl

/-- The device of a call for a set of outputs: the wide band variant replaces the other one. -/
def voiceOutDevice (devices : Mask) : Option OutDevice :=
  if Mask.has devices outWiredHeadphone || Mask.has devices outWiredHeadset then
    some (if s.wideband then .voiceHeadphonesWb else .voiceHeadphones)
  else if Mask.has devices outAllSco then
    some (if s.wideband then .voiceBtScoWb else .voiceBtSco)
  else if Mask.has devices outSpeaker then
    some (if s.wideband then .voiceSpeakerWb else .voiceSpeaker)
  else if Mask.has devices outEarpiece then
    some (if s.wideband then .voiceEarpieceWb else .voiceEarpiece)
  else none

def mediaOutDevice (devices : Mask) : Option OutDevice :=
  if popcount devices = 2 then
    if devices = outWiredHeadphone ||| outSpeaker then some .speakerAndHeadphones
    else if devices = outWiredHeadset ||| outSpeaker then some .speakerAndHeadphones
    else none
  else if popcount devices ≠ 1 then none
  else if Mask.has devices outWiredHeadphone || Mask.has devices outWiredHeadset then
    some .headphones
  else if Mask.has devices outSpeaker then some .speaker
  else if Mask.has devices outAllSco then some .btSco
  else if Mask.has devices outEarpiece then some .earpiece
  else none

def getOutputSndDevice (devices : Mask) : Option OutDevice :=
  if devices = 0 || Mask.has devices audioDeviceBitIn then none
  else
    let voice := if s.mode = .inCall then voiceOutDevice s devices else none
    voice.or (mediaOutDevice devices)

structure InputFields where
  source : AudioSource
  devices : Mask
  enableAec : Bool
  deriving DecidableEq, Repr

/-- The microphone of a call: later assignments of the source replace earlier ones. -/
def voiceInDevice (outDevice : Mask) : InDevice :=
  if Mask.has outDevice outAllSco then
    if s.wideband then .voiceBtScoMicWb else .voiceBtScoMic
  else if s.twomic && (Mask.has outDevice outEarpiece || Mask.has outDevice outWiredHeadphone) then
    if s.wideband then .voiceEarpieceMicWb else .voiceEarpieceMic
  else if s.twomic && Mask.has outDevice outSpeaker then
    if s.wideband then .voiceSpeakerMicWb else .voiceSpeakerMic
  else if Mask.has outDevice outWiredHeadset then
    if s.wideband then .voiceHeadsetMicWb else .voiceHeadsetMic
  else .voiceMic

/-- The choice by source: a device, and the input devices as they are then changed. -/
def sourceInDevice (active : Option InputFields) (source : AudioSource)
    (inDevice outDevice : Mask) : Option InDevice × Mask :=
  match source with
  | .camcorder =>
    (if Mask.has inDevice inBuiltinMic || Mask.has inDevice inBackMic then some .camcorderMic
      else none, inDevice)
  | .voiceRecognition =>
    (if Mask.has inDevice inBuiltinMic then some .voiceRecMic
      else if Mask.has inDevice inWiredHeadset then some .voiceRecHeadsetMic
      else none, inDevice)
  | .voiceCommunication | .mic =>
    let inDevice := if Mask.has outDevice outSpeaker then inBackMic else inDevice
    let aec := match active with
      | none => none
      | some input =>
        if !input.enableAec then none
        else if Mask.has inDevice inBackMic then some .speakerMicAec
        else if Mask.has inDevice inBuiltinMic then
          if Mask.has outDevice outWiredHeadphone then some .speakerMicAec
          else some .earpieceMicAec
        else if Mask.has inDevice inWiredHeadset then some .headsetMicAec
        else none
    (aec, inDevice)
  | _ => (none, inDevice)

def deviceInDevice (inDevice outDevice : Mask) : InDevice :=
  if inDevice ≠ 0 && !Mask.has inDevice inVoiceCall && !Mask.has inDevice inCommunication then
    if Mask.has inDevice inBuiltinMic then .earpieceMic
    else if Mask.has inDevice inBackMic then .speakerMic
    else if Mask.has inDevice inWiredHeadset then .headsetMic
    else if Mask.has inDevice inBluetoothScoHeadset then .btScoMic
    else if Mask.has inDevice inAuxDigital then .hdmiMic
    else .earpieceMic
  else if Mask.has outDevice outEarpiece then .earpieceMic
  else if Mask.has outDevice outWiredHeadset then .headsetMic
  else if Mask.has outDevice outSpeaker then .speakerMic
  else if Mask.has outDevice outWiredHeadphone then .earpieceMic
  else if Mask.has outDevice outBluetoothScoHeadset then .btScoMic
  else .earpieceMic

/-- `active` is the stream of the first use case that records or is a call. -/
def getInputSndDevice (active : Option InputFields) (outDevice : Mask) : Option InDevice :=
  let source := (active.map (·.source)).getD .default
  let inDevice := (active.map (·.devices &&& ~~~audioDeviceBitIn)).getD 0
  if s.mode = .inCall then
    if outDevice = 0 then none else some (voiceInDevice s outDevice)
  else if source = .default then none
  else
    let (device, inDevice) := sourceInDevice active source inDevice outDevice
    some (device.getD (deviceInDevice inDevice outDevice))

def pcmDevicePlayback : Mask :=
  outWiredHeadset ||| outWiredHeadphone ||| outSpeaker ||| outEarpiece ||| outAllSco

def pcmDeviceCapture : Mask :=
  inBuiltinMic ||| inWiredHeadset ||| inBackMic ||| inBluetoothScoHeadset

end SoundDevices
