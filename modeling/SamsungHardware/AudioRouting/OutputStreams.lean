import SamsungHardware.AudioRouting.UsecaseRouting

/- Output streams of audio_hw.c and compress_offload.c: starting, stopping and standby, writes,
   pause, resume and flush of a compressed stream, and the routing of `out_set_parameters`. Data,
   time stamps, gapless metadata, the offload thread and voice sessions are left out. -/
namespace OutputStreams
open SoundDevices UsecaseRouting

def isOffload (out : StreamOut) : Bool := out.usecase = .audioPlaybackOffload

structure Granted where
  (calloc callocPcm ready : Bool)
  deriving DecidableEq, Repr

def enomem : Int := 12

def stopCompressedOutput (out : StreamOut) : StreamOut :=
  { out with compr := out.compr.map fun _ => ⟨false⟩ }

/-- The second part says whether the output path is to be disabled. Without the effect library
    (`fx`) the state of the stream stays. -/
def stopOutputOffloadStream (fx : Bool) (out : StreamOut) : StreamOut × Bool :=
  if fx then
    ({ out with offloadState := .idle },
      !(out.offloadState = .paused || out.offloadState = .pausedFlushed))
  else (out, true)

def stopOutputStream (adev : AudioDevice) (r : OutRef) : AudioDevice :=
  let stopped := stopOutputOffloadStream adev.offloadFxStopOutput (adev.outs r)
  let adev := adev.setOut r stopped.1
  if stopped.2 then disableOutputPath adev r else adev

def doOutStandby (adev : AudioDevice) (r : OutRef) : AudioDevice :=
  let out := { adev.outs r with standby := true }
  let out := if isOffload out then { stopCompressedOutput out with compr := none } else out
  stopOutputStream (adev.setOut r out) r

/- A call on a stream whose lock was never given back does not return: `none`. -/

def outStandby (adev : AudioDevice) (r : OutRef) : Option AudioDevice :=
  if (adev.outs r).locked then none
  else if (adev.outs r).standby then some adev
  else some (doOutStandby adev r)

section

variable (misread : StreamOut → InputFields × UsecaseId) (stack : Nat) (adev : AudioDevice)

/-- Only a stream of compressed data opens a compress device, which is not started yet. The flag
    says whether the stream was started. -/
def startOutputStream (r : OutRef) (granted : Granted) : Option (AudioDevice × Bool) :=
  (enableOutputPath misread stack adev r granted.calloc granted.callocPcm).map fun (adev, enabled) =>
    if !enabled then (adev, false)
    else
      let out := adev.outs r
      let compr := if isOffload out && granted.ready then some ⟨false⟩ else none
      let adev := adev.setOut r { out with compr := compr }
      if granted.ready then (adev, true) else (stopOutputStream adev r, false)

/-- With the value of `compress_write`. The failure to enable the path again returns with the
    stream locked. -/
def outWriteOffload (r : OutRef) (granted : Granted) (written : Int) : Option (AudioDevice × Int) :=
  let enabled := if (adev.outs r).offloadState = .pausedFlushed then
      enableOutputPath misread stack adev r granted.calloc granted.callocPcm
    else some (adev, true)
  enabled.map fun (adev, enabled) =>
    let out := adev.outs r
    if !enabled then (adev.setOut r { out with locked := true }, -enomem)
    else if out.offloadState ≠ .playing then
      (adev.setOut r { out with compr := out.compr.map fun _ => ⟨true⟩, offloadState := .playing },
        written)
    else (adev, written)

def leaveStandby (r : OutRef) (granted : Granted) : Option (AudioDevice × Bool) :=
  if (adev.outs r).standby then
    (startOutputStream misread stack adev r granted).map fun (adev, started) =>
      if started then (adev.setOut r { adev.outs r with standby := false }, true) else (adev, false)
  else some (adev, true)

/-- `written` is the value of `compress_write`, or the status of the last `pcm_write` that failed.
    `again` is what is granted when the path is enabled again after a flush. -/
def outWrite (r : OutRef) (bytes : Nat) (start again : Granted)
    (written : Int) : Option (AudioDevice × Int) :=
  if (adev.outs r).locked then none
  else
    (leaveStandby misread stack adev r start).bind fun (adev, running) =>
      let out := adev.outs r
      if running && isOffload out then outWriteOffload misread stack adev r again written
      else if running && (out.pcmDevList.isEmpty || written = 0) then some (adev, bytes)
      else (outStandby adev r).map (·, (bytes : Int))

end

section

variable (misread : StreamOut → InputFields × UsecaseId) (stack : Nat) (adev : AudioDevice)

def onOffload (r : OutRef) (act : StreamOut → Option AudioDevice) : Option AudioDevice :=
  let out := adev.outs r
  if !isOffload out then some adev else if out.locked then none else act out

def outPause (r : OutRef) : Option AudioDevice :=
  onOffload adev r fun out =>
    if out.compr ≠ none ∧ out.offloadState = .playing then
      some (disableOutputPath (adev.setOut r { out with offloadState := .paused }) r)
    else some adev

/-- Whether the path was enabled is not looked at. -/
def outResume (r : OutRef) (granted : Granted) : Option AudioDevice :=
  onOffload adev r fun out =>
    if out.compr ≠ none ∧ out.offloadState = .paused then
      (enableOutputPath misread stack adev r granted.calloc granted.callocPcm).map fun (adev, _) =>
        adev.setOut r { adev.outs r with offloadState := .playing }
    else some adev

def outFlush (r : OutRef) : Option AudioDevice :=
  onOffload adev r fun out =>
    if out.offloadState = .paused then
      some (adev.setOut r { stopCompressedOutput out with offloadState := .pausedFlushed })
    else some adev

end

variable (misread : StreamOut → InputFields × UsecaseId) (stack : Nat)

/-- The loop over the PCM profiles of the stream: each has to serve a part of the routing, and all
    together the whole of it. -/
def needsStandby : List Mask → Mask → Bool
  | [], val => val != 0
  | profile :: profiles, val =>
    profile &&& val == 0 || needsStandby profiles (val &&& ~~~profile)

variable (adev : AudioDevice)

/-- Takes the use case at place `i` from the combined device to the headphones. -/
def outSetOffloadParameters (i : Nat) : AudioDevice :=
  match adev.usecaseList[i]? with
  | none => adev
  | some uc =>
    if uc.outSndDevice = some .speakerAndHeadphones then
      { adev with usecaseList := adev.usecaseList.modify i fun uc =>
          { uc with outSndDevice := some .headphones } }.disable (.out .speaker)
    else adev

def routeStream (r : OutRef) (val : Mask) : Option AudioDevice :=
  let out := adev.outs r
  match indexOf adev.usecaseList (.playback out.usecase) with
  | none => selectDevices misread stack adev (.playback out.usecase)
  | some i =>
    if needsStandby out.pcmDevList val then some (doOutStandby adev r)
    else
      let adev := if isOffload out then outSetOffloadParameters adev i else adev
      selectDevices misread stack adev (.playback out.usecase)

def toggleBtSco (devices : Mask) : AudioDevice :=
  if (adev.session.mode = .inCommunication ∨ adev.session.mode = .inCall) ∧
      devices.has outAllSco ∧ !adev.btScoActive then
    { adev with btScoActive := true }
  else if !devices.has outAllSco ∧ adev.btScoActive then { adev with btScoActive := false }
  else adev

/-- During a call the routing of the primary output starts the voice call, again if it runs. -/
def restartVoiceCall (r : OutRef) (calloc : Bool) : Option AudioDevice :=
  if adev.session.mode = .inCall ∧ some r = adev.primaryOutput then
    startVoiceCall misread stack (if adev.inCall then stopVoiceCall adev else adev) calloc
  else some adev

def outSetParameters (r : OutRef) (val : Mask) (calloc : Bool) : Option AudioDevice :=
  if (adev.outs r).locked then none
  else if val = 0 then some adev
  else
    let adev := adev.setOut r { adev.outs r with devices := val }
    let routed := if (adev.outs r).standby then some adev else routeStream misread stack adev r val
    routed.bind fun adev =>
      restartVoiceCall misread stack (toggleBtSco adev (adev.outs r).devices) r calloc

end OutputStreams
