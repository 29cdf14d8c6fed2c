import SamsungHardware.AudioRouting.SoundDevices

/- The use case list of audio_hw.c and the functions that route it: reference counts of the sound
   devices, `check_and_route_usecases`, `select_devices` and the functions that start and stop
   output paths, input streams and voice calls. Mixer paths and the amplifier are left out. -/
namespace UsecaseRouting
open SoundDevices List

inductive PlaybackUsecase where
  | audioPlayback
  | audioPlaybackMultiCh
  | audioPlaybackOffload
  | audioPlaybackDeepBuffer
  deriving DecidableEq, Repr

inductive UsecaseId where
  | playback (id : PlaybackUsecase)
  | audioCapture
  | voiceCall
  deriving DecidableEq, Repr

inductive UsecaseType where
  | pcmPlayback
  | pcmCapture
  | voiceCall
  deriving DecidableEq, Repr

/- Streams are named by their addresses. -/
abbrev OutRef := Nat
abbrev InRef := Nat

inductive UsecaseKind where
  | playback (id : PlaybackUsecase) (stream : OutRef)
  | capture (stream : InRef)
  | voiceCall (stream : OutRef)
  deriving DecidableEq, Repr

structure Usecase where
  kind : UsecaseKind
  devices : Mask
  outSndDevice : Option OutDevice
  inSndDevice : Option InDevice
  deriving DecidableEq, Repr

def UsecaseKind.id : UsecaseKind → UsecaseId
  | .playback id _ => .playback id
  | .capture _ => .audioCapture
  | .voiceCall _ => .voiceCall

def UsecaseKind.type : UsecaseKind → UsecaseType
  | .playback _ _ => .pcmPlayback
  | .capture _ => .pcmCapture
  | .voiceCall _ => .voiceCall

def Usecase.id (uc : Usecase) : UsecaseId := uc.kind.id

def Usecase.type (uc : Usecase) : UsecaseType := uc.kind.type

inductive OffloadState where
  | idle
  | playing
  | paused
  | pausedFlushed
  deriving DecidableEq, Repr

structure Compress where
  started : Bool
  deriving DecidableEq, Repr

structure StreamOut where
  usecase : PlaybackUsecase
  devices : Mask
  standby : Bool
  pcmDevList : List Mask
  offloadState : OffloadState
  compr : Option Compress
  locked : Bool
  deriving DecidableEq, Repr

structure StreamIn where
  source : AudioSource
  devices : Mask
  enableAec : Bool
  deriving DecidableEq, Repr

abbrev RefCnt := SndDevice → Int

structure AudioDevice where
  usecaseList : List Usecase
  sndDevRefCnt : RefCnt
  session : Session
  (inCall btScoActive : Bool)
  primaryOutput : Option OutRef
  offloadFxStopOutput : Bool
  outs : OutRef → StreamOut
  ins : InRef → StreamIn

def getUsecaseFromId (list : List Usecase) (id : UsecaseId) : Option Usecase :=
  list.find? fun uc => uc.id = id

def indexOf (list : List Usecase) (id : UsecaseId) : Option Nat :=
  list.findIdx? fun uc => uc.id = id

def countUp (cnt : RefCnt) (d : SndDevice) : RefCnt := Function.update cnt d (cnt d + 1)

/-- A count that is not positive is reported as an error and left as it is. -/
def countDown (cnt : RefCnt) (d : SndDevice) : RefCnt :=
  if cnt d ≤ 0 then cnt else Function.update cnt d (cnt d - 1)

def enableSndDevice (cnt : RefCnt) (d : SndDevice) : RefCnt :=
  if d = .out .speakerAndHeadphones then
    countUp (countUp cnt (.out .speaker)) (.out .headphones)
  else countUp cnt d

def disableSndDevice (cnt : RefCnt) (d : SndDevice) : RefCnt :=
  if d = .out .speakerAndHeadphones then
    countDown (countDown cnt (.out .speaker)) (.out .headphones)
  else countDown cnt d

section

inductive Target where
  | playback (d : OutDevice)
  | capture (d : InDevice)
  deriving DecidableEq, Repr

def Target.type : Target → UsecaseType
  | .playback _ => .pcmPlayback
  | .capture _ => .pcmCapture

def Target.sndDevice : Target → SndDevice
  | .playback d => .out d
  | .capture d => .inp d

def Target.current (t : Target) (uc : Usecase) : SndDevice :=
  match t with
  | .playback _ => .ofOut uc.outSndDevice
  | .capture _ => .ofIn uc.inSndDevice

def Target.move (t : Target) (uc : Usecase) : Usecase :=
  match t with
  | .playback d => { uc with outSndDevice := some d }
  | .capture d => { uc with inSndDevice := some d }

def switchDevice (list : List Usecase) (ucInfo : Nat) (t : Target) (id : UsecaseId) : Bool :=
  list.zipIdx.any fun (uc, i) =>
    uc.id = id && uc.type = t.type && i != ucInfo && t.current uc != t.sndDevice

def switchAll (switch : UsecaseId → Bool) (t : Target) :
    List Usecase → RefCnt → List Usecase × RefCnt
  | [], cnt => ([], cnt)
  | uc :: list, cnt =>
    if switch uc.id then
      let rest := switchAll switch t list
        (enableSndDevice (disableSndDevice cnt (t.current uc)) t.sndDevice)
      (t.move uc :: rest.1, rest.2)
    else
      let rest := switchAll switch t list cnt
      (uc :: rest.1, rest.2)

variable (adev : AudioDevice)

def checkAndRouteUsecases (ucInfo : Nat) (t : Target) : AudioDevice :=
  let routed := switchAll (switchDevice adev.usecaseList ucInfo t) t adev.usecaseList
    adev.sndDevRefCnt
  { adev with usecaseList := routed.1, sndDevRefCnt := routed.2 }

def AudioDevice.enable (d : SndDevice) : AudioDevice :=
  { adev with sndDevRefCnt := enableSndDevice adev.sndDevRefCnt d }

def AudioDevice.disable (d : SndDevice) : AudioDevice :=
  { adev with sndDevRefCnt := disableSndDevice adev.sndDevRefCnt d }

def AudioDevice.routeTo (ucInfo : Nat) (t : Target) : AudioDevice :=
  (checkAndRouteUsecases adev ucInfo t).enable t.sndDevice

def AudioDevice.giveUp (uc : Usecase) : AudioDevice :=
  let adev := if uc.outSndDevice ≠ none then adev.disable (.ofOut uc.outSndDevice) else adev
  if uc.inSndDevice ≠ none then adev.disable (.ofIn uc.inSndDevice) else adev

def AudioDevice.routeIf (ucInfo : Nat) : Option Target → AudioDevice
  | none => adev
  | some t => adev.routeTo ucInfo t

def AudioDevice.assign (i : Nat) (out : Option OutDevice) (inp : Option InDevice) : AudioDevice :=
  { adev with usecaseList := adev.usecaseList.modify i fun uc =>
      { uc with inSndDevice := inp, outSndDevice := out } }

def reroute (i : Nat) (uc : Usecase) (out : Option OutDevice)
    (inp : Option InDevice) : AudioDevice :=
  let adev := adev.giveUp uc
  let adev := adev.routeIf i (out.map .playback)
  let adev := adev.routeIf i (inp.map .capture)
  adev.assign i out inp

def switchDevices (i : Nat) (out : Option OutDevice) (inp : Option InDevice) : AudioDevice :=
  match adev.usecaseList[i]? with
  | none => adev
  | some uc =>
    if out = uc.outSndDevice ∧ inp = uc.inSndDevice then adev else reroute adev i uc out inp

end

section

/- A use case of a voice call points at an output stream, but is read as an input stream when it
   is the first that records or is a call. `misread` gives what the fields of a `struct stream_in`
   are in the memory of an output stream; `stack` bounds the nested calls. -/
variable (misread : StreamOut → InputFields × UsecaseId) (stack : Nat) (adev : AudioDevice)

def asInput : UsecaseKind → InputFields × UsecaseId
  | .capture stream =>
    let input := adev.ins stream
    (⟨input.source, input.devices, input.enableAec⟩, .audioCapture)
  | .playback _ stream => misread (adev.outs stream)
  | .voiceCall stream => misread (adev.outs stream)

def activeInput : Option (InputFields × UsecaseId) :=
  (adev.usecaseList.find? fun uc => uc.type = .pcmCapture || uc.type = .voiceCall).map
    fun uc => asInput misread adev uc.kind

def callDevices (uc : Usecase) : Option OutDevice × Option InDevice :=
  if uc.type ≠ .voiceCall ∧ adev.inCall then
    match getUsecaseFromId adev.usecaseList .voiceCall with
    | none => (none, none)
    | some call => (call.outSndDevice, call.inSndDevice)
  else (none, none)

def AudioDevice.setDevices (i : Nat) (devices : Mask) : AudioDevice :=
  { adev with usecaseList := adev.usecaseList.modify i fun uc => { uc with devices := devices } }

def voiceCallDevices (devices : Mask) : Option OutDevice × Option InDevice :=
  (getOutputSndDevice adev.session devices,
    getInputSndDevice adev.session ((activeInput misread adev).map (·.1)) devices)

def captureDevice (call : Option InDevice) : Option InDevice :=
  match call with
  | some d => some d
  | none =>
    let active := (activeInput misread adev).map (·.1)
    match adev.primaryOutput with
    | none => getInputSndDevice adev.session active 0
    | some primary =>
      if active.map (·.source) = some AudioSource.voiceCommunication ∧ !(adev.outs primary).standby then
        getInputSndDevice adev.session active (adev.outs primary).devices
      else getInputSndDevice adev.session active 0

def communicationInput (stream : OutRef) : Option UsecaseId :=
  match activeInput misread adev with
  | none => none
  | some active =>
    if some stream = adev.primaryOutput ∧ active.1.source = .voiceCommunication then some active.2
    else none

/-- `none` when the nested calls do not end. -/
def selectDevices : Nat → AudioDevice → UsecaseId → Option AudioDevice
  | 0, _, _ => none
  | depth + 1, adev, ucId =>
    match indexOf adev.usecaseList ucId with
    | none => some adev
    | some i =>
      match adev.usecaseList[i]? with
      | none => some adev
      | some uc =>
        match uc.kind with
        | .voiceCall stream =>
          let devices := (adev.outs stream).devices
          let adev := adev.setDevices i devices
          let adev := { adev with session := prepareVoiceSession adev.session devices }
          let chosen := voiceCallDevices misread adev devices
          some (switchDevices adev i chosen.1 chosen.2)
        | .playback _ stream =>
          let adev := adev.setDevices i (adev.outs stream).devices
          match (callDevices adev uc).1 with
          | some d => some (switchDevices adev i (some d) none)
          | none =>
            let out := getOutputSndDevice adev.session (adev.outs stream).devices
            let nested := match communicationInput misread adev stream with
              | some id => selectDevices depth adev id
              | none => some adev
            nested.map fun adev => switchDevices adev i out none
        | .capture stream =>
          let inp := captureDevice misread adev (callDevices adev uc).2
          some (switchDevices (adev.setDevices i (adev.ins stream).devices) i none inp)

def AudioDevice.add (uc : Usecase) : AudioDevice :=
  { adev with usecaseList := adev.usecaseList ++ [uc] }

def AudioDevice.remove (i : Nat) : AudioDevice :=
  { adev with usecaseList := adev.usecaseList.eraseIdx i }

def AudioDevice.setOut (r : OutRef) (out : StreamOut) : AudioDevice :=
  { adev with outs := Function.update adev.outs r out }

def ucSelectPcmDevices (devices : Mask) (calloc : Bool) : List Mask :=
  if calloc ∧ devices &&& ~~~audioDeviceBitIn &&& pcmDevicePlayback ≠ 0 then [pcmDevicePlayback]
  else []

/-- Fails without memory for the use case; a failure for the PCM device is not noticed. -/
def enableOutputPath (r : OutRef) (calloc callocPcm : Bool) : Option (AudioDevice × Bool) :=
  if !calloc then some (adev, false)
  else
    let out := adev.outs r
    let adev := adev.setOut r { out with pcmDevList := ucSelectPcmDevices out.devices callocPcm }
    let adev := adev.add ⟨.playback out.usecase r, out.devices, none, none⟩
    (selectDevices misread stack adev (.playback out.usecase)).map (·, true)

/-- The stream whose PCM devices are released is the one of the use case. -/
def disableOutputPath (r : OutRef) : AudioDevice :=
  match indexOf adev.usecaseList (.playback (adev.outs r).usecase) with
  | none => adev
  | some i =>
    match adev.usecaseList[i]? with
    | none => adev
    | some uc =>
      let adev := adev.disable (.ofOut uc.outSndDevice)
      let adev := match uc.kind with
        | .playback _ stream => adev.setOut stream { adev.outs stream with pcmDevList := [] }
        | _ => adev
      adev.remove i

def stopInputStream : AudioDevice :=
  match indexOf adev.usecaseList .audioCapture with
  | none => adev
  | some i =>
    match adev.usecaseList[i]? with
    | none => adev
    | some uc => (adev.disable (.ofIn uc.inSndDevice)).remove i

/-- The flags say whether the two allocations and the opening of the PCM device succeed. -/
def startInputStream (r : InRef) (calloc callocPcm ready : Bool) : Option AudioDevice :=
  let input := adev.ins r
  if input.devices &&& ~~~audioDeviceBitIn &&& pcmDeviceCapture = 0 ∨ !calloc ∨ !callocPcm then
    some adev
  else
    let adev := adev.add ⟨.capture r, input.devices, none, none⟩
    (selectDevices misread stack adev .audioCapture).map fun adev =>
      if ready then adev else stopInputStream adev

def stopVoiceCall : AudioDevice :=
  let adev := { adev with inCall := false }
  match indexOf adev.usecaseList .voiceCall with
  | none => adev
  | some i =>
    match adev.usecaseList[i]? with
    | none => adev
    | some uc =>
      ((adev.disable (.ofOut uc.outSndDevice)).disable (.ofIn uc.inSndDevice)).remove i

/-- Without a primary output the source follows a null pointer. -/
def startVoiceCall (calloc : Bool) : Option AudioDevice :=
  if !calloc then some adev
  else
    match adev.primaryOutput with
    | none => none
    | some primary =>
      let adev := { adev with inCall := true }
      let adev := adev.add ⟨.voiceCall primary, (adev.outs primary).devices, none, none⟩
      selectDevices misread stack adev .voiceCall

end

variable {misread : StreamOut → InputFields × UsecaseId}
  {list : List Usecase} {id : UsecaseId} {i : Nat} {f : Usecase → Usecase}
  {adev : AudioDevice}

theorem indexOf_some (found : indexOf list id = some i) :
    ∃ uc, list[i]? = some uc ∧ uc.id = id := by
  obtain ⟨inside, here, _⟩ := findIdx?_eq_some_iff_getElem.mp found
  exact ⟨list[i], getElem?_eq_getElem inside, of_decide_eq_true here⟩

theorem indexOf_none : indexOf list id = none ↔ ∀ uc ∈ list, uc.id ≠ id := by
  simp [indexOf]

theorem switchDevice_iff {t : Target} :
    switchDevice list i t id = true ↔ ∃ j uc, list[j]? = some uc ∧ uc.id = id ∧
      uc.type = t.type ∧ j ≠ i ∧ t.current uc ≠ t.sndDevice := by
  unfold switchDevice
  rw [any_eq_true]
  constructor
  · intro marked
    obtain ⟨⟨uc, j⟩, member, conditions⟩ := marked
    rw [mk_mem_zipIdx_iff_getElem?] at member
    simp only [Bool.and_eq_true, decide_eq_true_eq, bne_iff_ne] at conditions
    obtain ⟨⟨⟨same, type⟩, other⟩, elsewhere⟩ := conditions
    exact ⟨j, uc, member, same, type, other, elsewhere⟩
  · intro found
    obtain ⟨j, uc, member, same, type, other, elsewhere⟩ := found
    refine ⟨(uc, j), mk_mem_zipIdx_iff_getElem?.mpr member, ?_⟩
    simp only [Bool.and_eq_true, decide_eq_true_eq, bne_iff_ne]
    exact ⟨⟨⟨same, type⟩, other⟩, elsewhere⟩

theorem forall_modify {P : Usecase → Prop} (all : ∀ uc ∈ list, P uc)
    (here : ∀ uc, list[i]? = some uc → P (f uc)) : ∀ uc ∈ list.modify i f, P uc := by
  intro uc member
  obtain ⟨j, there⟩ := mem_iff_getElem?.mp member
  rw [getElem?_modify, Option.map_eq_map, Option.map_eq_some_iff] at there
  obtain ⟨old, present, changed⟩ := there
  by_cases same : i = j
  · rw [if_pos same] at changed
    exact changed ▸ here old (same ▸ present)
  · rw [if_neg same] at changed
    exact changed ▸ all old (mem_of_getElem? present)

def kinds (list : List Usecase) : List UsecaseKind := list.map (·.kind)

theorem kinds_modify (same : ∀ uc, (f uc).kind = uc.kind) (i : Nat) :
    kinds (list.modify i f) = kinds list := by
  induction list generalizing i with
  | nil => cases i <;> rfl
  | cons uc list ih =>
    cases i with
    | zero => exact congrArg (· :: kinds list) (same uc)
    | succ i => exact congrArg (uc.kind :: ·) (ih i)

theorem kinds_get {list list' : List Usecase} (same : kinds list' = kinds list) {uc : Usecase}
    (here : list[i]? = some uc) : ∃ uc', list'[i]? = some uc' ∧ uc'.kind = uc.kind := by
  have there : (kinds list')[i]? = some uc.kind := by
    rw [same, kinds, getElem?_map, here]
    rfl
  rw [kinds, getElem?_map, Option.map_eq_some_iff] at there
  exact there

theorem Target.move_kind (t : Target) (uc : Usecase) : (t.move uc).kind = uc.kind := by
  cases t <;> rfl

theorem switchAll_list (switch : UsecaseId → Bool) (t : Target) (list : List Usecase) :
    ∀ cnt, (switchAll switch t list cnt).1 =
      list.map fun uc => if switch uc.id then t.move uc else uc := by
  induction list with
  | nil => intro cnt; rfl
  | cons uc list ih =>
    intro cnt
    rw [switchAll, map_cons]
    split
    · exact congrArg (t.move uc :: ·) (ih _)
    · exact congrArg (uc :: ·) (ih _)

section

variable (adev)

theorem routeTo_kinds (i : Nat) (t : Target) :
    kinds (adev.routeTo i t).usecaseList = kinds adev.usecaseList := by
  change kinds (switchAll _ t adev.usecaseList _).1 = _
  rw [switchAll_list, kinds, map_map, kinds]
  apply map_congr_left
  intro uc _
  dsimp only [Function.comp]
  split
  · exact t.move_kind uc
  · rfl

theorem routeIf_kinds (i : Nat) (target : Option Target) :
    kinds (adev.routeIf i target).usecaseList = kinds adev.usecaseList := by
  cases target with
  | none => rfl
  | some t => exact routeTo_kinds adev i t

theorem giveUp_list (uc : Usecase) :
    (adev.giveUp uc).usecaseList = adev.usecaseList := by
  unfold AudioDevice.giveUp
  split <;> split <;> rfl

theorem assign_kinds (i : Nat) (out : Option OutDevice)
    (inp : Option InDevice) :
    kinds (adev.assign i out inp).usecaseList = kinds adev.usecaseList :=
  kinds_modify (fun _ => by rfl) i

theorem reroute_kinds (i : Nat) (uc : Usecase) (out : Option OutDevice)
    (inp : Option InDevice) :
    kinds (reroute adev i uc out inp).usecaseList = kinds adev.usecaseList := by
  rw [reroute, assign_kinds, routeIf_kinds, routeIf_kinds, giveUp_list]

theorem switchDevices_kinds (i : Nat) (out : Option OutDevice)
    (inp : Option InDevice) :
    kinds (switchDevices adev i out inp).usecaseList = kinds adev.usecaseList := by
  unfold switchDevices
  split
  · rfl
  · split
    · rfl
    · exact reroute_kinds adev i _ out inp

theorem setDevices_kinds (i : Nat) (devices : Mask) :
    kinds (adev.setDevices i devices).usecaseList = kinds adev.usecaseList :=
  kinds_modify (fun _ => by rfl) i

end

/-- Everything that `select_devices` does to the audio device: it records devices, prepares the
    voice session and switches a use case. A use case that plays gets no input device, and one
    that records no output device. -/
theorem selectDevices_keeps {P : AudioDevice → Prop}
    (record : ∀ adev i devices, P adev → P (adev.setDevices i devices))
    (prepare : ∀ adev session, P adev → P { adev with session := session })
    (switch : ∀ adev i uc out inp, adev.usecaseList[i]? = some uc →
      (uc.type = .pcmPlayback → inp = none) → (uc.type = .pcmCapture → out = none) → P adev →
      P (switchDevices adev i out inp)) :
    ∀ depth adev id adev', selectDevices misread depth adev id = some adev' → P adev →
      P adev' ∧ kinds adev'.usecaseList = kinds adev.usecaseList := by
  intro depth
  induction depth with
  | zero =>
    intro adev id adev' selected
    cases selected
  | succ depth ih =>
    intro adev id adev' selected start
    rw [selectDevices] at selected
    cases place : indexOf adev.usecaseList id with
    | none =>
      rw [place] at selected
      cases selected
      exact ⟨start, rfl⟩
    | some i =>
      obtain ⟨uc, here, _⟩ := indexOf_some place
      -- the entry stays of its kind while devices are recorded and nested calls are made
      have switched : ∀ a out inp, kinds a.usecaseList = kinds adev.usecaseList →
          (uc.kind.type = .pcmPlayback → inp = none) →
          (uc.kind.type = .pcmCapture → out = none) → P a → P (switchDevices a i out inp) ∧
            kinds (switchDevices a i out inp).usecaseList = kinds adev.usecaseList := by
        intro a out inp same plays records known
        obtain ⟨uc', here', kind⟩ := kinds_get same here
        have type : uc'.type = uc.kind.type := congrArg UsecaseKind.type kind
        refine ⟨switch a i uc' out inp here' ?_ ?_ known, (switchDevices_kinds a i out inp).trans same⟩
        · rw [type]
          exact plays
        · rw [type]
          exact records
      simp only [place, here] at selected
      cases kind : uc.kind with
      | voiceCall stream =>
        simp only [kind, Option.some.injEq] at selected switched
        rw [← selected]
        exact switched _ _ _ (setDevices_kinds adev i _) nofun nofun
          (prepare _ _ (record _ _ _ start))
      | playback play stream =>
        simp only [kind] at selected switched
        have recorded := record adev i (adev.outs stream).devices start
        have same := setDevices_kinds adev i (adev.outs stream).devices
        split at selected
        · cases selected
          exact switched _ _ _ same (fun _ => rfl) nofun recorded
        · obtain ⟨a, nested, done⟩ := Option.map_eq_some_iff.mp selected
          have inner : P a ∧ kinds a.usecaseList = kinds adev.usecaseList := by
            split at nested
            · obtain ⟨known, kept⟩ := ih _ _ _ nested recorded
              exact ⟨known, kept.trans same⟩
            · cases nested
              exact ⟨recorded, same⟩
          rw [← done]
          exact switched _ _ _ inner.2 (fun _ => rfl) nofun inner.1
      | capture stream =>
        simp only [kind, Option.some.injEq] at selected switched
        rw [← selected]
        exact switched _ _ _ (setDevices_kinds adev i _) nofun (fun _ => rfl) (record _ _ _ start)

theorem selectDevices_capture (misread : StreamOut → InputFields × UsecaseId)
    (adev : AudioDevice) (depth : Nat) :
    ∃ adev', selectDevices misread (depth + 1) adev .audioCapture = some adev' := by
  rw [selectDevices]
  cases place : indexOf adev.usecaseList .audioCapture with
  | none => exact ⟨adev, rfl⟩
  | some i =>
    obtain ⟨⟨kind, _, _, _⟩, here, id⟩ := indexOf_some place
    dsimp only
    rw [here]
    cases kind with
    | capture stream => exact ⟨_, rfl⟩
    | playback _ _ => cases id
    | voiceCall _ => cases id

theorem communicationInput_capture (noCall : ∀ uc ∈ adev.usecaseList, uc.type ≠ .voiceCall)
    {stream : OutRef} (nested : communicationInput misread adev stream = some id) :
    id = .audioCapture := by
  unfold communicationInput at nested
  split at nested
  · cases nested
  · rename_i active found
    obtain ⟨uc, first, rfl⟩ := Option.map_eq_some_iff.mp found
    have type := find?_some first
    have other := noCall uc (mem_of_find?_eq_some first)
    split at nested
    · obtain ⟨kind, _, _, _⟩ := uc
      cases nested
      cases kind with
      | capture stream => rfl
      | playback _ _ => cases type
      | voiceCall _ => exact absurd rfl other
    · cases nested

/-- Without a call the nested call is for a recording, and does not nest again. -/
theorem selectDevices_returns (noCall : ∀ uc ∈ adev.usecaseList, uc.type ≠ .voiceCall)
    (id : UsecaseId) (depth : Nat) :
    ∃ adev', selectDevices misread (depth + 2) adev id = some adev' := by
  rw [selectDevices]
  cases place : indexOf adev.usecaseList id with
  | none => exact ⟨adev, rfl⟩
  | some i =>
    obtain ⟨uc, here, _⟩ := indexOf_some place
    dsimp only
    rw [here]
    dsimp only
    cases uc.kind with
    | capture stream => exact ⟨_, rfl⟩
    | voiceCall stream => exact ⟨_, rfl⟩
    | playback play stream =>
      dsimp only
      split
      · exact ⟨_, rfl⟩
      · cases nested : communicationInput misread
            (adev.setDevices i (adev.outs stream).devices) stream with
        | none => exact ⟨_, rfl⟩
        | some id' =>
          have quiet : ∀ uc ∈ (adev.setDevices i (adev.outs stream).devices).usecaseList,
              uc.type ≠ .voiceCall :=
            forall_modify noCall fun uc here => noCall uc (mem_of_getElem? here)
          rw [communicationInput_capture quiet nested]
          obtain ⟨after, selected⟩ := selectDevices_capture misread
            (adev.setDevices i (adev.outs stream).devices) depth
          dsimp only
          rw [selected]
          exact ⟨_, rfl⟩

/-- A playback on the primary output beside a capture for communication. -/
def communicating : AudioDevice where
  usecaseList := [⟨.playback .audioPlayback 0, 0, none, none⟩, ⟨.capture 0, 0, none, none⟩]
  sndDevRefCnt _ := 0
  session := ⟨.normal, false, false, false⟩
  inCall := false
  btScoActive := false
  primaryOutput := some 0
  offloadFxStopOutput := false
  outs _ := ⟨.audioPlayback, outSpeaker, true, [], .idle, none, false⟩
  ins _ := ⟨.voiceCommunication, inBuiltinMic, false⟩

/-- The capture is selected from inside of the call for the playback, so that one activation is not
    enough. -/
theorem nested_capture_selected :
    selectDevices (fun _ => (⟨.default, 0, false⟩, .voiceCall)) 1 communicating
        (.playback .audioPlayback) = none ∧
      ∃ adev, selectDevices (fun _ => (⟨.default, 0, false⟩, .voiceCall)) 2 communicating
        (.playback .audioPlayback) = some adev :=
  ⟨rfl, selectDevices_returns (by decide) _ 0⟩

end UsecaseRouting
