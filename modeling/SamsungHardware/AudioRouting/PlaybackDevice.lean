import SamsungHardware.AudioRouting.OutputStreams
import SamsungHardware.AudioRouting.ReferenceCounts

/- One output device for all use cases that play. `select_devices` moves every other use case to
   the device it selects, so that it never makes two of them disagree; only the hook for
   compressed streams changes the device of one use case alone. -/
namespace PlaybackDevice
open SoundDevices UsecaseRouting OutputStreams StepRuns List
open Option (map_eq_some_iff some_inj)

def PlaysOn (d : OutDevice) (uc : Usecase) : Prop :=
  uc.type = .pcmPlayback ∧ uc.outSndDevice = some d

def OneDevice (list : List Usecase) : Prop :=
  ∀ uc ∈ list, ∀ uc' ∈ list, ∀ d d', PlaysOn d uc → PlaysOn d' uc' → d = d'

def PlaysAt (list : List Usecase) (j : Nat) (d : OutDevice) : Prop :=
  ∃ uc, list[j]? = some uc ∧ PlaysOn d uc

def Agree (Stray : Nat → OutDevice → Prop) (list : List Usecase) : Prop :=
  ∀ j j' d d', PlaysAt list j d → PlaysAt list j' d' → d = d' ∨ Stray j d ∨ Stray j' d'

def noStray : Nat → OutDevice → Prop := fun _ _ => False

variable {Stray : Nat → OutDevice → Prop} {d : OutDevice}

section

variable {list list' : List Usecase}

theorem oneDevice_iff : OneDevice list ↔ Agree noStray list := by
  constructor
  · intro one j j' d d' plays plays'
    obtain ⟨uc, here, on⟩ := plays
    obtain ⟨uc', here', on'⟩ := plays'
    exact Or.inl (one uc (mem_of_getElem? here) uc' (mem_of_getElem? here') d d' on on')
  · intro agree uc member uc' member' d d' on on'
    obtain ⟨j, here⟩ := mem_iff_getElem?.mp member
    obtain ⟨j', here'⟩ := mem_iff_getElem?.mp member'
    rcases agree j j' d d' ⟨uc, here, on⟩ ⟨uc', here', on'⟩ with same | stray | stray
    · exact same
    · exact stray.elim
    · exact stray.elim

theorem Agree.of_before (agree : Agree Stray list)
    (before : ∀ j d, PlaysAt list' j d → PlaysAt list j d) : Agree Stray list' := by
  intro j j' d d' plays plays'
  exact agree j j' d d' (before j d plays) (before j' d' plays')

theorem Agree.of_only (only : ∀ j d', PlaysAt list j d' → d' = d) : Agree Stray list := by
  intro j j' x x' plays plays'
  exact Or.inl ((only j x plays).trans (only j' x' plays').symm)

theorem OneDevice.of_subset (one : OneDevice list)
    (before : ∀ uc ∈ list', ∀ d, PlaysOn d uc → uc ∈ list) : OneDevice list' := by
  intro uc member uc' member' d d' on on'
  exact one uc (before uc member d on) uc' (before uc' member' d' on') d d' on on'

theorem OneDevice.add (one : OneDevice list) (kind : UsecaseKind) (devices : Mask) :
    OneDevice (list ++ [⟨kind, devices, none, none⟩]) := by
  apply one.of_subset
  intro uc member d on
  rcases mem_append.mp member with old | new
  · exact old
  · rw [mem_singleton.mp new] at on
    cases on.2

theorem OneDevice.remove (one : OneDevice list) (i : Nat) : OneDevice (list.eraseIdx i) := by
  apply one.of_subset
  intro uc member _ _
  exact mem_of_mem_eraseIdx member

theorem playsAt_modify {f : Usecase → Usecase} {i j : Nat} (plays : PlaysAt (list.modify i f) j d) :
    i ≠ j ∧ PlaysAt list j d ∨ i = j ∧ ∃ uc, list[i]? = some uc ∧ PlaysOn d (f uc) := by
  obtain ⟨uc, there, on⟩ := plays
  rw [getElem?_modify, Option.map_eq_map, map_eq_some_iff] at there
  obtain ⟨old, present, changed⟩ := there
  by_cases same : i = j
  · rw [if_pos same] at changed
    rw [← changed] at on
    exact Or.inr ⟨same, old, same ▸ present, on⟩
  · rw [if_neg same] at changed
    rw [← changed] at on
    exact Or.inl ⟨same, old, present, on⟩

end

variable {uc : Usecase}

section

variable {adev : AudioDevice} {i j : Nat}

theorem routeTo_playback {x : OutDevice}
    (plays : PlaysAt (adev.routeTo i (.playback d)).usecaseList j x) (other : j ≠ i) : x = d := by
  obtain ⟨uc, there, type, on⟩ := plays
  change (switchAll _ _ adev.usecaseList _).1[j]? = some uc at there
  rw [switchAll_list, getElem?_map, map_eq_some_iff] at there
  obtain ⟨old, present, moved⟩ := there
  by_cases marked : switchDevice adev.usecaseList i (.playback d) old.id = true
  · rw [if_pos marked] at moved
    rw [← moved] at on
    exact (some_inj.mp on).symm
  · rw [if_neg marked] at moved
    rw [← moved] at type on
    by_contra elsewhere
    apply marked
    refine switchDevice_iff.mpr ⟨j, old, present, rfl, type, other, ?_⟩
    intro here
    change SndDevice.ofOut old.outSndDevice = .out d at here
    rw [on] at here
    exact elsewhere (SndDevice.out.inj here)

variable {inp : Option InDevice} {out : Option OutDevice}

theorem routeIf_capture (plays : PlaysAt (adev.routeIf i (inp.map .capture)).usecaseList j d) :
    PlaysAt adev.usecaseList j d := by
  cases inp with
  | none => exact plays
  | some microphone =>
    obtain ⟨uc, there, on⟩ := plays
    change (switchAll _ _ adev.usecaseList _).1[j]? = some uc at there
    rw [switchAll_list, getElem?_map, map_eq_some_iff] at there
    obtain ⟨old, present, moved⟩ := there
    refine ⟨old, present, ?_⟩
    split at moved
    · rw [← moved] at on
      exact on
    · exact moved.symm ▸ on

/-- Behind a new selection everything plays on the selected device, or as before. -/
theorem reroute_playsAt (plays : PlaysAt (reroute adev i uc out inp).usecaseList j d) :
    out = some d ∨ out = none ∧ j ≠ i ∧ PlaysAt adev.usecaseList j d := by
  rcases playsAt_modify plays with ⟨other, old⟩ | ⟨_, _, _, on⟩
  · have played := routeIf_capture old
    cases out with
    | none =>
      have before : PlaysAt (adev.giveUp uc).usecaseList j d := played
      rw [giveUp_list] at before
      exact Or.inr ⟨rfl, Ne.symm other, before⟩
    | some selected => exact Or.inl (congrArg some (routeTo_playback played (Ne.symm other)).symm)
  · exact Or.inl on.2

variable (agree : Agree Stray adev.usecaseList)
include agree

theorem reroute_agree : Agree Stray (reroute adev i uc out inp).usecaseList := by
  cases out with
  | none =>
    apply agree.of_before
    intro j d plays
    rcases reroute_playsAt plays with on | ⟨_, _, before⟩
    · cases on
    · exact before
  | some selected =>
    apply Agree.of_only
    intro j d plays
    rcases reroute_playsAt plays with on | ⟨off, _⟩
    · exact (some_inj.mp on).symm
    · cases off

theorem switchDevices_agree (out : Option OutDevice) (inp : Option InDevice) :
    Agree Stray (switchDevices adev i out inp).usecaseList := by
  unfold switchDevices
  split
  · exact agree
  · split
    · exact agree
    · exact reroute_agree agree

theorem setDevices_agree (devices : Mask) :
    Agree Stray (adev.setDevices i devices).usecaseList := by
  apply agree.of_before
  intro j d plays
  rcases playsAt_modify plays with ⟨_, old⟩ | ⟨same, uc, here, on⟩
  · exact old
  · exact same ▸ ⟨uc, here, on⟩

end

variable {misread : StreamOut → InputFields × UsecaseId} {adev adev' : AudioDevice} {id : UsecaseId}

section

variable {depth i : Nat}

theorem selectDevices_agree (agree : Agree Stray adev.usecaseList)
    (selected : selectDevices misread depth adev id = some adev') :
    Agree Stray adev'.usecaseList ∧ kinds adev'.usecaseList = kinds adev.usecaseList := by
  apply selectDevices_keeps (P := fun adev => Agree Stray adev.usecaseList) _ _ _ depth adev id
    adev' selected agree
  · intro adev i devices agree
    exact setDevices_agree agree devices
  · intro adev session agree
    exact agree
  · intro adev i uc out inp _ _ _ agree
    exact switchDevices_agree agree out inp

theorem selectDevices_one (one : OneDevice adev.usecaseList)
    (selected : selectDevices misread depth adev id = some adev') :
    OneDevice adev'.usecaseList :=
  oneDevice_iff.mpr (selectDevices_agree (oneDevice_iff.mp one) selected).1

def playbackDevice (adev : AudioDevice) (uc : Usecase) (stream : OutRef) : Option OutDevice :=
  match (callDevices adev uc).1 with
  | some d => some d
  | none => getOutputSndDevice adev.session (adev.outs stream).devices

theorem selectDevices_playback {play : PlaybackUsecase} {stream : OutRef}
    (agree : Agree Stray adev.usecaseList)
    (place : indexOf adev.usecaseList id = some i) (here : adev.usecaseList[i]? = some uc)
    (kind : uc.kind = .playback play stream)
    (selected : selectDevices misread depth adev id = some adev') :
    ∃ before, Agree Stray before.usecaseList ∧
      kinds before.usecaseList = kinds adev.usecaseList ∧
      adev' = switchDevices before i
        (playbackDevice (adev.setDevices i (adev.outs stream).devices) uc stream) none := by
  have recorded := setDevices_agree (i := i) agree (adev.outs stream).devices
  have same := setDevices_kinds adev i (adev.outs stream).devices
  cases depth with
  | zero => cases selected
  | succ depth =>
    rw [selectDevices] at selected
    simp only [place, here, kind] at selected
    unfold playbackDevice
    cases call : (callDevices (adev.setDevices i (adev.outs stream).devices) uc).1 with
    | some d =>
      rw [call] at selected
      cases selected
      exact ⟨_, recorded, same, rfl⟩
    | none =>
      rw [call] at selected
      obtain ⟨before, nested, rfl⟩ := map_eq_some_iff.mp selected
      split at nested
      · obtain ⟨kept, kinds⟩ := selectDevices_agree recorded nested
        exact ⟨before, kept, kinds.trans same, rfl⟩
      · cases nested
        exact ⟨_, recorded, same, rfl⟩

/-- One use case strays on `d`. Switching it to another device ends the disagreement. -/
theorem switchDevices_ends_stray {d : OutDevice} {out : Option OutDevice}
    (agree : Agree (fun j x => j = i ∧ x = d) adev.usecaseList)
    (here : adev.usecaseList[i]? = some uc) (away : out ≠ some d) :
    OneDevice (switchDevices adev i out none).usecaseList := by
  apply oneDevice_iff.mpr
  unfold switchDevices
  simp only [here]
  split
  · rename_i unchanged
    -- the use case is on the selected device already, which is not the one to stray on
    have never : ∀ x, PlaysAt adev.usecaseList i x → x ≠ d := by
      rintro x ⟨uc', there, on⟩ rfl
      have same : uc' = uc := some_inj.mp (there.symm.trans here)
      rw [same] at on
      exact away (unchanged.1.trans on.2)
    intro j j' x x' plays plays'
    rcases agree j j' x x' plays plays' with same | ⟨rfl, stray⟩ | ⟨rfl, stray⟩
    · exact Or.inl same
    · exact absurd stray (never x plays)
    · exact absurd stray (never x' plays')
  · intro j j' x x' plays plays'
    rcases reroute_playsAt plays with on | ⟨off, other, old⟩
    · rcases reroute_playsAt plays' with on' | ⟨off', _⟩
      · exact Or.inl (some_inj.mp (on.symm.trans on'))
      · cases on.symm.trans off'
    · rcases reroute_playsAt plays' with on' | ⟨_, other', old'⟩
      · cases off.symm.trans on'
      · rcases agree j j' x x' old old' with same | ⟨here', _⟩ | ⟨here', _⟩
        · exact Or.inl same
        · exact absurd here' other
        · exact absurd here' other'

end

variable {stack : Nat} {r : OutRef}

section

variable (one : OneDevice adev.usecaseList)
include one

theorem disableOutputPath_one (r : OutRef) : OneDevice (disableOutputPath adev r).usecaseList := by
  unfold disableOutputPath
  split
  · exact one
  · split
    · exact one
    · rename_i i _ _ uc _
      cases uc.kind <;> exact one.remove i

theorem enableOutputPath_one {calloc callocPcm : Bool} {result : AudioDevice × Bool}
    (done : enableOutputPath misread stack adev r calloc callocPcm = some result) :
    OneDevice result.1.usecaseList := by
  unfold enableOutputPath at done
  split at done
  · cases done
    exact one
  · obtain ⟨selected, run, rfl⟩ := map_eq_some_iff.mp done
    exact selectDevices_one (one.add _ _) run

theorem stopInputStream_one : OneDevice (stopInputStream adev).usecaseList := by
  unfold stopInputStream
  split
  · exact one
  · split
    · exact one
    · exact one.remove _

theorem startInputStream_one {input : InRef} {calloc callocPcm ready : Bool}
    (done : startInputStream misread stack adev input calloc callocPcm ready = some adev') :
    OneDevice adev'.usecaseList := by
  unfold startInputStream at done
  dsimp only at done
  split at done
  · cases done
    exact one
  · obtain ⟨selected, run, rfl⟩ := map_eq_some_iff.mp done
    have routed := selectDevices_one (one.add _ _) run
    cases ready with
    | false => exact stopInputStream_one routed
    | true => exact routed

theorem stopVoiceCall_one : OneDevice (stopVoiceCall adev).usecaseList := by
  unfold stopVoiceCall
  dsimp only
  split
  · exact one
  · split
    · exact one
    · exact one.remove _

theorem startVoiceCall_one {calloc : Bool}
    (done : startVoiceCall misread stack adev calloc = some adev') :
    OneDevice adev'.usecaseList := by
  unfold startVoiceCall at done
  split at done
  · cases done
    exact one
  · split at done
    · cases done
    · exact selectDevices_one (one.add _ _) done

theorem call_one {call : ReferenceCounts.Call}
    (taken : ReferenceCounts.step misread stack adev call = some adev') :
    OneDevice adev'.usecaseList := by
  cases call with
  | enableOutputPath out calloc callocPcm =>
    obtain ⟨result, done, rfl⟩ := map_eq_some_iff.mp taken
    exact enableOutputPath_one one done
  | disableOutputPath out =>
    cases taken
    exact disableOutputPath_one one out
  | startInputStream input calloc callocPcm ready => exact startInputStream_one one taken
  | stopInputStream =>
    cases taken
    exact stopInputStream_one one
  | startVoiceCall calloc => exact startVoiceCall_one one taken
  | stopVoiceCall =>
    cases taken
    exact stopVoiceCall_one one
  | selectDevices id => exact selectDevices_one one taken
  | others session primaryOutput outs ins =>
    cases taken
    exact one

end

section

variable (one : OneDevice adev.usecaseList)
include one

theorem stopOutputStream_one (r : OutRef) : OneDevice (stopOutputStream adev r).usecaseList := by
  unfold stopOutputStream
  dsimp only
  split
  · apply disableOutputPath_one
    exact one
  · exact one

theorem doOutStandby_one (r : OutRef) : OneDevice (doOutStandby adev r).usecaseList := by
  apply stopOutputStream_one
  exact one

theorem outStandby_one (done : outStandby adev r = some adev') : OneDevice adev'.usecaseList := by
  unfold outStandby at done
  split at done
  · cases done
  · split at done
    · cases done
      exact one
    · cases done
      exact doOutStandby_one one r

variable {granted : Granted} {result : AudioDevice × Bool} {written : Int}

theorem startOutputStream_one (done : startOutputStream misread stack adev r granted = some result) :
    OneDevice result.1.usecaseList := by
  obtain ⟨enabled, run, rfl⟩ := map_eq_some_iff.mp done
  have routed := enableOutputPath_one one run
  dsimp only
  split
  · exact routed
  · split
    · exact routed
    · apply stopOutputStream_one
      exact routed

theorem leaveStandby_one (done : leaveStandby misread stack adev r granted = some result) :
    OneDevice result.1.usecaseList := by
  unfold leaveStandby at done
  split at done
  · obtain ⟨started, run, rfl⟩ := map_eq_some_iff.mp done
    have routed := startOutputStream_one one run
    dsimp only
    split
    · exact routed
    · exact routed
  · cases done
    exact one

theorem outWriteOffload_one {result : AudioDevice × Int}
    (done : outWriteOffload misread stack adev r granted written = some result) :
    OneDevice result.1.usecaseList := by
  obtain ⟨enabled, run, rfl⟩ := map_eq_some_iff.mp done
  have routed : OneDevice enabled.1.usecaseList := by
    split at run
    · exact enableOutputPath_one one run
    · cases run
      exact one
  dsimp only
  split
  · exact routed
  · split
    · exact routed
    · exact routed

theorem outWrite_one {bytes : Nat} {start again : Granted} {result : AudioDevice × Int}
    (done : outWrite misread stack adev r bytes start again written = some result) :
    OneDevice result.1.usecaseList := by
  unfold outWrite at done
  split at done
  · cases done
  · obtain ⟨running, run, rest⟩ := Option.bind_eq_some_iff.mp done
    have routed := leaveStandby_one one run
    dsimp only at rest
    split at rest
    · exact outWriteOffload_one routed rest
    · split at rest
      · cases rest
        exact routed
      · obtain ⟨after, standby, rfl⟩ := map_eq_some_iff.mp rest
        exact outStandby_one routed standby

theorem onOffload_one {act : StreamOut → Option AudioDevice}
    (acts : ∀ adev', act (adev.outs r) = some adev' → OneDevice adev'.usecaseList)
    (done : onOffload adev r act = some adev') : OneDevice adev'.usecaseList := by
  unfold onOffload at done
  dsimp only at done
  split at done
  · cases done
    exact one
  · split at done
    · cases done
    · exact acts adev' done

theorem outPause_one (done : outPause adev r = some adev') : OneDevice adev'.usecaseList := by
  apply onOffload_one one _ done
  intro after paused
  split at paused
  · cases paused
    apply disableOutputPath_one
    exact one
  · cases paused
    exact one

theorem outResume_one (done : outResume misread stack adev r granted = some adev') :
    OneDevice adev'.usecaseList := by
  apply onOffload_one one _ done
  intro after resumed
  split at resumed
  · obtain ⟨enabled, run, rfl⟩ := map_eq_some_iff.mp resumed
    exact enableOutputPath_one one run
  · cases resumed
    exact one

theorem outFlush_one (done : outFlush adev r = some adev') : OneDevice adev'.usecaseList := by
  apply onOffload_one one _ done
  intro after flushed
  split at flushed <;> (cases flushed; exact one)

end

section

def othersElsewhere (list : List Usecase) (i : Nat) : Bool :=
  list.zipIdx.any fun (uc, j) => j != i && uc.type = .pcmPlayback && uc.outSndDevice ≠ none &&
    uc.outSndDevice ≠ some .headphones

/-- The hook for compressed streams takes the use case of the stream from the combined device to
    the headphones, which are then selected for it, while others play elsewhere. -/
def hookSplits (adev : AudioDevice) (r : OutRef) (val : Mask) : Bool :=
  let out := adev.outs r
  match indexOf adev.usecaseList (.playback out.usecase) with
  | none => false
  | some i =>
    match adev.usecaseList[i]? with
    | none => false
    | some uc =>
      match uc.kind with
      | .playback _ stream =>
        isOffload out && !needsStandby out.pcmDevList val &&
          uc.outSndDevice = some .speakerAndHeadphones &&
          playbackDevice adev uc stream = some .headphones && othersElsewhere adev.usecaseList i
      | _ => false

def splits (adev : AudioDevice) (r : OutRef) (val : Mask) : Bool :=
  val != 0 && !(adev.outs r).standby &&
    hookSplits (adev.setOut r { adev.outs r with devices := val }) r val

theorem callDevices_out (adev : AudioDevice) (uc : Usecase) :
    (callDevices adev uc).1 = if uc.type ≠ .voiceCall ∧ adev.inCall then
      (getUsecaseFromId adev.usecaseList .voiceCall).bind (·.outSndDevice) else none := by
  unfold callDevices
  split
  · cases getUsecaseFromId adev.usecaseList .voiceCall <;> rfl
  · rfl

variable {f : Usecase → Usecase} {i : Nat} {list : List Usecase} {play : PlaybackUsecase}
  {stream : OutRef} {val : Mask} {calloc : Bool}

theorem getUsecaseFromId_modify (list : List Usecase) :
    ∀ i, (∀ uc, (f uc).id = uc.id) →
      (∀ uc, list[i]? = some uc → uc.id = id → (f uc).outSndDevice = uc.outSndDevice) →
      (getUsecaseFromId (list.modify i f) id).bind (·.outSndDevice) =
        (getUsecaseFromId list id).bind (·.outSndDevice) := by
  induction list with
  | nil =>
    intro i _ _
    cases i <;> rfl
  | cons uc list ih =>
    intro i ids same
    unfold getUsecaseFromId at ih ⊢
    cases i with
    | zero =>
      rw [modify_zero_cons, find?_cons, find?_cons, ids uc]
      by_cases found : uc.id = id
      · simp only [found, decide_true]
        exact same uc rfl found
      · simp only [found, decide_false]
    | succ i =>
      rw [modify_succ_cons, find?_cons, find?_cons]
      by_cases found : uc.id = id
      · simp only [found, decide_true]
      · simp only [found, decide_false]
        exact ih i ids same

/-- The device of a call is looked up in the list as it was before a use case was changed. -/
theorem callDevices_modify (ids : ∀ uc, (f uc).id = uc.id)
    (same : ∀ uc, adev.usecaseList[i]? = some uc → uc.id = .voiceCall → (f uc).outSndDevice = uc.outSndDevice)
    (changed : list = adev.usecaseList.modify i f) (cnt : RefCnt) (uc : Usecase) :
    (callDevices { adev with usecaseList := list, sndDevRefCnt := cnt } uc).1 =
      (callDevices adev uc).1 := by
  rw [callDevices_out, callDevices_out, changed, getUsecaseFromId_modify _ i ids same]

theorem othersElsewhere_of_playsAt {i j : Nat} (plays : PlaysAt list j d) (other : j ≠ i)
    (elsewhere : d ≠ .headphones) : othersElsewhere list i = true := by
  obtain ⟨uc, here, type, on⟩ := plays
  apply any_eq_true.mpr
  refine ⟨(uc, j), mk_mem_zipIdx_iff_getElem?.mpr here, ?_⟩
  simp [type, on, other, elsewhere]

theorem outSetOffloadParameters_playsAt {i j : Nat} (here : adev.usecaseList[i]? = some uc)
    (combined : uc.outSndDevice = some .speakerAndHeadphones)
    (plays : PlaysAt (outSetOffloadParameters adev i).usecaseList j d) :
    j = i ∧ d = .headphones ∨ j ≠ i ∧ PlaysAt adev.usecaseList j d := by
  unfold outSetOffloadParameters at plays
  simp only [here] at plays
  rw [if_pos combined] at plays
  rcases playsAt_modify plays with ⟨other, old⟩ | ⟨same, _, _, on⟩
  · exact Or.inr ⟨Ne.symm other, old⟩
  · exact Or.inl ⟨same.symm, (some_inj.mp on.2).symm⟩

theorem indexOf_kinds {list list' : List Usecase} (same : kinds list' = kinds list)
    (id : UsecaseId) : indexOf list' id = indexOf list id := by
  have found : ∀ list : List Usecase,
      indexOf list id = (kinds list).findIdx? fun kind => kind.id = id := by
    intro list
    rw [kinds, findIdx?_map]
    rfl
  rw [found, found, same]

theorem outSetOffloadParameters_eq (here : adev.usecaseList[i]? = some uc)
    (combined : uc.outSndDevice = some .speakerAndHeadphones) :
    outSetOffloadParameters adev i =
      { adev with
        usecaseList := adev.usecaseList.modify i fun uc =>
          { uc with outSndDevice := some .headphones }
        sndDevRefCnt := disableSndDevice adev.sndDevRefCnt (.out .speaker) } := by
  unfold outSetOffloadParameters
  simp only [here]
  rw [if_pos combined]
  rfl

/-- Behind the hook the device that is selected for a use case that plays is the same. -/
theorem outSetOffloadParameters_device (here : adev.usecaseList[i]? = some uc)
    (kind : uc.kind = .playback play stream)
    (combined : uc.outSndDevice = some .speakerAndHeadphones) (devices : Mask) :
    playbackDevice ((outSetOffloadParameters adev i).setDevices i devices)
        { uc with outSndDevice := some .headphones } stream = playbackDevice adev uc stream := by
  have other : uc.id ≠ .voiceCall := by
    rw [Usecase.id, kind]
    intro call
    cases call
  have hooked := outSetOffloadParameters_eq here combined
  have call : (callDevices ((outSetOffloadParameters adev i).setDevices i devices)
      { uc with outSndDevice := some .headphones }).1 = (callDevices adev uc).1 := by
    trans (callDevices (outSetOffloadParameters adev i) uc).1
    · exact callDevices_modify (fun _ => by rfl) (fun _ _ _ => by rfl) rfl _ uc
    · rw [hooked]
      refine callDevices_modify (fun _ => by rfl) ?_ rfl _ uc
      intro uc' here' call
      have same : uc' = uc := some_inj.mp (here'.symm.trans here)
      exact absurd (same ▸ call) other
  unfold playbackDevice
  rw [call, hooked]
  rfl

variable (one : OneDevice adev.usecaseList)
include one

theorem hook_one (place : indexOf adev.usecaseList id = some i)
    (here : adev.usecaseList[i]? = some uc) (kind : uc.kind = .playback play stream)
    (combined : uc.outSndDevice = some .speakerAndHeadphones)
    (whole : playbackDevice adev uc stream ≠ some .headphones ∨ othersElsewhere adev.usecaseList i = false)
    (done : selectDevices misread stack (outSetOffloadParameters adev i) id = some adev') :
    OneDevice adev'.usecaseList := by
  rcases whole with away | together
  · -- only the use case of the stream strays, and it is switched to another device
    have agree : Agree (fun j x => j = i ∧ x = .headphones)
        (outSetOffloadParameters adev i).usecaseList := by
      intro j j' x x' plays plays'
      rcases outSetOffloadParameters_playsAt here combined plays with stray | ⟨_, old⟩
      · exact Or.inr (Or.inl stray)
      · rcases outSetOffloadParameters_playsAt here combined plays' with stray | ⟨_, old'⟩
        · exact Or.inr (Or.inr stray)
        · rcases oneDevice_iff.mp one j j' x x' old old' with same | none | none
          · exact Or.inl same
          · exact none.elim
          · exact none.elim
    have hooked := outSetOffloadParameters_eq here combined
    have same : kinds (outSetOffloadParameters adev i).usecaseList = kinds adev.usecaseList := by
      rw [hooked]
      exact kinds_modify (fun _ => by rfl) i
    have there : (outSetOffloadParameters adev i).usecaseList[i]? =
        some { uc with outSndDevice := some .headphones } := by
      rw [hooked, getElem?_modify, here]
      simp
    obtain ⟨before, strays, kinds, rfl⟩ := selectDevices_playback agree
      ((indexOf_kinds same id).trans place) there kind done
    obtain ⟨uc', here', _⟩ := kinds_get (kinds.trans same) here
    apply switchDevices_ends_stray strays here'
    rw [outSetOffloadParameters_device here kind combined]
    exact away
  · have headphones : ∀ j d, PlaysAt (outSetOffloadParameters adev i).usecaseList j d →
        d = .headphones := by
      intro j d plays
      rcases outSetOffloadParameters_playsAt here combined plays with ⟨_, hooked⟩ | ⟨other, old⟩
      · exact hooked
      · by_contra elsewhere
        rw [othersElsewhere_of_playsAt old other elsewhere] at together
        cases together
    exact selectDevices_one (oneDevice_iff.mpr (Agree.of_only headphones)) done

theorem routeStream_one (whole : hookSplits adev r val = false)
    (done : routeStream misread stack adev r val = some adev') : OneDevice adev'.usecaseList := by
  unfold routeStream at done
  unfold hookSplits at whole
  dsimp only at done whole
  cases place : indexOf adev.usecaseList (.playback (adev.outs r).usecase) with
  | none =>
    rw [place] at done
    exact selectDevices_one one done
  | some i =>
    obtain ⟨uc, here, id⟩ := indexOf_some place
    simp only [place, here] at done whole
    split at done
    · cases done
      exact doOutStandby_one one r
    · rename_i served
      split at done
      · rename_i offload
        by_cases combined : uc.outSndDevice = some .speakerAndHeadphones
        · obtain ⟨play, stream, kind⟩ : ∃ play stream, uc.kind = .playback play stream := by
            rw [Usecase.id] at id
            cases kind : uc.kind with
            | playback play stream => exact ⟨play, stream, rfl⟩
            | capture stream => rw [kind] at id; cases id
            | voiceCall stream => rw [kind] at id; cases id
          apply hook_one one place here kind combined _ done
          simp only [kind, offload, served, combined, Bool.not_false, Bool.true_and,
            decide_true, Bool.and_eq_false_iff, decide_eq_false_iff_not] at whole
          exact whole
        · have unhooked : outSetOffloadParameters adev i = adev := by
            unfold outSetOffloadParameters
            simp only [here]
            rw [if_neg combined]
          rw [unhooked] at done
          exact selectDevices_one one done
      · exact selectDevices_one one done

omit one in
theorem toggleBtSco_list (adev : AudioDevice) (devices : Mask) :
    (toggleBtSco adev devices).usecaseList = adev.usecaseList := by
  unfold toggleBtSco
  split
  · rfl
  · split <;> rfl

theorem restartVoiceCall_one (done : restartVoiceCall misread stack adev r calloc = some adev') :
    OneDevice adev'.usecaseList := by
  unfold restartVoiceCall at done
  split at done
  · apply startVoiceCall_one _ done
    split
    · exact stopVoiceCall_one one
    · exact one
  · cases done
    exact one

theorem outSetParameters_one (whole : splits adev r val = false)
    (done : outSetParameters misread stack adev r val calloc = some adev') :
    OneDevice adev'.usecaseList := by
  unfold outSetParameters at done
  split at done
  · cases done
  · split at done
    · cases done
      exact one
    · rename_i nonzero
      obtain ⟨routed, run, rest⟩ := Option.bind_eq_some_iff.mp done
      have changed : OneDevice
          (adev.setOut r { adev.outs r with devices := val }).usecaseList := one
      have moved : OneDevice routed.usecaseList := by
        split at run
        · cases run
          exact one
        · rename_i awake
          apply routeStream_one changed _ run
          simp only [AudioDevice.setOut, Function.update_self] at awake
          rcases Bool.and_eq_false_iff.mp whole with idle | unsplit
          · rcases Bool.and_eq_false_iff.mp idle with zero | standby
            · exact absurd (bne_eq_false_iff_eq.mp zero) nonzero
            · rw [Bool.not_eq_false'] at standby
              exact absurd standby awake
          · exact unsplit
      apply restartVoiceCall_one _ rest
      rw [toggleBtSco_list]
      exact moved

end

inductive Event where
  | call (call : ReferenceCounts.Call)
  | outWrite (out : OutRef) (bytes : Nat) (start again : Granted) (written : Int)
  | outStandby (out : OutRef)
  | outPause (out : OutRef)
  | outResume (out : OutRef) (granted : Granted)
  | outFlush (out : OutRef)
  | outSetParameters (out : OutRef) (val : Mask) (calloc : Bool)

def step (misread : StreamOut → InputFields × UsecaseId) (stack : Nat) (adev : AudioDevice) :
    Event → Option AudioDevice
  | .call call => ReferenceCounts.step misread stack adev call
  | .outWrite out bytes start again written =>
    (outWrite misread stack adev out bytes start again written).map (·.1)
  | .outStandby out => outStandby adev out
  | .outPause out => outPause adev out
  | .outResume out granted => outResume misread stack adev out granted
  | .outFlush out => outFlush adev out
  | .outSetParameters out val calloc => outSetParameters misread stack adev out val calloc

def Whole (adev : AudioDevice) : Event → Prop
  | .outSetParameters out val _ => splits adev out val = false
  | _ => True

instance (adev : AudioDevice) : (event : Event) → Decidable (Whole adev event)
  | .outSetParameters _ _ _ => inferInstanceAs (Decidable (_ = false))
  | .call _ | .outWrite _ _ _ _ _ | .outStandby _ | .outPause _ | .outResume _ _ | .outFlush _ =>
    inferInstanceAs (Decidable True)

theorem step_one {misread : StreamOut → InputFields × UsecaseId} {stack : Nat}
    {adev adev' : AudioDevice} {event : Event} (whole : Whole adev event)
    (one : OneDevice adev.usecaseList) (taken : step misread stack adev event = some adev') :
    OneDevice adev'.usecaseList := by
  cases event with
  | call call => exact call_one one taken
  | outWrite out bytes start again written =>
    obtain ⟨result, done, rfl⟩ := map_eq_some_iff.mp taken
    exact outWrite_one one done
  | outStandby out => exact outStandby_one one taken
  | outPause out => exact outPause_one one taken
  | outResume out granted => exact outResume_one one taken
  | outFlush out => exact outFlush_one one taken
  | outSetParameters out val calloc => exact outSetParameters_one one whole taken

def Agreed (adev : AudioDevice) : Prop := OneDevice adev.usecaseList

/-- In every run in which the routing of a compressed stream does not split the device, all use
    cases that play are on one device, in every state that is reached. -/
theorem one_playback_device (misread : StreamOut → InputFields × UsecaseId) (stack : Nat)
    (session : Session) (fx : Bool) (outs : OutRef → StreamOut) (ins : InRef → StreamIn)
    (events : List Event) (adev : AudioDevice)
    (runs : RunsTo (step misread stack) Whole (ReferenceCounts.adevOpen session fx outs ins)
      events adev) : OneDevice adev.usecaseList := by
  have start : Agreed (ReferenceCounts.adevOpen session fx outs ins) := by
    intro uc none
    cases none
  have agreed : Agreed adev := runs.preserves start fun _ _ _ whole one taken =>
    step_one whole one taken
  exact agreed

/- The primary output and a compressed stream, both for speaker and headphones at once. -/

def twoStreams : OutRef → StreamOut := fun r =>
  ⟨if r = 0 then .audioPlayback else .audioPlaybackOffload, outSpeaker ||| outWiredHeadphone,
    true, [], .idle, none, false⟩

def opened : AudioDevice := ReferenceCounts.adevOpen (ReferenceCounts.session .normal) false
  twoStreams ReferenceCounts.builtinMic

def granted : Granted := ⟨true, true, true⟩

def bothPlay : List Event :=
  [.outWrite 0 4096 granted granted 0, .outWrite 1 4096 granted granted 4096]

def devicesOf (adev : AudioDevice) : List (Option OutDevice) :=
  adev.usecaseList.map (·.outSndDevice)

/-- A routing of the primary output moves both, one of the compressed stream to the speaker too. -/
theorem one_device_after_routing : ∃ adev,
    RunsTo (step ReferenceCounts.nothingRead 2) Whole opened
      (bothPlay ++ [.outSetParameters 1 outSpeaker true,
        .outSetParameters 0 outWiredHeadphone true]) adev ∧
    devicesOf adev = [some .headphones, some .headphones] ∧ OneDevice adev.usecaseList := by
  have ends : ((runWithin (step ReferenceCounts.nothingRead 2) Whole opened
      (bothPlay ++ [.outSetParameters 1 outSpeaker true,
        .outSetParameters 0 outWiredHeadphone true])).map devicesOf) =
        some [some .headphones, some .headphones] := by decide +kernel
  obtain ⟨adev, run, devices⟩ := map_eq_some_iff.mp ends
  have runs := RunsTo.of_runWithin _ _ run
  exact ⟨adev, runs, devices, one_playback_device _ _ _ _ _ _ _ adev runs⟩

/-- A routing of the compressed stream to the headphones leaves the primary output behind. -/
theorem compressed_stream_splits : ∃ adev,
    run (step ReferenceCounts.nothingRead 2) opened
      (bothPlay ++ [.outSetParameters 1 outWiredHeadphone true]) = some adev ∧
    ¬ OneDevice adev.usecaseList := by
  have ends : ((run (step ReferenceCounts.nothingRead 2) opened
      (bothPlay ++ [.outSetParameters 1 outWiredHeadphone true])).map
      fun adev => adev.usecaseList.map fun uc => (uc.type, uc.outSndDevice)) =
        some [(.pcmPlayback, some .speakerAndHeadphones), (.pcmPlayback, some .headphones)] := by
    decide +kernel
  obtain ⟨adev, run, devices⟩ := map_eq_some_iff.mp ends
  refine ⟨adev, run, ?_⟩
  intro one
  have entry : ∀ j : Nat, (adev.usecaseList.map fun uc => (uc.type, uc.outSndDevice))[j]? =
      (adev.usecaseList[j]?).map fun uc => (uc.type, uc.outSndDevice) :=
    fun j => getElem?_map
  rw [devices] at entry
  obtain ⟨uc, first, on⟩ := map_eq_some_iff.mp (entry 0).symm
  obtain ⟨uc', second, on'⟩ := map_eq_some_iff.mp (entry 1).symm
  have same := one uc (mem_of_getElem? first) uc' (mem_of_getElem? second)
    .speakerAndHeadphones .headphones ⟨congrArg Prod.fst on, congrArg Prod.snd on⟩
    ⟨congrArg Prod.fst on', congrArg Prod.snd on'⟩
  cases same

end PlaybackDevice
