import SamsungHardware.AudioRouting.OutputStreams
import SamsungHardware.AudioRouting.ReferenceCounts

/- The state of a stream of compressed data against the use case list and its compress device.
   Only a few facts about the audio device matter to it; they are taken out as a machine of their
   own, which the functions of audio_hw.c and compress_offload.c follow. -/
namespace OffloadState
open SoundDevices UsecaseRouting OutputStreams StepRuns Option

section

structure StreamView where
  usecase : PlaybackUsecase
  standby : Bool
  state : OffloadState
  compr : Option Compress
  locked : Bool
  occurs : Nat
  fx : Bool
  deriving DecidableEq, Repr

def occurs (list : List Usecase) (id : UsecaseId) : Nat := list.countP fun uc => uc.id = id

def viewOf (adev : AudioDevice) (out : StreamOut) : StreamView :=
  ⟨out.usecase, out.standby, out.offloadState, out.compr, out.locked,
    occurs adev.usecaseList (.playback out.usecase), adev.offloadFxStopOutput⟩

def view (adev : AudioDevice) (r : OutRef) : StreamView := viewOf adev (adev.outs r)

variable (o : StreamView)

def StreamView.enable : StreamView := { o with occurs := o.occurs + 1 }

def StreamView.disable : StreamView := { o with occurs := o.occurs - 1 }

def StreamView.stop : StreamView :=
  if !o.fx then o.disable
  else if o.state = .paused ∨ o.state = .pausedFlushed then { o with state := .idle }
  else { o with state := .idle }.disable

def StreamView.enterStandby : StreamView :=
  { o with standby := true, compr := none }.stop

def StreamView.start (granted : Granted) : StreamView :=
  if !granted.calloc then o
  else if granted.ready then { o.enable with compr := some ⟨false⟩ }
  else { o.enable with compr := none }.stop

def StreamView.play : StreamView :=
  if o.state = .playing then o
  else { o with compr := o.compr.map fun _ => ⟨true⟩, state := .playing }

def StreamView.writeOffload (granted : Granted) : StreamView :=
  if o.state = .pausedFlushed then
    if granted.calloc then o.enable.play else { o with locked := true }
  else o.play

def StreamView.write (start again : Granted) : StreamView :=
  if !o.standby then o.writeOffload again
  else if start.calloc && start.ready then
    { o.start start with standby := false }.writeOffload again
  else o.start start

def StreamView.pause : StreamView :=
  if o.compr ≠ none ∧ o.state = .playing then { o with state := .paused }.disable else o

def StreamView.resume (granted : Granted) : StreamView :=
  if o.compr ≠ none ∧ o.state = .paused then
    { (if granted.calloc then o.enable else o) with state := .playing }
  else o

def StreamView.flush : StreamView :=
  if o.state = .paused then
    { o with compr := o.compr.map fun _ => ⟨false⟩, state := .pausedFlushed }
  else o

end

variable {misread : StreamOut → InputFields × UsecaseId} {stack : Nat} {r : OutRef}

section

variable {adev : AudioDevice}

theorem view_setOut (adev : AudioDevice) (r : OutRef) (out : StreamOut) :
    view (adev.setOut r out) r = viewOf adev out := by
  simp [view, AudioDevice.setOut, viewOf]

theorem occurs_of_kinds {list list' : List Usecase} (same : kinds list' = kinds list)
    (id : UsecaseId) : occurs list' id = occurs list id := by
  have counted : ∀ list : List Usecase,
      occurs list id = (kinds list).countP fun kind => kind.id = id := by
    intro list
    rw [kinds, List.countP_map]
    rfl
  rw [counted, counted, same]

theorem view_add {uc : Usecase} (id : uc.id = .playback (adev.outs r).usecase) :
    view (adev.add uc) r = (view adev r).enable := by
  have counted : occurs (adev.usecaseList ++ [uc]) uc.id = occurs adev.usecaseList uc.id + 1 := by
    simp [occurs]
  rw [id] at counted
  simp [view, viewOf, AudioDevice.add, StreamView.enable, counted]

variable {list : List Usecase} {id : UsecaseId} {adev' : AudioDevice} {result : AudioDevice × Bool}
  {granted : Granted} {written : Int}

theorem occurs_remove :
    ∀ {i : Nat} {uc : Usecase}, list[i]? = some uc → uc.id = id →
      occurs (list.eraseIdx i) id = occurs list id - 1 := by
  unfold occurs
  induction list with
  | nil =>
    intro i uc here
    cases here
  | cons first list ih =>
    intro i uc here found
    cases i with
    | zero =>
      cases here
      simp [found]
    | succ i =>
      have there : list[i]? = some uc := here
      have present : 0 < list.countP fun uc => uc.id = id :=
        List.countP_pos_iff.mpr ⟨uc, List.mem_of_getElem? there, by simp [found]⟩
      rw [List.eraseIdx_cons_succ, List.countP_cons, List.countP_cons, ih there found]
      omega

theorem occurs_none (absent : indexOf list id = none) : occurs list id = 0 := by
  apply List.countP_eq_zero.mpr
  intro uc member
  simp [indexOf_none.mp absent uc member]

theorem switchDevices_outs (adev : AudioDevice) (i : Nat) (out : Option OutDevice)
    (inp : Option InDevice) : (switchDevices adev i out inp).outs = adev.outs ∧
      (switchDevices adev i out inp).offloadFxStopOutput = adev.offloadFxStopOutput := by
  unfold switchDevices
  split
  · exact ⟨rfl, rfl⟩
  · split
    · exact ⟨rfl, rfl⟩
    · unfold reroute AudioDevice.giveUp
      cases out <;> cases inp <;> split <;> split <;> exact ⟨rfl, rfl⟩

theorem selectDevices_view {depth : Nat}
    (selected : selectDevices misread depth adev id = some adev') : view adev' r = view adev r := by
  have kept := selectDevices_keeps (P := fun a => a.outs = adev.outs ∧
      a.offloadFxStopOutput = adev.offloadFxStopOutput) (fun _ _ _ same => same)
    (fun _ _ same => same) ?_ depth adev id adev' selected ⟨rfl, rfl⟩
  · obtain ⟨⟨outs, fx⟩, kinds⟩ := kept
    rw [view, view, viewOf, viewOf, outs, fx, occurs_of_kinds kinds]
  · intro a i uc out inp _ _ _ same
    obtain ⟨outs, fx⟩ := switchDevices_outs a i out inp
    exact ⟨outs.trans same.1, fx.trans same.2⟩

theorem enableOutputPath_view {calloc callocPcm : Bool}
    (done : enableOutputPath misread stack adev r calloc callocPcm = some result) :
    result.2 = calloc ∧ view result.1 r = if calloc then (view adev r).enable else view adev r := by
  cases calloc with
  | false =>
    cases done
    exact ⟨rfl, rfl⟩
  | true =>
    obtain ⟨after, selected, rfl⟩ := map_eq_some_iff.mp done
    refine ⟨rfl, ?_⟩
    have chosen := view_setOut adev r
      { adev.outs r with pcmDevList := ucSelectPcmDevices (adev.outs r).devices callocPcm }
    rw [selectDevices_view selected, view_add, chosen]
    · rfl
    · simp [AudioDevice.setOut, Usecase.id, UsecaseKind.id]

theorem disableOutputPath_view (adev : AudioDevice) (r : OutRef) :
    view (disableOutputPath adev r) r = (view adev r).disable := by
  unfold disableOutputPath
  cases place : indexOf adev.usecaseList (.playback (adev.outs r).usecase) with
  | none =>
    have absent := occurs_none place
    simp [view, viewOf, StreamView.disable, absent]
  | some i =>
    obtain ⟨uc, here, id⟩ := indexOf_some place
    have removed := occurs_remove here id
    simp only [here]
    cases uc.kind with
    | playback play stream =>
      by_cases own : r = stream
      · subst own
        simp [view, viewOf, StreamView.disable, AudioDevice.remove, AudioDevice.setOut,
          AudioDevice.disable, removed]
      · simp [view, viewOf, StreamView.disable, AudioDevice.remove, AudioDevice.setOut,
          AudioDevice.disable, removed, own]
    | capture stream =>
      simp [view, viewOf, StreamView.disable, AudioDevice.remove, AudioDevice.disable, removed]
    | voiceCall stream =>
      simp [view, viewOf, StreamView.disable, AudioDevice.remove, AudioDevice.disable, removed]

theorem stopOutputStream_cases (adev : AudioDevice) (r : OutRef) :
    stopOutputStream adev r =
      let out := adev.outs r
      if !adev.offloadFxStopOutput then disableOutputPath (adev.setOut r out) r
      else if out.offloadState = .paused ∨ out.offloadState = .pausedFlushed then
        adev.setOut r { out with offloadState := .idle }
      else disableOutputPath (adev.setOut r { out with offloadState := .idle }) r := by
  unfold stopOutputStream stopOutputOffloadStream
  dsimp only
  cases adev.offloadFxStopOutput with
  | false => rfl
  | true =>
    cases (adev.outs r).offloadState <;> rfl

theorem stopOutputStream_view (adev : AudioDevice) (r : OutRef) :
    view (stopOutputStream adev r) r = (view adev r).stop := by
  rw [stopOutputStream_cases]
  rw [apply_ite (view · r), apply_ite (view · r), disableOutputPath_view, disableOutputPath_view,
    view_setOut, view_setOut]
  rfl

variable (offload : (view adev r).usecase = .audioPlaybackOffload)
include offload

theorem doOutStandby_view : view (doOutStandby adev r) r = (view adev r).enterStandby := by
  have isOffload : isOffload { adev.outs r with standby := true } = true :=
    decide_eq_true offload
  unfold doOutStandby
  rw [stopOutputStream_view, view_setOut, if_pos isOffload]
  rfl

theorem outStandby_view (done : outStandby adev r = some adev') :
    view adev' r = if (view adev r).standby then view adev r else (view adev r).enterStandby := by
  unfold outStandby at done
  split at done
  · cases done
  · split at done
    · rename_i asleep
      cases done
      exact (if_pos asleep).symm
    · rename_i awake
      cases done
      exact (doOutStandby_view offload).trans (if_neg awake).symm

theorem startOutputStream_view (done : startOutputStream misread stack adev r granted = some result) :
    result.2 = (granted.calloc && granted.ready) ∧
      view result.1 r = (view adev r).start granted := by
  obtain ⟨enabled, run, rfl⟩ := map_eq_some_iff.mp done
  obtain ⟨granted', seen⟩ := enableOutputPath_view run
  unfold StreamView.start
  cases calloc : granted.calloc with
  | false =>
    rw [calloc] at granted' seen
    simp only [granted', Bool.not_false, if_true, Bool.false_and]
    exact ⟨trivial, seen⟩
  | true =>
    rw [calloc, if_pos rfl] at seen
    rw [calloc] at granted'
    have isOffload : isOffload (enabled.1.outs r) = true := by
      have kept : (view enabled.1 r).usecase = (view adev r).usecase := by
        rw [seen]
        rfl
      exact decide_eq_true (kept.trans offload)
    simp only [granted', isOffload, Bool.not_true, Bool.false_eq_true, if_false, Bool.true_and]
    cases granted.ready with
    | false =>
      simp only [Bool.false_eq_true, if_false]
      rw [stopOutputStream_view, view_setOut, ← seen]
      exact ⟨trivial, rfl⟩
    | true =>
      simp only [if_true]
      rw [view_setOut, ← seen]
      exact ⟨trivial, rfl⟩

omit offload in
theorem outWriteOffload_view {result : AudioDevice × Int}
    (done : outWriteOffload misread stack adev r granted written = some result) :
    view result.1 r = (view adev r).writeOffload granted ∧
      (0 ≤ result.2 → (view adev r).state = .pausedFlushed → granted.calloc = true) := by
  obtain ⟨enabled, run, rfl⟩ := map_eq_some_iff.mp done
  -- a stream that is not locked out starts to play
  have plays : ∀ o, view enabled.1 r = o → enabled.2 = true →
      view (if !enabled.2 then (enabled.1.setOut r { enabled.1.outs r with locked := true }, -enomem)
        else if (enabled.1.outs r).offloadState ≠ .playing then
          (enabled.1.setOut r { enabled.1.outs r with
            compr := (enabled.1.outs r).compr.map fun _ => ⟨true⟩, offloadState := .playing },
            written)
        else (enabled.1, written)).1 r = o.play := by
    rintro o rfl on
    rw [on]
    simp only [Bool.not_true, Bool.false_eq_true, if_false]
    have seen : (view enabled.1 r).state = (enabled.1.outs r).offloadState := rfl
    unfold StreamView.play
    rw [seen]
    by_cases playing : (enabled.1.outs r).offloadState = .playing
    · rw [if_pos playing, if_neg (not_not.mpr playing)]
    · rw [if_neg playing, if_pos playing, view_setOut]
      rfl
  unfold StreamView.writeOffload
  by_cases flushed : (view adev r).state = .pausedFlushed
  · have here : (adev.outs r).offloadState = .pausedFlushed := flushed
    rw [if_pos here] at run
    rw [if_pos flushed]
    obtain ⟨granted', seen⟩ := enableOutputPath_view run
    cases calloc : granted.calloc with
    | true =>
      rw [calloc] at granted' seen
      exact ⟨plays _ seen granted', fun _ _ => rfl⟩
    | false =>
      rw [calloc] at granted' seen
      simp only [granted', Bool.not_false, if_true, Bool.false_eq_true, if_false]
      rw [view_setOut, ← (show view enabled.1 r = view adev r from seen)]
      refine ⟨rfl, ?_⟩
      intro nonneg
      unfold enomem at nonneg
      omega
  · have here : ¬ (adev.outs r).offloadState = .pausedFlushed := flushed
    rw [if_neg here] at run
    rw [if_neg flushed]
    cases run
    exact ⟨plays _ rfl rfl, fun _ flush => absurd flush flushed⟩

theorem leaveStandby_view (done : leaveStandby misread stack adev r granted = some result) :
    if !(view adev r).standby then result = (adev, true)
    else if granted.calloc && granted.ready then
      result.2 = true ∧ view result.1 r = { (view adev r).start granted with standby := false }
    else result.2 = false ∧ view result.1 r = (view adev r).start granted := by
  have standby : (view adev r).standby = (adev.outs r).standby := rfl
  unfold leaveStandby at done
  rw [standby]
  cases asleep : (adev.outs r).standby with
  | false =>
    rw [asleep] at done
    cases done
    rfl
  | true =>
    rw [asleep] at done
    obtain ⟨started, run, rfl⟩ := map_eq_some_iff.mp done
    obtain ⟨flag, seen⟩ := startOutputStream_view offload run
    simp only [flag, Bool.not_true, Bool.false_eq_true, if_false]
    split
    · refine ⟨rfl, ?_⟩
      rw [view_setOut, ← seen]
      rfl
    · exact ⟨rfl, seen⟩

omit offload in
theorem StreamView.stop_keeps (o : StreamView) :
    o.stop.usecase = o.usecase ∧ o.stop.standby = o.standby := by
  unfold StreamView.stop
  split
  · exact ⟨rfl, rfl⟩
  · split <;> exact ⟨rfl, rfl⟩

omit offload in
theorem StreamView.start_keeps (o : StreamView) (granted : Granted) :
    (o.start granted).usecase = o.usecase ∧ (o.start granted).standby = o.standby := by
  unfold StreamView.start
  split
  · exact ⟨rfl, rfl⟩
  · split
    · exact ⟨rfl, rfl⟩
    · exact StreamView.stop_keeps _

theorem outWrite_view {bytes : Nat} {start again : Granted} {result : AudioDevice × Int}
    (done : outWrite misread stack adev r bytes start again written = some result) :
    view result.1 r = (view adev r).write start again ∧
      (0 ≤ result.2 → (view adev r).standby = false → (view adev r).state = .pausedFlushed →
        again.calloc = true) := by
  unfold outWrite at done
  split at done
  · cases done
  · obtain ⟨running, run, rest⟩ := bind_eq_some_iff.mp done
    have left := leaveStandby_view offload run
    unfold StreamView.write
    dsimp only at rest
    cases standby : (view adev r).standby with
    | false =>
      rw [standby] at left
      subst left
      have isOffload : isOffload (adev.outs r) = true := decide_eq_true offload
      rw [isOffload] at rest
      obtain ⟨seen, returned⟩ := outWriteOffload_view rest
      exact ⟨seen, fun nonneg _ => returned nonneg⟩
    | true =>
      obtain ⟨sameUsecase, sameStandby⟩ := (view adev r).start_keeps start
      rw [standby] at left
      by_cases granted : (start.calloc && start.ready) = true
      · rw [if_pos granted] at left ⊢
        obtain ⟨flag, seen⟩ := left
        have usecase : (view running.1 r).usecase = .audioPlaybackOffload := by
          rw [seen]
          exact sameUsecase.trans offload
        have isOffload : isOffload (running.1.outs r) = true := decide_eq_true usecase
        rw [flag, isOffload] at rest
        rw [← seen]
        exact ⟨(outWriteOffload_view rest).1, fun _ awake => by cases awake⟩
      · rw [if_neg granted] at left ⊢
        obtain ⟨flag, seen⟩ := left
        -- the stream is still in standby, which is entered only once
        rw [flag] at rest
        obtain ⟨after, closed, rfl⟩ := map_eq_some_iff.mp rest
        have usecase : (view running.1 r).usecase = .audioPlaybackOffload := by
          rw [seen]
          exact sameUsecase.trans offload
        have asleep : (view running.1 r).standby = true := by
          rw [seen]
          exact sameStandby.trans standby
        have stays := outStandby_view usecase closed
        rw [if_pos asleep] at stays
        exact ⟨stays.trans seen, fun _ awake => by cases awake⟩

theorem onOffload_cases {act : StreamOut → Option AudioDevice}
    (done : onOffload adev r act = some adev') : act (adev.outs r) = some adev' := by
  have isOffload : isOffload (adev.outs r) = true := decide_eq_true offload
  unfold onOffload at done
  simp only [isOffload, Bool.not_true, Bool.false_eq_true, if_false] at done
  split at done
  · cases done
  · exact done

theorem outPause_view (done : outPause adev r = some adev') :
    view adev' r = (view adev r).pause := by
  have acts := onOffload_cases offload done
  split at acts
  · rename_i plays
    cases acts
    rw [disableOutputPath_view, view_setOut]
    exact (if_pos plays).symm
  · rename_i idle
    cases acts
    exact (if_neg idle).symm

theorem outResume_view (done : outResume misread stack adev r granted = some adev') :
    view adev' r = (view adev r).resume granted := by
  have acts := onOffload_cases offload done
  split at acts
  · rename_i paused
    obtain ⟨enabled, run, rfl⟩ := map_eq_some_iff.mp acts
    obtain ⟨_, seen⟩ := enableOutputPath_view run
    have open_paused : (view adev r).compr ≠ none ∧ (view adev r).state = .paused := paused
    unfold StreamView.resume
    rw [view_setOut, if_pos open_paused, ← seen]
    rfl
  · rename_i other
    cases acts
    exact (if_neg other).symm

theorem outFlush_view (done : outFlush adev r = some adev') :
    view adev' r = (view adev r).flush := by
  have acts := onOffload_cases offload done
  split at acts
  · rename_i paused
    cases acts
    rw [view_setOut]
    exact (if_pos paused).symm
  · rename_i other
    cases acts
    exact (if_neg other).symm

end

section

/-- The compress device that is open was started since it was opened or last stopped. -/
def Started (compr : Option Compress) : Prop := ∀ device, compr = some device → device.started = true

inductive Phase (o : StreamView) : Prop where
  | standby (asleep : o.standby = true) (closed : o.compr = none) (absent : o.occurs = 0)
      (reset : o.fx = true → o.state = .idle)
  | playing (awake : o.standby = false) (state : o.state = .playing) (once : o.occurs = 1)
      (started : Started o.compr)
  | paused (awake : o.standby = false) (state : o.state = .paused) (absent : o.occurs = 0)
      (started : Started o.compr)
  | flushed (awake : o.standby = false) (state : o.state = .pausedFlushed) (absent : o.occurs = 0)

variable {o : StreamView}

theorem started_map (compr : Option Compress) : Started (compr.map fun _ => ⟨true⟩) := by
  intro device started
  obtain ⟨_, _, rfl⟩ := map_eq_some_iff.mp started
  rfl

theorem play_enabled (awake : o.standby = false) (idle : o.state ≠ .playing)
    (absent : o.occurs = 0) : Phase o.enable.play := by
  unfold StreamView.play
  rw [if_neg (show ¬ o.enable.state = .playing from idle)]
  exact .playing awake rfl (congrArg (· + 1) absent) (started_map _)

theorem stop_standby (asleep : o.standby = true) (closed : o.compr = none) (few : o.occurs ≤ 1)
    (quiet : o.fx = true → o.state = .paused ∨ o.state = .pausedFlushed → o.occurs = 0) :
    Phase o.stop := by
  unfold StreamView.stop
  split
  · rename_i noFx
    refine .standby asleep closed (Nat.sub_eq_zero_of_le few) ?_
    intro fx
    have present : o.fx = true := fx
    rw [present] at noFx
    cases noFx
  · rename_i fx
    split
    · rename_i paused
      exact .standby asleep closed (quiet (by simpa using fx) paused) fun _ => rfl
    · exact .standby asleep closed (Nat.sub_eq_zero_of_le few) fun _ => rfl

theorem Phase.enterStandby (phase : Phase o) (awake : o.standby = false) : Phase o.enterStandby := by
  cases phase with
  | standby asleep => rw [asleep] at awake; cases awake
  | playing _ state once _ =>
    refine stop_standby rfl rfl (Nat.le_of_eq once) ?_
    intro _ quiet
    rcases quiet with paused | flushed
    · cases state.symm.trans paused
    · cases state.symm.trans flushed
  | paused _ _ absent _ => exact stop_standby rfl rfl (by simp [absent]) fun _ _ => absent
  | flushed _ _ absent => exact stop_standby rfl rfl (by simp [absent]) fun _ _ => absent

variable {granted : Granted} {start again : Granted}

theorem start_fails (asleep : o.standby = true) (closed : o.compr = none) (absent : o.occurs = 0)
    (reset : o.fx = true → o.state = .idle) (fails : (granted.calloc && granted.ready) = false) :
    Phase (o.start granted) := by
  unfold StreamView.start
  split
  · exact .standby asleep closed absent reset
  · rename_i memory
    have calloc : granted.calloc = true := by simpa using memory
    rw [calloc, Bool.true_and] at fails
    rw [if_neg (by simp [fails])]
    refine stop_standby asleep rfl (by simp [StreamView.enable, absent]) ?_
    intro fx quiet
    have idle := reset fx
    rcases quiet with paused | flushed
    · cases idle.symm.trans paused
    · cases idle.symm.trans flushed

/-- When a write is safe: it does not come while the stream is paused, and it does not start a
    stream that went to standby with the state of one that plays or was flushed. -/
def WriteInOrder (o : StreamView) (start : Granted) : Prop :=
  (o.standby = false → o.state ≠ .paused) ∧
    (o.standby = true → o.state = .playing ∨ o.state = .pausedFlushed →
      (start.calloc && start.ready) = false)

instance (o : StreamView) (start : Granted) : Decidable (WriteInOrder o start) :=
  inferInstanceAs (Decidable (_ ∧ _))

theorem Phase.write (phase : Phase o) (inOrder : WriteInOrder o start) :
    Phase (o.write start again) := by
  unfold StreamView.write
  cases phase with
  | standby asleep closed absent reset =>
    rw [if_neg (by simp [asleep])]
    by_cases granted : (start.calloc && start.ready) = true
    · have fresh : ¬ (o.state = .playing ∨ o.state = .pausedFlushed) := by
        intro stale
        have fails := inOrder.2 asleep stale
        rw [granted] at fails
        cases fails
      obtain ⟨notPlaying, notFlushed⟩ := not_or.mp fresh
      obtain ⟨calloc, ready⟩ := Bool.and_eq_true_iff.mp granted
      rw [if_pos granted, StreamView.start, if_neg (by simp [calloc]), if_pos ready]
      have opened : Phase
          ({ o with standby := false, compr := some ⟨false⟩ } : StreamView).enable.play :=
        play_enabled rfl notPlaying absent
      unfold StreamView.writeOffload
      split
      · rename_i flushed
        exact absurd flushed notFlushed
      · exact opened
    · rw [if_neg granted]
      exact start_fails asleep closed absent reset (Bool.not_eq_true _ ▸ granted)
  | playing awake state once started =>
    rw [if_pos (by simp [awake]), StreamView.writeOffload, if_neg (by simp [state]),
      StreamView.play, if_pos state]
    exact .playing awake state once started
  | paused awake state _ _ => exact absurd state (inOrder.1 awake)
  | flushed awake state absent =>
    rw [if_pos (by simp [awake]), StreamView.writeOffload, if_pos state]
    split
    · exact play_enabled awake (by simp [state]) absent
    · exact .flushed awake state absent

theorem Phase.pause (phase : Phase o) : Phase o.pause := by
  unfold StreamView.pause
  split
  · rename_i plays
    cases phase with
    | standby _ closed _ _ => exact absurd closed plays.1
    | playing awake _ once started =>
      exact .paused awake rfl (by simp [StreamView.disable, once]) started
    | paused _ state _ _ => cases state.symm.trans plays.2
    | flushed _ state _ => cases state.symm.trans plays.2
  · exact phase

theorem Phase.resume (phase : Phase o)
    (memory : o.compr ≠ none → o.state = .paused → granted.calloc = true) :
    Phase (o.resume granted) := by
  unfold StreamView.resume
  split
  · rename_i paused
    rw [if_pos (memory paused.1 paused.2)]
    cases phase with
    | standby _ closed _ _ => exact absurd closed paused.1
    | playing _ state _ _ => cases state.symm.trans paused.2
    | paused awake _ absent started => exact .playing awake rfl (congrArg (· + 1) absent) started
    | flushed _ state _ => cases state.symm.trans paused.2
  · exact phase

theorem Phase.flush (phase : Phase o) : Phase o.flush := by
  unfold StreamView.flush
  split
  · rename_i paused
    cases phase with
    | standby asleep closed absent reset =>
      refine .standby asleep (by simp [closed]) absent ?_
      intro fx
      cases (reset fx).symm.trans paused
    | playing _ state _ _ => cases state.symm.trans paused
    | paused awake _ absent _ => exact .flushed awake rfl absent
    | flushed _ state _ => cases state.symm.trans paused
  · exact phase

theorem writeOffload_plays (enabled : o.state = .pausedFlushed → granted.calloc = true) :
    (o.writeOffload granted).state = .playing := by
  have plays : ∀ o : StreamView, o.play.state = .playing := by
    intro o
    unfold StreamView.play
    split
    · assumption
    · rfl
  unfold StreamView.writeOffload
  split
  · rename_i flushed
    rw [if_pos (enabled flushed)]
    exact plays _
  · exact plays o

/-- Only a write that could not enable the path again ends with a device that is not started. -/
theorem Phase.write_started (phase : Phase o) (inOrder : WriteInOrder o start)
    (enabled : o.standby = false → o.state = .pausedFlushed → again.calloc = true) :
    Started (o.write start again).compr := by
  have after : Phase (o.write start again) := phase.write inOrder
  cases after with
  | standby _ closed _ _ =>
    intro device opened
    cases closed.symm.trans opened
  | playing _ _ _ started => exact started
  | paused _ _ _ started => exact started
  | flushed awake state _ =>
    unfold StreamView.write at awake state
    cases standby : o.standby with
    | false =>
      rw [if_pos (by simp [standby])] at state
      cases state.symm.trans (writeOffload_plays (enabled standby))
    | true =>
      rw [if_neg (by simp [standby])] at awake state
      by_cases granted : (start.calloc && start.ready) = true
      · rw [if_pos granted] at state
        obtain ⟨calloc, ready⟩ := Bool.and_eq_true_iff.mp granted
        have started : o.start start = { o.enable with compr := some ⟨false⟩ } := by
          rw [StreamView.start, if_neg (by simp [calloc]), if_pos ready]
        rw [started] at state
        have plays : (({ o.enable with standby := false, compr := some ⟨false⟩ } :
            StreamView).writeOffload again).state = .playing := by
          apply writeOffload_plays
          intro flushed
          have fails := inOrder.2 standby (Or.inr flushed)
          rw [granted] at fails
          cases fails
        cases state.symm.trans plays
      · rw [if_neg granted] at awake
        cases awake.symm.trans ((o.start_keeps start).2.trans standby)

end

section

/-- The calls on the stream. In between, other threads change the audio device, but neither the
    state of the stream nor how often its use case occurs. -/
inductive Event where
  | outWrite (bytes : Nat) (start again : Granted) (written : Int)
  | outPause
  | outResume (granted : Granted)
  | outFlush
  | outStandby
  | others (next : AudioDevice)

def step (misread : StreamOut → InputFields × UsecaseId) (stack : Nat) (r : OutRef)
    (adev : AudioDevice) : Event → Option AudioDevice
  | .outWrite bytes start again written =>
    (outWrite misread stack adev r bytes start again written).map (·.1)
  | .outPause => outPause adev r
  | .outResume granted => outResume misread stack adev r granted
  | .outFlush => outFlush adev r
  | .outStandby => outStandby adev r
  | .others next => if view next r = view adev r then some next else none

/-- Writes come in order, and there is memory to resume a paused stream. -/
def InOrder (r : OutRef) (adev : AudioDevice) : Event → Prop
  | .outWrite _ start _ _ => WriteInOrder (view adev r) start
  | .outResume granted => (adev.outs r).compr ≠ none → (adev.outs r).offloadState = .paused →
      granted.calloc = true
  | _ => True

instance (r : OutRef) (adev : AudioDevice) : (event : Event) → Decidable (InOrder r adev event)
  | .outWrite _ start _ _ => inferInstanceAs (Decidable (WriteInOrder _ start))
  | .outResume _ => inferInstanceAs (Decidable (_ → _ → _))
  | .outPause | .outFlush | .outStandby | .others _ => inferInstanceAs (Decidable True)

variable {adev adev' : AudioDevice}

structure Sound (o : StreamView) : Prop where
  offload : o.usecase = .audioPlaybackOffload
  phase : Phase o

theorem writeOffload_usecase (o : StreamView) (granted : Granted) :
    (o.writeOffload granted).usecase = o.usecase := by
  have play : ∀ o : StreamView, o.play.usecase = o.usecase := by
    intro o
    unfold StreamView.play
    split <;> rfl
  unfold StreamView.writeOffload
  split
  · split
    · exact play o.enable
    · rfl
  · exact play o

theorem write_usecase (o : StreamView) (start again : Granted) :
    (o.write start again).usecase = o.usecase := by
  unfold StreamView.write
  split
  · exact writeOffload_usecase o again
  · split
    · exact (writeOffload_usecase _ again).trans (o.start_keeps start).1
    · exact (o.start_keeps start).1

theorem step_sound {event : Event} (inOrder : InOrder r adev event) (sound : Sound (view adev r))
    (taken : step misread stack r adev event = some adev') : Sound (view adev' r) := by
  obtain ⟨offload, phase⟩ := sound
  cases event with
  | outWrite bytes start again written =>
    obtain ⟨result, done, rfl⟩ := map_eq_some_iff.mp taken
    rw [(outWrite_view offload done).1]
    exact ⟨(write_usecase _ start again).trans offload, phase.write inOrder⟩
  | outPause =>
    rw [outPause_view offload taken]
    refine ⟨?_, phase.pause⟩
    unfold StreamView.pause
    split <;> exact offload
  | outResume granted =>
    rw [outResume_view offload taken]
    refine ⟨?_, phase.resume inOrder⟩
    unfold StreamView.resume
    split
    · split <;> exact offload
    · exact offload
  | outFlush =>
    rw [outFlush_view offload taken]
    refine ⟨?_, phase.flush⟩
    unfold StreamView.flush
    split <;> exact offload
  | outStandby =>
    rw [outStandby_view offload taken]
    split
    · exact ⟨offload, phase⟩
    · rename_i awake
      exact ⟨(StreamView.stop_keeps _).1.trans offload,
        phase.enterStandby (Bool.not_eq_true _ ▸ awake)⟩
  | others next =>
    rw [step] at taken
    split at taken
    · rename_i same
      cases taken
      rw [same]
      exact ⟨offload, phase⟩
    · cases taken

def MatchesRouting (adev : AudioDevice) (r : OutRef) : Prop :=
  let out := adev.outs r
  let entries := adev.usecaseList.countP fun uc => uc.id = .playback out.usecase
  (out.standby = false → out.offloadState = .playing → entries = 1) ∧
    (out.standby = true ∨ out.offloadState = .paused ∨ out.offloadState = .pausedFlushed →
      entries = 0)

instance (adev : AudioDevice) (r : OutRef) : Decidable (MatchesRouting adev r) :=
  inferInstanceAs (Decidable (_ ∧ _))

theorem Phase.matches (phase : Phase (view adev r)) : MatchesRouting adev r := by
  have standby : (view adev r).standby = (adev.outs r).standby := rfl
  have offloadState : (view adev r).state = (adev.outs r).offloadState := rfl
  unfold MatchesRouting
  dsimp only
  rw [← standby, ← offloadState]
  cases phase with
  | standby asleep _ absent _ =>
    exact ⟨fun awake => absurd (asleep.symm.trans awake) (by decide), fun _ => absent⟩
  | playing awake state once _ =>
    refine ⟨fun _ _ => once, ?_⟩
    rw [awake, state]
    intro quiet
    rcases quiet with asleep | paused | flushed
    · cases asleep
    · cases paused
    · cases flushed
  | paused _ state absent _ =>
    exact ⟨fun _ playing => absurd (state.symm.trans playing) (by decide), fun _ => absent⟩
  | flushed _ state absent =>
    exact ⟨fun _ playing => absurd (state.symm.trans playing) (by decide), fun _ => absent⟩

structure Opened (adev : AudioDevice) (r : OutRef) : Prop where
  offload : (adev.outs r).usecase = .audioPlaybackOffload
  standby : (adev.outs r).standby = true
  idle : (adev.outs r).offloadState = .idle
  closed : (adev.outs r).compr = none
  absent : ∀ uc ∈ adev.usecaseList, uc.id ≠ .playback .audioPlaybackOffload

def SoundAt (r : OutRef) (adev : AudioDevice) : Prop := Sound (view adev r)

theorem Opened.sound (opened : Opened adev r) : SoundAt r adev := by
  refine ⟨opened.offload, .standby opened.standby opened.closed ?_ fun _ => opened.idle⟩
  have none := occurs_none (indexOf_none.mpr opened.absent)
  rw [← opened.offload] at none
  exact none

/-- In every run of calls in order, the entries in the use case list match the state of the stream
    in every state that is reached, and behind every further write in order whose value is not
    negative the compress device that is open was started. -/
theorem offload_state_matches (misread : StreamOut → InputFields × UsecaseId) (stack : Nat)
    (r : OutRef) (start : AudioDevice) (opened : Opened start r) (events : List Event)
    (adev : AudioDevice)
    (runs : RunsTo (step misread stack r) (InOrder r) start events adev) :
    MatchesRouting adev r ∧
      ∀ bytes first again written adev' value,
        InOrder r adev (.outWrite bytes first again written) →
        outWrite misread stack adev r bytes first again written = some (adev', value) →
        0 ≤ value → Started (adev'.outs r).compr := by
  have sound : SoundAt r adev :=
    runs.preserves opened.sound fun _ _ _ inOrder sound taken => step_sound inOrder sound taken
  refine ⟨sound.phase.matches, ?_⟩
  intro bytes first again written adev' value inOrder done nonneg
  obtain ⟨seen, returned⟩ := outWrite_view sound.offload done
  have started := sound.phase.write_started inOrder (returned nonneg)
  rw [← seen] at started
  exact started

end

def compressed : OutRef → StreamOut := fun _ =>
  ⟨.audioPlaybackOffload, outSpeaker, true, [], .idle, none, false⟩

def device (fx : Bool) : AudioDevice :=
  ReferenceCounts.adevOpen (ReferenceCounts.session .normal) fx compressed ReferenceCounts.builtinMic

def granted : Granted := ⟨true, true, true⟩

def write : Event := .outWrite 4096 granted granted 4096

def inOrderRun : List Event :=
  [write, .outPause, .outFlush, write, .outPause, .outResume granted, .outStandby]

theorem matches_after_standby : ∃ adev adev',
    RunsTo (step ReferenceCounts.nothingRead 2 0) (InOrder 0) (device true) inOrderRun adev ∧
      MatchesRouting adev 0 ∧
      outWrite ReferenceCounts.nothingRead 2 adev 0 4096 granted granted 4096 =
        some (adev', 4096) ∧ Started (adev'.outs 0).compr := by
  have opened : Opened (device true) 0 := ⟨rfl, rfl, rfl, rfl, fun _ none => by cases none⟩
  have ends : ((runWithin (step ReferenceCounts.nothingRead 2 0) (InOrder 0) (device true)
      inOrderRun).map fun adev =>
        (decide (InOrder 0 adev write),
          (outWrite ReferenceCounts.nothingRead 2 adev 0 4096 granted granted 4096).map (·.2))) =
        some (true, some 4096) := by decide +kernel
  obtain ⟨adev, run, seen⟩ := map_eq_some_iff.mp ends
  obtain ⟨inOrder, written⟩ := Prod.mk.injEq .. ▸ seen
  obtain ⟨⟨adev', value⟩, done, rfl⟩ := map_eq_some_iff.mp written
  have runs := RunsTo.of_runWithin _ _ run
  obtain ⟨routed, started⟩ := offload_state_matches _ _ _ _ opened _ adev runs
  exact ⟨adev, adev', runs, routed, done,
    started _ _ _ _ adev' _ (of_decide_eq_true inOrder) done (by decide)⟩

def afterRun (fx : Bool) (events : List Event) : Option AudioDevice :=
  run (step ReferenceCounts.nothingRead 2 0) (device fx) events

/-- A write to a paused stream and a resume without memory play without a use case. Without the
    effect library the state survives standby, and the next device is never started. -/
theorem offload_state_differs :
    (∃ adev, afterRun true [write, .outPause, write] = some adev ∧ ¬ MatchesRouting adev 0) ∧
    (∃ adev, afterRun true [write, .outPause, .outResume ⟨false, true, true⟩] = some adev ∧
      ¬ MatchesRouting adev 0) ∧
    (∃ adev adev', afterRun false [write, .outStandby] = some adev ∧
      outWrite ReferenceCounts.nothingRead 2 adev 0 4096 granted granted 4096 =
        some (adev', 4096) ∧ ¬ Started (adev'.outs 0).compr) := by
  have differs : ∀ events, ((afterRun true events).map fun adev =>
      decide (MatchesRouting adev 0)) = some false →
      ∃ adev, afterRun true events = some adev ∧ ¬ MatchesRouting adev 0 := by
    intro events ends
    obtain ⟨adev, run, differs⟩ := map_eq_some_iff.mp ends
    exact ⟨adev, run, of_decide_eq_false differs⟩
  refine ⟨differs _ (by decide +kernel), differs _ (by decide +kernel), ?_⟩
  have ends : ((afterRun false [write, .outStandby]).map fun adev =>
      (outWrite ReferenceCounts.nothingRead 2 adev 0 4096 granted granted 4096).map fun result =>
        ((result.1.outs 0).compr, result.2)) = some (some (some ⟨false⟩, 4096)) := by
    decide +kernel
  obtain ⟨adev, run, seen⟩ := map_eq_some_iff.mp ends
  obtain ⟨⟨adev', value⟩, done, seen⟩ := map_eq_some_iff.mp seen
  obtain ⟨compr, rfl⟩ := Prod.mk.injEq .. ▸ seen
  refine ⟨adev, adev', run, done, ?_⟩
  intro started
  cases started ⟨false⟩ compr

end OffloadState
