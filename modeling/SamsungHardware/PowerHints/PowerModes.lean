import SamsungHardware.Library.StepRuns

/- The modes of Power.cpp. The hints of sustained performance, of VR and of both exclude each
   other; the hint of every other mode follows the requests for that mode. -/
namespace PowerModes
open StepRuns
open Function (update update_of_ne update_self)

inductive Mode where
  | doubleTapToWake
  | lowPower
  | sustainedPerformance
  | fixedPerformance
  | vr
  | launch
  | expensiveRendering
  | interactive
  | deviceIdle
  | displayInactive
  | audioStreamingLowLatency
  | cameraStreamingSecure
  | cameraStreamingLow
  | cameraStreamingMid
  | cameraStreamingHigh
  | other (value : Int)
  deriving DecidableEq, Repr

inductive Hint where
  | mode (type : Mode)
  | vrSustainedPerformance
  deriving DecidableEq, Repr

structure Power where
  active : Hint → Bool
  (mVRModeOn mSustainedPerfModeOn : Bool)

section

variable (power : Power)

def Power.doHint (hint : Hint) : Power :=
  { power with active := update power.active hint true }

def Power.endHint (hint : Hint) : Power :=
  { power with active := update power.active hint false }

inductive HalState where
  | sustainedPerformance
  | vr
  | vrSustainedPerformance
  | unset
  deriving DecidableEq, Repr

def Power.start (state : HalState) (audioLowLatency rendering : Bool) : Power :=
  let power : Power := ⟨fun _ => false, false, false⟩
  let power := match state with
    | .sustainedPerformance =>
      { power.doHint (.mode .sustainedPerformance) with mSustainedPerfModeOn := true }
    | .vr => { power.doHint (.mode .vr) with mVRModeOn := true }
    | .vrSustainedPerformance =>
      { power.doHint .vrSustainedPerformance with mSustainedPerfModeOn := true, mVRModeOn := true }
    | .unset => power
  let power := if audioLowLatency then power.doHint (.mode .audioStreamingLowLatency) else power
  if rendering then power.doHint (.mode .expensiveRendering) else power

def Power.follow (type : Mode) (enabled : Bool) : Power :=
  if enabled then power.doHint (.mode type) else power.endHint (.mode type)

def Power.setSustained (enabled : Bool) : Power :=
  if enabled && !power.mSustainedPerfModeOn then
    let power := if !power.mVRModeOn then power.doHint (.mode .sustainedPerformance)
      else (power.endHint (.mode .vr)).doHint .vrSustainedPerformance
    { power with mSustainedPerfModeOn := true }
  else if !enabled && power.mSustainedPerfModeOn then
    let power := (power.endHint .vrSustainedPerformance).endHint (.mode .sustainedPerformance)
    let power := if power.mVRModeOn then power.doHint (.mode .vr) else power
    { power with mSustainedPerfModeOn := false }
  else power

def Power.setVR (enabled : Bool) : Power :=
  if enabled && !power.mVRModeOn then
    let power := if !power.mSustainedPerfModeOn then power.doHint (.mode .vr)
      else (power.endHint (.mode .sustainedPerformance)).doHint .vrSustainedPerformance
    { power with mVRModeOn := true }
  else if !enabled && power.mVRModeOn then
    let power := (power.endHint .vrSustainedPerformance).endHint (.mode .vr)
    let power := if power.mSustainedPerfModeOn then power.doHint (.mode .sustainedPerformance)
      else power
    { power with mVRModeOn := false }
  else power

def Power.setMode (type : Mode) (enabled : Bool) : Power :=
  match type with
  | .lowPower => power.follow .lowPower enabled
  | .sustainedPerformance => power.setSustained enabled
  | .vr => power.setVR enabled
  | .launch =>
    if power.mVRModeOn || power.mSustainedPerfModeOn then power else power.follow .launch enabled
  | type => power.follow type enabled

end

/-- The last request for a mode, if there was one. -/
abbrev Requests := Mode → Option Bool

def Requests.start (state : HalState) : Requests
  | .sustainedPerformance => some (state = .sustainedPerformance ∨ state = .vrSustainedPerformance)
  | .vr => some (state = .vr ∨ state = .vrSustainedPerformance)
  | _ => none

def sharedHint (sustained vr : Bool) : Option Hint :=
  match sustained, vr with
  | true, false => some (.mode .sustainedPerformance)
  | false, true => some (.mode .vr)
  | true, true => some .vrSustainedPerformance
  | false, false => none

def shared : Hint → Bool
  | .mode .sustainedPerformance | .mode .vr | .vrSustainedPerformance => true
  | _ => false

structure Run where
  power : Power
  requests : Requests

def step (run : Run) (call : Mode × Bool) : Run :=
  ⟨run.power.setMode call.1 call.2, update run.requests call.1 (some call.2)⟩

def startRun (state : HalState) (audioLowLatency rendering : Bool) : Run :=
  ⟨.start state audioLowLatency rendering, .start state⟩

/-- Of the three hints exactly the one of the requested modes is active, and no hint of a mode
    that was switched off last. -/
def Follows (run : Run) : Prop :=
  (∀ hint, shared hint = true → (run.power.active hint = true ↔
    sharedHint (run.requests .sustainedPerformance == some true)
      (run.requests .vr == some true) = some hint)) ∧
  ∀ type, type ≠ .sustainedPerformance → type ≠ .vr → run.requests type = some false →
    run.power.active (.mode type) = false

/-- `LAUNCH` is not switched off while one of the two modes makes `setMode` ignore that. -/
def Heard (run : Run) (call : Mode × Bool) : Prop :=
  ¬ (call = (.launch, false) ∧ (run.power.mVRModeOn || run.power.mSustainedPerfModeOn) = true ∧
    run.power.active (.mode .launch) = true)

section

def SharedAt (active : Hint → Bool) (sustained vr : Bool) : Prop :=
  active (.mode .sustainedPerformance) = (sustained && !vr) ∧
    active (.mode .vr) = (!sustained && vr) ∧ active .vrSustainedPerformance = (sustained && vr)

theorem shared_iff (active : Hint → Bool) (sustained vr : Bool) :
    (∀ hint, shared hint = true → (active hint = true ↔ sharedHint sustained vr = some hint)) ↔
      SharedAt active sustained vr := by
  constructor
  · intro all
    have first := all (.mode .sustainedPerformance) rfl
    have second := all (.mode .vr) rfl
    have third := all .vrSustainedPerformance rfl
    unfold SharedAt
    cases sustained <;> cases vr <;> simp_all [sharedHint]
  · rintro ⟨first, second, third⟩ hint member
    match hint, member with
    | .mode .sustainedPerformance, _ => cases sustained <;> cases vr <;> simp_all [sharedHint]
    | .mode .vr, _ => cases sustained <;> cases vr <;> simp_all [sharedHint]
    | .vrSustainedPerformance, _ => cases sustained <;> cases vr <;> simp_all [sharedHint]

variable {power : Power}

theorem follow_active (type : Mode) (enabled : Bool) :
    (power.follow type enabled).active = update power.active (.mode type) enabled := by
  cases enabled <;> rfl

@[simp] theorem follow_sustained (type : Mode) (enabled : Bool) :
    (power.follow type enabled).mSustainedPerfModeOn = power.mSustainedPerfModeOn := by
  cases enabled <;> rfl

@[simp] theorem follow_vr (type : Mode) (enabled : Bool) :
    (power.follow type enabled).mVRModeOn = power.mVRModeOn := by
  cases enabled <;> rfl

structure Switched (power after : Power) (sustained vr : Bool) : Prop where
  sustainedOn : after.mSustainedPerfModeOn = sustained
  vrOn : after.mVRModeOn = vr
  three : SharedAt after.active sustained vr
  others : ∀ hint, shared hint = false → after.active hint = power.active hint

theorem shared_apart {hint : Hint} (outside : shared hint = false) :
    hint ≠ .mode .sustainedPerformance ∧ hint ≠ .mode .vr ∧ hint ≠ .vrSustainedPerformance := by
  refine ⟨?_, ?_, ?_⟩ <;> rintro rfl <;> cases outside

section

variable (enabled : Bool) (at' : SharedAt power.active power.mSustainedPerfModeOn power.mVRModeOn)
include enabled at'

theorem setSustained_switched :
    Switched power (power.setSustained enabled) enabled power.mVRModeOn := by
  obtain ⟨active, vr, sustained⟩ := power
  have apart := @shared_apart
  cases enabled <;> cases sustained <;> cases vr <;> constructor <;>
    simp_all [Power.setSustained, Power.doHint, Power.endHint, SharedAt, update]

theorem setVR_switched :
    Switched power (power.setVR enabled) power.mSustainedPerfModeOn enabled := by
  obtain ⟨active, vr, sustained⟩ := power
  have apart := @shared_apart
  cases enabled <;> cases sustained <;> cases vr <;> constructor <;>
    simp_all [Power.setVR, Power.doHint, Power.endHint, SharedAt, update]

end

/-- A call for any other mode follows the request, unless it is for `LAUNCH` and ignored. -/
theorem setMode_other (power : Power) (type : Mode) (enabled : Bool) (notSustained : type ≠ .sustainedPerformance)
    (notVR : type ≠ .vr) :
    power.setMode type enabled = power.follow type enabled ∨
      (type = .launch ∧ (power.mVRModeOn || power.mSustainedPerfModeOn) = true ∧
        power.setMode type enabled = power) := by
  cases type with
  | sustainedPerformance => exact absurd rfl notSustained
  | vr => exact absurd rfl notVR
  | launch =>
    by_cases on : (power.mVRModeOn || power.mSustainedPerfModeOn) = true
    · exact Or.inr ⟨rfl, on, if_pos on⟩
    · exact Or.inl (if_neg on)
  | _ => exact Or.inl rfl

end

structure Consistent (run : Run) : Prop where
  sustained : run.requests .sustainedPerformance = some run.power.mSustainedPerfModeOn
  vr : run.requests .vr = some run.power.mVRModeOn
  three : SharedAt run.power.active run.power.mSustainedPerfModeOn run.power.mVRModeOn
  quiet : ∀ type, type ≠ .sustainedPerformance → type ≠ .vr → run.requests type = some false →
    run.power.active (.mode type) = false

theorem Consistent.follows {run : Run} (consistent : Consistent run) : Follows run := by
  refine ⟨?_, consistent.quiet⟩
  rw [shared_iff, consistent.sustained, consistent.vr]
  have same : ∀ b : Bool, (some b == some true) = b := by decide
  rw [same, same]
  exact consistent.three

theorem start_consistent (state : HalState) (audioLowLatency rendering : Bool) :
    Consistent (startRun state audioLowLatency rendering) := by
  have others : ∀ type, type ≠ .sustainedPerformance → type ≠ .vr →
      Requests.start state type = none := by
    intro type notSustained notVR
    unfold Requests.start
    split
    · exact absurd rfl notSustained
    · exact absurd rfl notVR
    · rfl
  constructor
  · cases state <;> cases audioLowLatency <;> cases rendering <;> rfl
  · cases state <;> cases audioLowLatency <;> cases rendering <;> rfl
  · cases state <;> cases audioLowLatency <;> cases rendering <;>
      simp [SharedAt, startRun, Power.start, Power.doHint, update]
  · intro type notSustained notVR off
    have none := others type notSustained notVR
    exact absurd (none.symm.trans off) (by decide)

theorem Consistent.switch {run : Run} (consistent : Consistent run) {after : Power}
    {requests : Requests} {sustained vr : Bool} (switched : Switched run.power after sustained vr)
    (sustainedNow : requests .sustainedPerformance = some sustained)
    (vrNow : requests .vr = some vr)
    (rest : ∀ type, type ≠ .sustainedPerformance → type ≠ .vr →
      requests type = run.requests type) : Consistent ⟨after, requests⟩ := by
  constructor
  · rw [switched.sustainedOn]
    exact sustainedNow
  · rw [switched.vrOn]
    exact vrNow
  · rw [switched.sustainedOn, switched.vrOn]
    exact switched.three
  · intro type notSustained notVR off
    have apart : shared (.mode type) = false := by
      cases type <;> first | rfl | contradiction
    rw [switched.others _ apart]
    exact consistent.quiet type notSustained notVR ((rest type notSustained notVR).symm.trans off)

theorem Consistent.other {run : Run} (consistent : Consistent run) {type : Mode} {enabled : Bool}
    (notSustained : type ≠ .sustainedPerformance) (notVR : type ≠ .vr)
    (heard : Heard run (type, enabled)) : Consistent (step run (type, enabled)) := by
  have asked : (step run (type, enabled)).requests type = some enabled :=
    update_self _ _ _
  have stays : ∀ other, other ≠ type →
      (step run (type, enabled)).requests other = run.requests other :=
    fun other apart => update_of_ne apart _ _
  have sustained := (stays _ (Ne.symm notSustained)).trans consistent.sustained
  have vr := (stays _ (Ne.symm notVR)).trans consistent.vr
  rcases setMode_other run.power type enabled notSustained notVR with
    follow | ⟨launch, on, ignored⟩
  · have after : (step run (type, enabled)).power = run.power.follow type enabled := follow
    constructor
    · rw [after, follow_sustained]
      exact sustained
    · rw [after, follow_vr]
      exact vr
    · rw [after, follow_sustained, follow_vr, follow_active]
      unfold SharedAt
      rw [update_of_ne (by simpa using Ne.symm notSustained),
        update_of_ne (by simpa using Ne.symm notVR),
        update_of_ne (by simp)]
      exact consistent.three
    · intro other otherSustained otherVR off
      rw [after, follow_active]
      by_cases same : other = type
      · subst same
        rw [update_self]
        exact Option.some.inj (asked.symm.trans off)
      · rw [update_of_ne (by simpa using same)]
        exact consistent.quiet other otherSustained otherVR ((stays _ same).symm.trans off)
  · have after : (step run (type, enabled)).power = run.power := ignored
    constructor
    · rw [after]
      exact sustained
    · rw [after]
      exact vr
    · rw [after]
      exact consistent.three
    · intro other otherSustained otherVR off
      rw [after]
      by_cases same : other = type
      · subst same launch
        have disabled : enabled = false := Option.some.inj (asked.symm.trans off)
        subst disabled
        exact Bool.eq_false_iff.mpr fun active => heard ⟨rfl, on, active⟩
      · exact consistent.quiet other otherSustained otherVR ((stays _ same).symm.trans off)

theorem Consistent.keep {run : Run} (consistent : Consistent run) (call : Mode × Bool)
    (heard : Heard run call) : Consistent (step run call) := by
  obtain ⟨type, enabled⟩ := call
  by_cases isSustained : type = .sustainedPerformance
  · subst isSustained
    apply consistent.switch (setSustained_switched enabled consistent.three)
    · rw [update_self]
    · exact (update_of_ne Mode.noConfusion _ _).trans consistent.vr
    · exact fun other notSustained _ => update_of_ne notSustained _ _
  · by_cases isVR : type = .vr
    · subst isVR
      apply consistent.switch (setVR_switched enabled consistent.three)
      · exact (update_of_ne Mode.noConfusion _ _).trans consistent.sustained
      · rw [update_self]
      · exact fun other _ notVR => update_of_ne notVR _ _
    · exact consistent.other isSustained isVR heard

theorem not_heard {run : Run} {call : Mode × Bool} (ignored : ¬ Heard run call) :
    ¬ Follows (step run call) := by
  obtain ⟨rfl, on, active⟩ := Classical.not_not.mp ignored
  intro follows
  have asked : (step run (.launch, false)).requests .launch = some false := by simp [step]
  have off := follows.2 .launch (by decide) (by decide) asked
  have same : run.power.setMode .launch false = run.power := if_pos on
  rw [step, same, active] at off
  cases off

/-- The active hints follow the requests throughout a run exactly if no call is ignored that
    switches `LAUNCH` off. -/
theorem hints_follow_requests (state : HalState) (audioLowLatency rendering : Bool)
    (calls : List (Mode × Bool)) :
    Visits step Follows (startRun state audioLowLatency rendering) calls ↔
      Meets step Heard (startRun state audioLowLatency rendering) calls :=
  visits_iff_meets (fun _ consistent => consistent.follows)
    (fun _ call consistent heard => consistent.keep call heard)
    (fun _ _ _ ignored => not_heard ignored) calls _ (start_consistent _ _ _)

/-- VR comes on between the two calls for `LAUNCH`. -/
theorem launch_stays_active :
    ¬ Visits step Follows (startRun .unset false false)
      [(.launch, true), (.vr, true), (.launch, false)] := by
  rintro ⟨_, _, _, follows⟩
  have off := follows.2 .launch (by decide) (by decide) rfl
  cases off

end PowerModes
