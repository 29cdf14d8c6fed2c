import SamsungHardware.ThermalControl.Severity

/- Where thermal-helper.cpp hands a severity on: emulated severities, and the hints to the power
   HAL. -/
namespace SeverityHints
open Severity StepRuns Function Option

variable {Name : Type} [DecidableEq Name]

section

/-- The emulated severities, and the one that each watched sensor was last read with: it goes to the
    statistics and into the tables by severity, which nothing does for a sensor that is not watched.
    As indices they count the severities from 0. -/
structure Sensors (Name : Type) where
  (known watched : Name → Bool)
  emulSeverity : Name → Option Int
  severity : Name → Int

inductive Call (Name : Type) where
  | emulTemp (target : Name) (value : Rat)
  | emulSeverity (target : Name) (severity : Int)
  | emulClear (target : Option Name)
  | read (name : Name) (hot cold : ThrottlingSeverity)

def throttlingSeverityCount : Int := 7

variable (s : Sensors Name)

/-- A target is `none` for all the sensors. A severity below zero is not emulated. -/
def Sensors.step : Call Name → Sensors Name
  | .emulTemp target _ =>
    if s.known target then { s with emulSeverity := update s.emulSeverity target (some (-1)) } else s
  | .emulSeverity target severity =>
    if s.known target ∧ ¬ severity > throttlingSeverityCount then
      { s with emulSeverity := update s.emulSeverity target (some severity) }
    else s
  | .emulClear target =>
    { s with
      emulSeverity := fun name =>
        if target.all fun only => only = name then (s.emulSeverity name).map fun _ => -1
        else s.emulSeverity name }
  | .read name hot cold =>
    if s.watched name then
      { s with
        severity := update s.severity name
          (((s.emulSeverity name).filter fun severity => 0 ≤ severity).getD
            (if hot.toNat > cold.toNat then hot.toNat else cold.toNat)) }
    else s

def Sensors.start (known watched : Name → Bool) : Sensors Name :=
  ⟨known, watched, fun _ => none, fun _ => 0⟩

def InRange : Prop := ∀ name, 0 ≤ s.severity name ∧ s.severity name ≤ 6

/-- A watched sensor is not read while the number of severities is emulated for it. -/
def BelowCount : Call Name → Prop
  | .read name _ _ =>
    s.watched name = true → s.emulSeverity name ≠ some throttlingSeverityCount
  | _ => True

structure Kept : Prop where
  range : InRange s
  accepted : ∀ name, ∀ severity ∈ s.emulSeverity name, severity ≤ throttlingSeverityCount

theorem toNat_le (level : ThrottlingSeverity) : level.toNat ≤ 6 := by
  cases level <;> decide

variable {s} (kept : Kept s)
include kept

theorem Kept.emulate {target : Name} {severity : Int} (below : severity ≤ throttlingSeverityCount) :
    Kept { s with emulSeverity := update s.emulSeverity target (some severity) } := by
  refine ⟨kept.range, ?_⟩
  apply (forall_update_iff _ fun _ entry => ∀ severity ∈ entry, severity ≤ throttlingSeverityCount).mpr
  exact ⟨by simpa using below, fun name _ => kept.accepted name⟩

theorem Kept.step (call : Call Name) (below : BelowCount s call) : Kept (s.step call) := by
  cases call with
  | emulTemp target value =>
    rw [Sensors.step]
    split
    · exact kept.emulate (by decide)
    · exact kept
  | emulSeverity target severity =>
    rw [Sensors.step]
    split
    case isTrue accepted => exact kept.emulate (not_lt.mp accepted.2)
    case isFalse => exact kept
  | emulClear target =>
    refine ⟨kept.range, ?_⟩
    intro name severity emulated
    simp only [Sensors.step] at emulated
    split at emulated
    · obtain ⟨_, _, rfl⟩ := map_eq_some_iff.mp emulated
      decide
    · exact kept.accepted name severity emulated
  | read name hot cold =>
    rw [Sensors.step]
    split
    case isFalse => exact kept
    case isTrue watched =>
      refine ⟨(forall_update_iff _ fun _ severity => 0 ≤ severity ∧ severity ≤ 6).mpr
        ⟨?_, fun other _ => kept.range other⟩, kept.accepted⟩
      cases emulated : (s.emulSeverity name).filter fun severity => 0 ≤ severity with
      | none =>
        have high := toNat_le hot
        have low := toNat_le cold
        simp only [getD_none]
        split <;> omega
      | some severity =>
        obtain ⟨entry, positive⟩ := filter_eq_some_iff.mp emulated
        have accepted := kept.accepted name severity entry
        have apart : severity ≠ throttlingSeverityCount := fun same => below watched (same ▸ entry)
        unfold throttlingSeverityCount at accepted apart
        simp only [decide_eq_true_eq] at positive
        simp only [getD_some]
        omega

omit kept

theorem severities_in_range_iff (known watched : Name → Bool) (calls : List (Call Name)) :
    Visits Sensors.step InRange (Sensors.start known watched) calls ↔
      Meets Sensors.step BelowCount (Sensors.start known watched) calls := by
  have holds : ∀ s : Sensors Name, Kept s → InRange s := fun _ kept => kept.range
  refine visits_iff_meets holds (fun s call kept below => kept.step call below) ?_ calls _ ?_
  · intro s call kept beyond range
    cases call with
    | read name hot cold =>
      obtain ⟨watched, emulated⟩ := Classical.not_imp.mp beyond
      have read := (range name).2
      simp [Sensors.step, watched, not_not.mp emulated, Option.filter, throttlingSeverityCount]
        at read
    | _ => exact beyond trivial
  · exact ⟨fun _ => by simp [Sensors.start], nofun⟩

theorem emulated_count_out_of_range :
    (((Sensors.start (fun _ => true) fun _ => true).step (.emulSeverity () 7)).step
      (.read () .none .none)).severity () = 7 := by
  decide

end

/-- One turn of the loop: the table so far and the highest supported severity. -/
def addHint (modes : ThrottlingSeverity → Bool)
    (hints : (ThrottlingSeverity → ThrottlingSeverity) × ThrottlingSeverity)
    (severity : ThrottlingSeverity) :
    (ThrottlingSeverity → ThrottlingSeverity) × ThrottlingSeverity :=
  if severity = .none then (update hints.1 .none .none, hints.2)
  else
    let current := if modes severity then severity else hints.2
    (update hints.1 severity current, current)

def updateSupportedPowerHints (modes : ThrottlingSeverity → Bool) :
    ThrottlingSeverity → ThrottlingSeverity :=
  (levels.foldl (addHint modes) (fun _ => .none, .none)).1

structure Hints (Name : Type) where
  prevHint : Name → ThrottlingSeverity
  enabled : Name → ThrottlingSeverity → Bool

def Hints.setMode (h : Hints Name) (name : Name) (mode : ThrottlingSeverity) (enable : Bool) :
    Hints Name :=
  { h with enabled := update h.enabled name (update (h.enabled name) mode enable) }

variable (modes : Name → ThrottlingSeverity → Bool)

/-- The temperature of a sensor comes with its new severity. -/
def sendPowerExtHint (h : Hints Name) (t : Name × ThrottlingSeverity) : Hints Name :=
  let prev := h.prevHint t.1
  let current := updateSupportedPowerHints (modes t.1) t.2
  if prev = current then h
  else
    let h := if prev ≠ .none then h.setMode t.1 prev false else h
    let h := if current ≠ .none then h.setMode t.1 current true else h
    { h with prevHint := update h.prevHint t.1 current }

def Hints.start : Hints Name := ⟨fun _ => .none, fun _ _ => false⟩

theorem hints_eq_scan (modes : ThrottlingSeverity → Bool) (severity : ThrottlingSeverity) :
    updateSupportedPowerHints modes severity =
      scan fun level => modes level && decide (level.toNat ≤ severity.toNat) := by
  rw [scan_eq_find]
  simp only [updateSupportedPowerHints, levels, fromHigh, List.reverse_cons, List.reverse_nil,
    List.nil_append, List.cons_append, List.foldl_cons, List.foldl_nil, addHint, reduceCtorEq,
    if_true, if_false, update_apply]
  cases severity with
  | none => simp [ThrottlingSeverity.ctorIdx]
  | light | moderate | severe | critical | emergency | shutdown =>
    simp [ThrottlingSeverity.ctorIdx, List.find?_cons]
    grind

/-- Exactly the mode of the last hint is enabled. -/
def Tracks (h : Hints Name) : Prop :=
  ∀ name mode, h.enabled name mode = true ↔ mode = h.prevHint name ∧ mode ≠ .none

variable {modes} {h : Hints Name}

theorem Tracks.send (tracks : Tracks h) (t : Name × ThrottlingSeverity) :
    Tracks (sendPowerExtHint modes h t) := by
  intro name mode
  have old := tracks name mode
  simp only [sendPowerExtHint]
  split_ifs with same
  · exact old
  all_goals
    simp only [Hints.setMode, update_apply]
    grind

theorem send_hint (h : Hints Name) (t : Name × ThrottlingSeverity) :
    (sendPowerExtHint modes h t).prevHint t.1 = updateSupportedPowerHints (modes t.1) t.2 := by
  simp only [sendPowerExtHint]
  split
  case isTrue same => exact same
  case isFalse => exact update_self ..

/-- At most one mode of the sensor is enabled: that of the highest severity that is supported and not
    above the new one. -/
theorem hints_track_severity (modes : Name → ThrottlingSeverity → Bool)
    (sent : List (Name × ThrottlingSeverity)) :
    Meets (sendPowerExtHint modes) (fun h t => ∃ highest,
      (∀ mode, (sendPowerExtHint modes h t).enabled t.1 mode = true ↔
        mode = highest ∧ mode ≠ .none) ∧
      (highest = .none ∨ modes t.1 highest = true ∧ highest.toNat ≤ t.2.toNat) ∧
      ∀ other, other ≠ .none → modes t.1 other = true → other.toNat ≤ t.2.toNat →
        other.toNat ≤ highest.toNat) Hints.start sent := by
  have keep : ∀ h t, Tracks h → Tracks (sendPowerExtHint modes h t) := fun _ t tracks => tracks.send t
  have start : Tracks (Hints.start : Hints Name) := by
    intro name mode
    simp [Hints.start]
  refine meets_of_inv keep ?_ sent _ start
  intro h t tracks
  refine ⟨updateSupportedPowerHints (modes t.1) t.2, ?_, ?_, ?_⟩
  · intro mode
    rw [tracks.send t t.1 mode, send_hint]
  · rw [hints_eq_scan]
    exact (scan_passes _).imp_right fun passes => by simpa using passes
  · intro other above supported below
    rw [hints_eq_scan]
    exact le_scan _ above (by simp [supported, below])

end SeverityHints
