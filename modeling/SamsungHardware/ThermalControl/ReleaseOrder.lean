import SamsungHardware.ThermalControl.CoolingRequests

/- In which order throttlingReleaseUpdate of thermal_throttling.cpp may walk the bound devices. -/
namespace ReleaseOrder
open CoolingRequests Severity Function List Option

variable {Sensor Cdev Rail : Type} [DecidableEq Cdev] (config : Config Sensor Cdev Rail)
  (power : Rail → Option (Option Rat)) (severity : ThrottlingSeverity)

/-- The loop does not end at the device. -/
def Ready (status : ThrottlingStatus Cdev) (binding : Cdev × BindedCdevInfo Rail) : Prop :=
  (status.throttlingRelease binding.1).isSome ∧ (binding.2.powerRail.bind power).isSome

def ownStep (binding : Cdev × BindedCdevInfo Rail) (entry : Option Int) : Option Int :=
  entry.bind fun step => (binding.2.powerRail.bind power).bind fun avgPower =>
    (config.coolingDeviceInfo binding.1).map fun device =>
      releaseStep binding.2 device.maxState severity avgPower step

def served (status : ThrottlingStatus Cdev) (binding : Cdev × BindedCdevInfo Rail) :
    ThrottlingStatus Cdev :=
  { status with
    throttlingRelease := update status.throttlingRelease binding.1
      (ownStep config power severity binding (status.throttlingRelease binding.1)) }

section

variable (info : BindedCdevInfo Rail)

/-- The power is on the side of the threshold on which the device is released. -/
def Under (avgPower : Rat) : Prop :=
  ∃ threshold ∈ info.powerThresholds severity,
    if info.highPowerCheck then threshold < avgPower else avgPower < threshold

/-- The step is one that the release logic of the device leaves as it is. -/
def Settled (maxState : Nat) (avgPower : Option Rat) (step : Int) : Prop :=
  ((∀ known ∈ avgPower, known < 0) →
    step = if info.throttlingWithPowerLink then (maxState : Int) else 0) ∧
  ∀ known ∈ avgPower, 0 ≤ known →
    (Under severity info known → match info.releaseLogic with
      | .increase => maxState ≤ step.natAbs
      | .decrease | .stepwise => maxState ≤ step
      | .releaseToFloor => step = maxState
      | .none => True) ∧
    (¬ Under severity info known → match info.releaseLogic with
      | .increase | .decrease | .releaseToFloor => step = 0
      | .stepwise => maxState ≤ step.natAbs
      | .none => True)

theorem isOverBudget_iff (avgPower : Rat) :
    isOverBudget info severity avgPower = false ↔ Under severity info avgPower := by
  unfold isOverBudget Under
  cases info.powerThresholds severity with
  | none => simp
  | some threshold => cases info.highPowerCheck <;> simp

theorem releaseStep_eq_iff (maxState : Nat) (avgPower : Option Rat) (step : Int) :
    releaseStep info maxState severity avgPower step = step ↔
      Settled severity info maxState avgPower step := by
  unfold releaseStep Settled
  cases filtered : avgPower.filter fun known => 0 ≤ known with
  | none =>
    have negative : ∀ known ∈ avgPower, known < 0 := by simpa using filtered
    grind
  | some known =>
    obtain ⟨here, positive⟩ := Option.filter_eq_some_iff.mp filtered
    have same := isOverBudget_iff severity info known
    simp only [decide_eq_true_eq] at positive
    subst here
    simp only [Option.mem_some_iff, forall_eq', positive, true_implies, ← same]
    cases isOverBudget info severity known <;> cases info.releaseLogic <;> grind

end

/-- No update of the device alone changes its step. -/
def Idle (status : ThrottlingStatus Cdev) (binding : Cdev × BindedCdevInfo Rail) : Prop :=
  ∀ step ∈ status.throttlingRelease binding.1, ∀ rail ∈ binding.2.powerRail,
    ∀ avgPower ∈ power rail, ∀ device ∈ config.coolingDeviceInfo binding.1,
      Settled severity binding.2 device.maxState avgPower step

variable {config power severity} {status : ThrottlingStatus Cdev}
  {binding : Cdev × BindedCdevInfo Rail} {bindings : List (Cdev × BindedCdevInfo Rail)}

theorem release_cons (known : (config.coolingDeviceInfo binding.1).isSome)
    (ready : Ready power status binding) :
    throttlingReleaseUpdate config power severity (binding :: bindings) status =
      throttlingReleaseUpdate config power severity bindings
        (served config power severity status binding) := by
  obtain ⟨device, known⟩ := isSome_iff_exists.mp known
  obtain ⟨step, entry⟩ := isSome_iff_exists.mp ready.1
  obtain ⟨avgPower, rail⟩ := isSome_iff_exists.mp ready.2
  simp [throttlingReleaseUpdate, served, ownStep, entry, rail, known]

theorem release_ends (ends : ¬ Ready power status binding) :
    throttlingReleaseUpdate config power severity (binding :: bindings) status = some status := by
  unfold throttlingReleaseUpdate
  split
  case h_1 entry rail => exact absurd ⟨by simp [entry], by simp [rail]⟩ ends
  case h_2 => rfl

theorem release_alone_iff (known : (config.coolingDeviceInfo binding.1).isSome) :
    throttlingReleaseUpdate config power severity [binding] status = some status ↔
      Idle config power severity status binding := by
  by_cases ready : Ready power status binding
  · rw [release_cons known ready]
    obtain ⟨device, known⟩ := isSome_iff_exists.mp known
    obtain ⟨step, entry⟩ := isSome_iff_exists.mp ready.1
    obtain ⟨avgPower, found⟩ := isSome_iff_exists.mp ready.2
    obtain ⟨rail, named, measured⟩ := bind_eq_some_iff.mp found
    have own : served config power severity status binding = status ↔
        releaseStep binding.2 device.maxState severity avgPower step = step := by
      have entries : served config power severity status binding = status ↔
          update status.throttlingRelease binding.1 (some (releaseStep binding.2 device.maxState
            severity avgPower step)) = status.throttlingRelease := by
        obtain ⟨_, _, _, release, _⟩ := status
        have entry : release binding.1 = some step := entry
        simp [served, ownStep, entry, found, known]
      rw [entries, update_eq_self_iff, entry, some_inj]
    simp [throttlingReleaseUpdate, own, releaseStep_eq_iff, Idle, entry, named, measured, known]
  · refine iff_of_true (release_ends ready) ?_
    intro step entry rail named avgPower measured
    refine absurd ⟨isSome_of_mem entry, ?_⟩ ready
    rw [mem_def.mp named]
    exact isSome_of_mem measured

/-- A served device keeps its entry, so that every device stays as ready as it was. -/
theorem ready_served (known : (config.coolingDeviceInfo binding.1).isSome)
    (ready : Ready power status binding) (other : Cdev × BindedCdevInfo Rail) :
    Ready power (served config power severity status binding) other ↔ Ready power status other := by
  obtain ⟨device, known⟩ := isSome_iff_exists.mp known
  obtain ⟨step, entry⟩ := isSome_iff_exists.mp ready.1
  obtain ⟨avgPower, rail⟩ := isSome_iff_exists.mp ready.2
  unfold Ready served
  by_cases same : other.1 = binding.1
  · simp [same, ownStep, entry, rail, known]
  · simp [update_of_ne same]

section

variable (bindings) (known : ∀ b ∈ bindings, (config.coolingDeviceInfo b.1).isSome)
include known

theorem release_all :
    ∀ status, (∀ b ∈ bindings, Ready power status b) →
      throttlingReleaseUpdate config power severity bindings status =
        some (bindings.foldl (served config power severity) status) := by
  induction bindings with
  | nil =>
    intro status _
    rfl
  | cons binding rest ih =>
    intro status ready
    have first := ready binding mem_cons_self
    have here := known binding mem_cons_self
    rw [release_cons here first, ih fun b later => known b (mem_cons_of_mem _ later)]
    · rfl
    · intro b later
      exact (ready_served here first b).mpr (ready b (mem_cons_of_mem _ later))

theorem release_idle (idle : ∀ b ∈ bindings, throttlingReleaseUpdate config power severity [b] status = some status) :
    throttlingReleaseUpdate config power severity bindings status = some status := by
  induction bindings with
  | nil => rfl
  | cons binding rest ih =>
    obtain ⟨here, known⟩ := forall_mem_cons.mp known
    obtain ⟨first, idle⟩ := forall_mem_cons.mp idle
    by_cases ready : Ready power status binding
    · rw [release_cons here ready] at first ⊢
      rw [Option.some.inj first]
      exact ih known idle
    · exact release_ends ready

end

theorem served_comm (distinct : (bindings.map Prod.fst).Nodup) :
    ∀ x ∈ bindings, ∀ y ∈ bindings, ∀ status : ThrottlingStatus Cdev,
      served config power severity (served config power severity status x) y =
        served config power severity (served config power severity status y) x := by
  intro x first y second status
  by_cases same : x.1 = y.1
  · rw [inj_on_of_nodup_map distinct first second same]
  · unfold served
    simp only [update_of_ne same, update_of_ne (Ne.symm same)]
    rw [update_comm same]

/-- The order does not matter exactly if the loop ends at no device, or if no device that it could
    serve would get another step by its logic, its power and the step it has. -/
theorem release_order_iff (known : ∀ b ∈ bindings, (config.coolingDeviceInfo b.1).isSome)
    (distinct : (bindings.map Prod.fst).Nodup) :
    (∀ order, bindings ~ order →
      throttlingReleaseUpdate config power severity order status =
        throttlingReleaseUpdate config power severity bindings status) ↔
    (∀ b ∈ bindings, Ready power status b) ∨
      ∀ b ∈ bindings, Idle config power severity status b := by
  have alone : (∀ b ∈ bindings, Idle config power severity status b) ↔ ∀ b ∈ bindings,
      throttlingReleaseUpdate config power severity [b] status = some status :=
    forall₂_congr fun b member => (release_alone_iff (known b member)).symm
  rw [alone]
  constructor
  · intro free
    by_cases ready : ∀ b ∈ bindings, Ready power status b
    · exact Or.inl ready
    right
    push Not at ready
    obtain ⟨stop, member, ends⟩ := ready
    obtain ⟨front, back, rfl⟩ := append_of_mem member
    have unchanged := free _ perm_middle
    rw [release_ends ends] at unchanged
    intro b among
    by_cases ready : Ready power status b
    · -- With the device first and the one that ends the loop behind it, only the device is served.
      rcases mem_cons.mp (perm_middle.mem_iff.mp among) with rfl | among
      · exact absurd ready ends
      obtain ⟨left, right, split⟩ := append_of_mem among
      have order : front ++ stop :: back ~ b :: stop :: (left ++ right) :=
        perm_middle.trans (split ▸ (perm_middle.cons stop).trans (.swap b stop _))
      have here := known b (order.mem_iff.mpr mem_cons_self)
      have alone := free _ order
      rw [release_cons here ready, release_ends (mt (ready_served here ready stop).mp ends),
        ← unchanged] at alone
      rw [release_cons here ready]
      exact alone
    · exact release_ends ready
  · rintro (ready | idle) order walked
    · rw [release_all bindings known status ready, release_all order _ status,
        walked.foldl_eq' (served_comm distinct)]
      · exact fun b member => ready b (walked.mem_iff.mpr member)
      · exact fun b member => known b (walked.mem_iff.mpr member)
    · rw [release_idle bindings known idle, release_idle order _ _]
      · exact fun b member => known b (walked.mem_iff.mpr member)
      · exact fun b member => idle b (walked.mem_iff.mpr member)

def plain : BindedCdevInfo Unit :=
  ⟨fun _ => 1, fun _ => none, .none, fun _ => none, fun _ => 1, fun _ => 0, none, false, false⟩

def stepped : BindedCdevInfo Unit :=
  { plain with powerThresholds := fun _ => some 1, releaseLogic := .stepwise, powerRail := some () }

/-- Two devices with one state above the lowest; the second one counts stepwise over a rail. -/
def pair (first : BindedCdevInfo Unit) : Config Unit Bool Unit :=
  ⟨[()], fun _ => some ⟨[], 1⟩, fun _ => [(false, first), (true, stepped)], List.nodup_singleton (),
    fun _ => by simp⟩

def zeroSteps : ThrottlingStatus Bool :=
  ⟨fun _ => none, fun _ => none, fun _ => none, fun _ => some 0, fun _ => none⟩

theorem two_released_in_either_order :
    throttlingReleaseUpdate (pair stepped) (fun _ => some (some 0)) .light
        [(true, stepped), (false, stepped)] zeroSteps =
      throttlingReleaseUpdate (pair stepped) (fun _ => some (some 0)) .light
        [(false, stepped), (true, stepped)] zeroSteps := by
  refine (release_order_iff (fun _ _ => rfl) ?_).mpr (Or.inl ?_) _ (.swap _ _ _)
  · simp
  · simp [Ready, zeroSteps, stepped]

/-- Behind a device without a rail the step of the other device is not updated. -/
theorem order_changes_release :
    ((initialise (pair plain)).bind fun h =>
      (throttlingReleaseUpdate (pair plain) (fun _ => some (some 0)) .light
        [(false, plain), (true, stepped)] (h.throttlingStatus ())).map (·.throttlingRelease true)) =
      some (some 0) ∧
    ((initialise (pair plain)).bind fun h =>
      (throttlingReleaseUpdate (pair plain) (fun _ => some (some 0)) .light
        [(true, stepped), (false, plain)] (h.throttlingStatus ())).map (·.throttlingRelease true)) =
      some (some 1) := by
  decide +kernel

end ReleaseOrder
