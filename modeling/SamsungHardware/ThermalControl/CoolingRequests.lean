import SamsungHardware.Library.VoteSets
import SamsungHardware.ThermalControl.Severity

/- Requests of the sensors for the cooling devices: thermal_throttling.cpp and the watcher callback
   of thermal-helper.cpp. A result is missing where the code throws, reads outside of a vector or
   overflows an int. -/
namespace CoolingRequests
open Severity StepRuns VoteSets Function Option

variable {Sensor Cdev Rail : Type}

inductive ReleaseLogic where
  | increase | decrease | stepwise | releaseToFloor | none
  deriving DecidableEq, Repr

/-- Values per severity; a number that is not one is `none`. -/
structure BindedCdevInfo (Rail : Type) where
  limitInfo : ThrottlingSeverity → Int
  powerThresholds : ThrottlingSeverity → Option Rat
  releaseLogic : ReleaseLogic
  cdevWeightForPid : ThrottlingSeverity → Option Rat
  (cdevCeiling cdevFloorWithPowerLink : ThrottlingSeverity → Int)
  powerRail : Option Rail
  (highPowerCheck throttlingWithPowerLink : Bool)

structure CdevInfo where
  state2power : List (Option Rat)
  maxState : Nat

/-- The parsed configuration. The order of the sensors and of a sensor's devices is that in which the
    maps are walked. -/
structure Config (Sensor Cdev Rail : Type) where
  sensors : List Sensor
  coolingDeviceInfo : Cdev → Option CdevInfo
  bindedCdevInfo : Sensor → List (Cdev × BindedCdevInfo Rail)
  sensors_nodup : sensors.Nodup
  binded_nodup : ∀ sensor, ((bindedCdevInfo sensor).map Prod.fst).Nodup

def BindedCdevInfo.lower (info : BindedCdevInfo Rail) (device : Option CdevInfo) :
    BindedCdevInfo Rail :=
  match device with
  | none => info
  | some device =>
    { info with
      cdevCeiling := fun severity =>
        if info.cdevCeiling severity > device.maxState then device.maxState
        else info.cdevCeiling severity }

def Config.lower (config : Config Sensor Cdev Rail) : Config Sensor Cdev Rail :=
  { config with
    bindedCdevInfo := fun sensor => (config.bindedCdevInfo sensor).map fun binding =>
      (binding.1, binding.2.lower (config.coolingDeviceInfo binding.1))
    binded_nodup := by
      intro sensor
      rw [List.map_map]
      exact config.binded_nodup sensor }

section

structure ThrottlingStatus (Cdev : Type) where
  (pidPowerBudget pidCdevRequest hardlimitCdevRequest throttlingRelease : Cdev → Option Int)
  cdevStatus : Cdev → Option Int

/-- A device has no entry in `cdevAllRequest` as long as its set is empty; `written` is the state last
    written to it. -/
structure Helper (Sensor Cdev : Type) where
  throttlingStatus : Sensor → ThrottlingStatus Cdev
  cdevAllRequest : Cdev → List Int
  written : Cdev → Int

variable [DecidableEq Sensor] [DecidableEq Cdev]

def intMax : Int := 2 ^ 31 - 1

def Helper.start : Helper Sensor Cdev :=
  ⟨fun _ => ⟨fun _ => none, fun _ => none, fun _ => none, fun _ => none, fun _ => none⟩, fun _ => [],
    fun _ => 0⟩

variable (h : Helper Sensor Cdev)

def Helper.setStatus (sensor : Sensor) (status : ThrottlingStatus Cdev) : Helper Sensor Cdev :=
  { h with throttlingStatus := update h.throttlingStatus sensor status }

def Helper.insertRequest (cdev : Cdev) (request : Int) : Helper Sensor Cdev :=
  { h with
    cdevAllRequest :=
      update h.cdevAllRequest cdev (VoteSets.insert request (h.cdevAllRequest cdev)) }

end

section

variable [DecidableEq Sensor] [DecidableEq Cdev] (h : Helper Sensor Cdev) (sensor : Sensor)

def registerPid (cdev : Cdev) : Helper Sensor Cdev :=
  let status := h.throttlingStatus sensor
  (h.setStatus sensor { status with
    pidPowerBudget := update status.pidPowerBudget cdev (some intMax)
    pidCdevRequest := update status.pidCdevRequest cdev (some 0)
    cdevStatus := update status.cdevStatus cdev (some 0) }).insertRequest cdev 0

def registerHardLimit (cdev : Cdev) : Helper Sensor Cdev :=
  let status := h.throttlingStatus sensor
  (h.setStatus sensor { status with
    hardlimitCdevRequest := update status.hardlimitCdevRequest cdev (some 0)
    cdevStatus := update status.cdevStatus cdev (some 0) }).insertRequest cdev 0

def registerRelease (cdev : Cdev) : Helper Sensor Cdev :=
  let status := h.throttlingStatus sensor
  h.setStatus sensor { status with
    throttlingRelease := update status.throttlingRelease cdev (some 0) }

def registerDevice (h : Helper Sensor Cdev) (cdev : Cdev)
    (info : BindedCdevInfo Rail) : Helper Sensor Cdev :=
  let h := if levels.any fun severity => (info.cdevWeightForPid severity).isSome then
    registerPid h sensor cdev else h
  let h := if levels.any fun severity => decide (info.limitInfo severity > 0) then
    registerHardLimit h sensor cdev else h
  if info.powerRail.isSome && levels.any fun severity => (info.powerThresholds severity).isSome then
    registerRelease h sensor cdev else h

variable (config : Config Sensor Cdev Rail)

def registerBinding (sensor : Sensor) (h : Helper Sensor Cdev)
    (binding : Cdev × BindedCdevInfo Rail) : Option (Helper Sensor Cdev) :=
  if (config.coolingDeviceInfo binding.1).isNone then none
  else some (registerDevice sensor h binding.1 binding.2)

def registerThermalThrottling (h : Helper Sensor Cdev)
    (sensor : Sensor) : Option (Helper Sensor Cdev) :=
  run (registerBinding config sensor) h (config.bindedCdevInfo sensor)

def initialise : Option (Helper Sensor Cdev) :=
  run (registerThermalThrottling config) Helper.start config.sensors

end

section

variable [DecidableEq Sensor] [DecidableEq Cdev]

def ThrottlingStatus.clearThrottlingData (status : ThrottlingStatus Cdev) : ThrottlingStatus Cdev :=
  { status with
    pidPowerBudget := fun cdev => (status.pidPowerBudget cdev).map fun _ => intMax
    pidCdevRequest := fun cdev => (status.pidCdevRequest cdev).map fun _ => 0
    hardlimitCdevRequest := fun cdev => (status.hardlimitCdevRequest cdev).map fun _ => 0
    throttlingRelease := fun cdev => (status.throttlingRelease cdev).map fun _ => 0 }

/-- The first state whose power the budget covers, or the last one. The comparison is exact, where
    the source rounds a budget above 2^24 to a `float` first. -/
def stateByPower (state2power : List (Option Rat)) (budget : Int) : Option Nat :=
  if state2power.isEmpty then none
  else some (state2power.dropLast.findIdx fun power => power.any fun p => p ≤ (budget : Rat))

def updateCdevRequestByPower (config : Config Sensor Cdev Rail) (status : ThrottlingStatus Cdev)
    (binding : Cdev × BindedCdevInfo Rail) : Option (ThrottlingStatus Cdev) :=
  match status.pidPowerBudget binding.1 with
  | none => some status
  | some budget =>
    (config.coolingDeviceInfo binding.1).bind fun device =>
      (stateByPower device.state2power budget).map fun (state : Nat) =>
        { status with
          pidCdevRequest := update status.pidCdevRequest binding.1 (some (state : Int)) }

/-- The hard limits are stored with the checked access of the map. -/
def updateCdevRequestBySeverity (severity : ThrottlingSeverity) (status : ThrottlingStatus Cdev)
    (binding : Cdev × BindedCdevInfo Rail) : Option (ThrottlingStatus Cdev) :=
  (status.hardlimitCdevRequest binding.1).map fun _ =>
    { status with
      hardlimitCdevRequest := update status.hardlimitCdevRequest binding.1
        (some (binding.2.limitInfo severity)) }

def isOverBudget (info : BindedCdevInfo Rail) (severity : ThrottlingSeverity) (avgPower : Rat) :
    Bool :=
  !((info.powerThresholds severity).any fun threshold =>
    if info.highPowerCheck then decide (avgPower > threshold) else decide (avgPower < threshold))

def releaseStep (info : BindedCdevInfo Rail) (maxState : Nat) (severity : ThrottlingSeverity)
    (avgPower : Option Rat) (step : Int) : Int :=
  match avgPower.filter fun power => 0 ≤ power with
  | none => if info.throttlingWithPowerLink then maxState else 0
  | some power =>
    match info.releaseLogic, isOverBudget info severity power with
    | .increase, false => if step.natAbs < maxState then step - 1 else step
    | .increase, true => 0
    | .decrease, false => if step < maxState then step + 1 else step
    | .decrease, true => 0
    | .stepwise, false => if step < maxState then step + 1 else step
    | .stepwise, true => if step.natAbs < maxState then step - 1 else step
    | .releaseToFloor, overBudget => if overBudget then 0 else maxState
    | .none, _ => step

/-- The loop ends with the first device that has no release step or no known power rail. -/
def throttlingReleaseUpdate (config : Config Sensor Cdev Rail)
    (powerStatus : Rail → Option (Option Rat)) (severity : ThrottlingSeverity) :
    List (Cdev × BindedCdevInfo Rail) → ThrottlingStatus Cdev → Option (ThrottlingStatus Cdev)
  | [], status => some status
  | (cdev, info) :: rest, status =>
    match status.throttlingRelease cdev, info.powerRail.bind powerStatus with
    | some step, some avgPower =>
      (config.coolingDeviceInfo cdev).bind fun device =>
        throttlingReleaseUpdate config powerStatus severity rest { status with
          throttlingRelease := update status.throttlingRelease cdev
            (some (releaseStep info device.maxState severity avgPower step)) }
    | _, _ => some status

/-- What allocatePowerToCdev leaves: the budgets of the registered devices and its result. -/
structure Allocation (Cdev : Type) where
  budget : Cdev → Int
  succeeded : Bool

def ThrottlingStatus.allocate (status : ThrottlingStatus Cdev) (allocation : Allocation Cdev) :
    ThrottlingStatus Cdev :=
  { status with
    pidPowerBudget := fun cdev => (status.pidPowerBudget cdev).map fun _ => allocation.budget cdev
    pidCdevRequest :=
      if allocation.succeeded then status.pidCdevRequest
      else fun cdev => (status.pidCdevRequest cdev).map fun _ => 0 }

/-- Each part is taken only if the sensor has registered a device for it. -/
def updatePart (binded : List (Cdev × BindedCdevInfo Rail)) (entries : Cdev → Option Int)
    (update : Option (ThrottlingStatus Cdev)) (status : ThrottlingStatus Cdev) :
    Option (ThrottlingStatus Cdev) :=
  if binded.any fun binding => (entries binding.1).isSome then update else some status

def thermalThrottlingUpdate (config : Config Sensor Cdev Rail)
    (powerStatus : Rail → Option (Option Rat)) (severity : ThrottlingSeverity)
    (allocation : Allocation Cdev) (sensor : Sensor) (status : ThrottlingStatus Cdev) :
    Option (ThrottlingStatus Cdev) :=
  let binded := config.bindedCdevInfo sensor
  (updatePart binded status.pidPowerBudget
    (run (updateCdevRequestByPower config) (status.allocate allocation) binded) status).bind
  fun status => (updatePart binded status.hardlimitCdevRequest
    (run (updateCdevRequestBySeverity severity) status binded) status).bind
  fun status => updatePart binded status.throttlingRelease
    (throttlingReleaseUpdate config powerStatus severity binded status) status

variable {config : Config Sensor Cdev Rail} {powerStatus : Rail → Option (Option Rat)}
  {severity : ThrottlingSeverity} {sensor : Sensor} {allocation : Allocation Cdev}
  {binded : List (Cdev × BindedCdevInfo Rail)} {status status' : ThrottlingStatus Cdev}

omit [DecidableEq Cdev] in
theorem updatePart_keeps {P : ThrottlingStatus Cdev → Prop} {entries : Cdev → Option Int}
    {update : Option (ThrottlingStatus Cdev)} (start : P status)
    (keep : update = some status' → P status')
    (taken : updatePart binded entries update status = some status') : P status' := by
  unfold updatePart at taken
  split at taken
  · exact keep taken
  · obtain rfl := some.inj taken
    exact start

omit [DecidableEq Sensor] in
theorem throttlingReleaseUpdate_frame : ∀ status,
    throttlingReleaseUpdate config powerStatus severity binded status = some status' →
      ∃ steps, status' = { status with throttlingRelease := steps } := by
  induction binded with
  | nil =>
    intro status taken
    exact ⟨_, (some.inj taken).symm⟩
  | cons binding rest ih =>
    intro status taken
    unfold throttlingReleaseUpdate at taken
    split at taken
    · obtain ⟨device, _, taken⟩ := bind_eq_some_iff.mp taken
      obtain ⟨steps, same⟩ := ih _ taken
      exact ⟨steps, same⟩
    · exact ⟨_, (some.inj taken).symm⟩

omit [DecidableEq Sensor] in
/-- Behind the part for the power an update changes only the hard limits and the release steps. -/
theorem thermalThrottlingUpdate_frame
    (taken : thermalThrottlingUpdate config powerStatus severity allocation sensor status = some status') :
    ∃ powered limits steps, updatePart (config.bindedCdevInfo sensor) status.pidPowerBudget
      (run (updateCdevRequestByPower config) (status.allocate allocation)
        (config.bindedCdevInfo sensor)) status = some powered ∧
      status' = { powered with hardlimitCdevRequest := limits, throttlingRelease := steps } := by
  obtain ⟨powered, power, taken⟩ := bind_eq_some_iff.mp taken
  obtain ⟨limited, limit, release⟩ := bind_eq_some_iff.mp taken
  have keep : ∀ before, ∀ b ∈ config.bindedCdevInfo sensor, ∀ after,
      (∃ limits, before = { powered with hardlimitCdevRequest := limits }) →
      updateCdevRequestBySeverity severity before b = some after →
      ∃ limits, after = { powered with hardlimitCdevRequest := limits } := by
    rintro before _ _ after ⟨limits, rfl⟩ taken
    obtain ⟨_, _, rfl⟩ := map_eq_some_iff.mp taken
    exact ⟨_, rfl⟩
  obtain ⟨limits, rfl⟩ := updatePart_keeps
    (P := fun s => ∃ limits, s = { powered with hardlimitCdevRequest := limits }) ⟨_, rfl⟩
    (run_preserves _ keep _ _ ⟨_, rfl⟩) limit
  obtain ⟨steps, rfl⟩ := updatePart_keeps
    (P := fun s => ∃ steps, s = { powered with
      hardlimitCdevRequest := limits, throttlingRelease := steps }) ⟨_, rfl⟩
    (throttlingReleaseUpdate_frame _) release
  exact ⟨powered, limits, steps, power, rfl⟩

end

variable [DecidableEq Sensor] [DecidableEq Cdev]

/-- The difference of two ints, none if it overflows. -/
def checkedSub (a b : Int) : Option Int := if a - b ≤ intMax then some (a - b) else none

/-- The floor counts only with a release step. -/
def released (request step floor : Int) : Option Int :=
  if step = 0 then some request
  else if step ≥ request then some (max 0 floor)
  else (checkedSub request step).map fun rest => max rest floor

def requestState (info : BindedCdevInfo Rail) (severity : ThrottlingSeverity)
    (status : ThrottlingStatus Cdev) (cdev : Cdev) : Option Int :=
  let pid := (status.pidCdevRequest cdev).getD 0
  let hardlimit := (status.hardlimitCdevRequest cdev).getD 0
  let step := (status.throttlingRelease cdev).getD 0
  (released (max pid hardlimit) step (info.cdevFloorWithPowerLink severity)).map fun request =>
    min request (info.cdevCeiling severity)

/-- The changed set and whether its first element has changed. -/
def updateCdevMaxRequestAndNotifyIfChange (set : List Int) (curRequest newRequest : Int) :
    Option (List Int × Bool) :=
  if curRequest ∈ set then
    let changed := VoteSets.insert newRequest (set.erase curRequest)
    some (changed, changed.head? ≠ set.head?)
  else none

structure Round (Sensor Cdev : Type) where
  helper : Helper Sensor Cdev
  coolingDevicesToUpdate : List Cdev

def Helper.setRequest (h : Helper Sensor Cdev) (sensor : Sensor) (cdev : Cdev) (request : Int)
    (set : List Int) : Helper Sensor Cdev :=
  let status := h.throttlingStatus sensor
  { h.setStatus sensor
      { status with cdevStatus := update status.cdevStatus cdev (some request) } with
    cdevAllRequest := update h.cdevAllRequest cdev set }

def computeRequest (severity : ThrottlingSeverity) (sensor : Sensor) (r : Round Sensor Cdev)
    (binding : Cdev × BindedCdevInfo Rail) : Option (Round Sensor Cdev) :=
  let cdev := binding.1
  let status := r.helper.throttlingStatus sensor
  match status.cdevStatus cdev with
  | none => some r
  | some curRequest =>
    (requestState binding.2 severity status cdev).bind fun request =>
      if curRequest = request then some r
      else
        (updateCdevMaxRequestAndNotifyIfChange (r.helper.cdevAllRequest cdev) curRequest
          request).map fun (set, notify) =>
            ⟨r.helper.setRequest sensor cdev request set,
              if notify then r.coolingDevicesToUpdate ++ [cdev] else r.coolingDevicesToUpdate⟩

variable (config : Config Sensor Cdev Rail)

def computeCoolingDevicesRequest (severity : ThrottlingSeverity)
    (r : Round Sensor Cdev) (sensor : Sensor) : Option (Round Sensor Cdev) :=
  run (computeRequest severity sensor) r (config.bindedCdevInfo sensor)

/-- A sensor is not updated when it is not watched, not due or cannot be read. -/
inductive Reading (Cdev : Type) where
  | notUpdated
  | read (severity : ThrottlingSeverity) (allocation : Allocation Cdev)

structure Input (Sensor Cdev Rail : Type) where
  reading : Sensor → Reading Cdev
  powerStatus : Rail → Option (Option Rat)

def updateStatus (input : Input Sensor Cdev Rail)
    (severity : ThrottlingSeverity) (allocation : Allocation Cdev) (sensor : Sensor)
    (status : ThrottlingStatus Cdev) : Option (ThrottlingStatus Cdev) :=
  if severity = .none then some status.clearThrottlingData
  else thermalThrottlingUpdate config input.powerStatus severity allocation sensor status

def updateSensor (input : Input Sensor Cdev Rail)
    (r : Round Sensor Cdev) (sensor : Sensor) : Option (Round Sensor Cdev) :=
  match input.reading sensor with
  | .notUpdated => some r
  | .read severity allocation =>
    (updateStatus config input severity allocation sensor (r.helper.throttlingStatus sensor)).bind
      fun status => computeCoolingDevicesRequest config severity
        { r with helper := r.helper.setStatus sensor status } sensor

variable (h : Helper Sensor Cdev)

/-- Every write succeeds. -/
def writeDevice (cdev : Cdev) : Helper Sensor Cdev :=
  match (h.cdevAllRequest cdev).head? with
  | none => h
  | some maxState => { h with written := update h.written cdev maxState }

def updateCoolingDevices (cdevs : List Cdev) : Helper Sensor Cdev :=
  cdevs.foldl writeDevice h

def thermalWatcherCallbackFunc (input : Input Sensor Cdev Rail) : Option (Helper Sensor Cdev) :=
  (run (updateSensor config input) ⟨h, []⟩ config.sensors).map fun r =>
    updateCoolingDevices r.helper r.coolingDevicesToUpdate

end CoolingRequests
