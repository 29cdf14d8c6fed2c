import SamsungHardware.ThermalControl.CoolingRequests

/- The state written to a cooling device is the highest request of the sensors. The set of requests
   of a device holds the request of each sensor, and some zeros more from a device that was registered
   both for its power and for its limits. -/
namespace CoolingAggregation
open CoolingRequests Severity StepRuns VoteSets List Function Option

variable {Sensor Cdev Rail : Type}
  {config : Config Sensor Cdev Rail} {h h' : Helper Sensor Cdev} {r r' : Round Sensor Cdev}
  {status status' : ThrottlingStatus Cdev} {sensor : Sensor} {cdev : Cdev}
  {severity : ThrottlingSeverity}

def requests (config : Config Sensor Cdev Rail) (h : Helper Sensor Cdev) (cdev : Cdev) : List Int :=
  votes config.sensors fun sensor => (h.throttlingStatus sensor).cdevStatus cdev

def highest (h : Helper Sensor Cdev) (cdev : Cdev) : Int := (h.cdevAllRequest cdev).head?.getD 0

section

variable [DecidableEq Sensor]

theorem status_update (h : Helper Sensor Cdev) (sensor : Sensor) (status : ThrottlingStatus Cdev)
    (cdev : Cdev) :
    (fun other => ((h.setStatus sensor status).throttlingStatus other).cdevStatus cdev) =
      update (fun other => (h.throttlingStatus other).cdevStatus cdev) sensor
        (status.cdevStatus cdev) :=
  comp_update (fun s : ThrottlingStatus Cdev => s.cdevStatus cdev) h.throttlingStatus sensor status

theorem requests_same (same : status.cdevStatus cdev = (h.throttlingStatus sensor).cdevStatus cdev) :
    requests config (h.setStatus sensor status) cdev = requests config h cdev := by
  rw [requests, status_update, same, update_eq_self]
  rfl

theorem requests_change (member : sensor ∈ config.sensors) (status : ThrottlingStatus Cdev)
    (cdev : Cdev) :
    ∃ others, (requests config h cdev).Perm
        (((h.throttlingStatus sensor).cdevStatus cdev).toList ++ others) ∧
      (requests config (h.setStatus sensor status) cdev).Perm
        ((status.cdevStatus cdev).toList ++ others) := by
  refine ⟨_, votes_split member, ?_⟩
  rw [requests, status_update]
  exact votes_update config.sensors_nodup member _

end

section

structure Registered (config : Config Sensor Cdev Rail) (h : Helper Sensor Cdev) : Prop where
  counted : ∀ cdev, Counts 0 (requests config h cdev) (h.cdevAllRequest cdev)
  zero : ∀ sensor cdev x, (h.throttlingStatus sensor).cdevStatus cdev = some x → x = 0
  pid : ∀ sensor cdev x, (h.throttlingStatus sensor).pidCdevRequest cdev = some x → x = 0
  unwritten : ∀ cdev, h.written cdev = 0

theorem registered_start : Registered config (Helper.start : Helper Sensor Cdev) := by
  constructor
  · intro cdev
    have none_cast : requests config (Helper.start : Helper Sensor Cdev) cdev = [] := by
      apply filterMap_eq_nil_iff.mpr
      intro sensor _
      rfl
    rw [none_cast]
    exact Counts.empty
  · intro sensor cdev x found
    cases found
  · intro sensor cdev x found
    cases found
  · intro cdev
    rfl

theorem Registered.ite (changed : Registered config h')
    (kept : Registered config h) (c : Bool) : Registered config (if c then h' else h) := by
  split
  · exact changed
  · exact kept

variable [DecidableEq Sensor]

theorem all_setStatus {P : ThrottlingStatus Cdev → Prop} (new : P status)
    (old : ∀ sensor, P (h.throttlingStatus sensor)) :
    ∀ other, P ((h.setStatus sensor status).throttlingStatus other) :=
  (forall_update_iff _ fun _ => P).mpr ⟨new, fun other _ => old other⟩

variable [DecidableEq Cdev]

theorem zero_update {entries : Cdev → Option Int} (zero : ∀ cdev x, entries cdev = some x → x = 0) :
    ∀ other x, update entries cdev (some 0) other = some x → x = 0 := by
  apply (forall_update_iff _ fun _ entry => ∀ x, entry = some x → x = 0).mpr
  exact ⟨fun x found => (Option.some.inj found).symm, fun other _ => zero other⟩

section
variable (registered : Registered config h)
include registered

variable (member : sensor ∈ config.sensors)
include member

/-- A device is registered with a request of zero, by a sensor that had none or had it already. -/
theorem Registered.insert
    (entered : status.cdevStatus = update (h.throttlingStatus sensor).cdevStatus cdev (some 0))
    (pid : ∀ cdev x, status.pidCdevRequest cdev = some x → x = 0) :
    Registered config ((h.setStatus sensor status).insertRequest cdev 0) := by
  constructor
  · intro other
    by_cases same : other = cdev
    · subst same
      obtain ⟨others, before, after⟩ := requests_change (h := h) member status other
      rw [entered, update_self] at after
      have counts := registered.counted other
      change Counts 0 (requests config (h.setStatus sensor status) other)
        (update h.cdevAllRequest other _ other)
      rw [update_self]
      cases cast : (h.throttlingStatus sensor).cdevStatus other with
      | none =>
        rw [cast] at before
        exact ((counts.congr before).vote 0).congr after.symm
      | some x =>
        rw [cast, registered.zero sensor other x cast] at before
        exact (counts.congr (before.trans after.symm)).spare
    · have unmoved : status.cdevStatus other = (h.throttlingStatus sensor).cdevStatus other := by
        rw [entered, update_of_ne same]
      change Counts 0 (requests config (h.setStatus sensor status) other)
        (update h.cdevAllRequest cdev _ other)
      rw [requests_same unmoved, update_of_ne same]
      exact registered.counted other
  · apply all_setStatus (P := fun s => ∀ cdev x, s.cdevStatus cdev = some x → x = 0)
    · rw [entered]
      exact zero_update (registered.zero sensor)
    · exact registered.zero
  · exact all_setStatus (P := fun s => ∀ cdev x, s.pidCdevRequest cdev = some x → x = 0) pid
      registered.pid
  · exact registered.unwritten

omit member in
theorem Registered.registerRelease (sensor : Sensor) (cdev : Cdev) :
    Registered config (registerRelease h sensor cdev) := by
  constructor
  · intro other
    have same : requests config (CoolingRequests.registerRelease h sensor cdev) other =
      requests config h other := requests_same rfl
    rw [same]
    exact registered.counted other
  · exact all_setStatus (P := fun s => ∀ cdev x, s.cdevStatus cdev = some x → x = 0)
      (registered.zero sensor) registered.zero
  · exact all_setStatus (P := fun s => ∀ cdev x, s.pidCdevRequest cdev = some x → x = 0)
      (registered.pid sensor) registered.pid
  · exact registered.unwritten

theorem Registered.registerPid (cdev : Cdev) : Registered config (registerPid h sensor cdev) :=
  registered.insert member rfl (zero_update (registered.pid sensor))

theorem Registered.registerHardLimit (cdev : Cdev) :
    Registered config (registerHardLimit h sensor cdev) :=
  registered.insert member rfl (registered.pid sensor)

theorem Registered.registerDevice (cdev : Cdev) (info : BindedCdevInfo Rail) :
    Registered config (registerDevice sensor h cdev info) := by
  have pid := (registered.registerPid member cdev).ite registered
    (levels.any fun severity => (info.cdevWeightForPid severity).isSome)
  have limits := (pid.registerHardLimit member cdev).ite pid
    (levels.any fun severity => decide (info.limitInfo severity > 0))
  exact (limits.registerRelease sensor cdev).ite limits _

end

theorem registerBinding_registered (member : sensor ∈ config.sensors)
    (binding : Cdev × BindedCdevInfo Rail) (registered : Registered config h)
    (taken : registerBinding config sensor h binding = some h') : Registered config h' := by
  unfold registerBinding at taken
  by_cases unknown : (config.coolingDeviceInfo binding.1).isNone
  · rw [if_pos unknown] at taken
    cases taken
  · rw [if_neg unknown] at taken
    obtain rfl := Option.some.inj taken
    exact registered.registerDevice member binding.1 binding.2

theorem initialise_registered (accepted : initialise config = some h) : Registered config h := by
  refine run_preserves config.sensors ?_ _ h registered_start accepted
  intro before sensor member after registered taken
  refine run_preserves (config.bindedCdevInfo sensor) ?_ before after registered taken
  intro before binding _ after registered taken
  exact registerBinding_registered member binding registered taken

end

variable {binding : Cdev × BindedCdevInfo Rail}

section

structure Prepared (requested : Cdev → Option Int) (status : ThrottlingStatus Cdev) : Prop where
  same : status.cdevStatus = requested
  pid : ∀ cdev x, status.pidCdevRequest cdev = some x → 0 ≤ x

variable {requested : Cdev → Option Int}

theorem nonneg_of_cleared {entry : Option Int} {x : Int}
    (found : (entry.map fun _ => (0 : Int)) = some x) : 0 ≤ x := by
  obtain ⟨_, _, rfl⟩ := map_eq_some_iff.mp found
  exact Int.le_refl 0

variable (prepared : Prepared requested status)
include prepared

theorem Prepared.clearThrottlingData : Prepared requested status.clearThrottlingData :=
  ⟨prepared.same, fun _ _ found => nonneg_of_cleared found⟩

theorem Prepared.allocate (allocation : Allocation Cdev) :
    Prepared requested (status.allocate allocation) := by
  refine ⟨prepared.same, ?_⟩
  intro cdev x found
  unfold ThrottlingStatus.allocate at found
  split at found
  · exact prepared.pid cdev x found
  · exact nonneg_of_cleared found

variable {powerStatus : Rail → Option (Option Rat)} {allocation : Allocation Cdev}
  [DecidableEq Cdev]

theorem Prepared.updateCdevRequestByPower
    (taken : updateCdevRequestByPower config status binding = some status') :
    Prepared requested status' := by
  unfold CoolingRequests.updateCdevRequestByPower at taken
  split at taken
  · obtain rfl := Option.some.inj taken
    exact prepared
  · obtain ⟨device, _, taken⟩ := bind_eq_some_iff.mp taken
    obtain ⟨state, _, rfl⟩ := map_eq_some_iff.mp taken
    refine ⟨prepared.same, (forall_update_iff _ fun _ entry => ∀ x, entry = some x → 0 ≤ x).mpr ?_⟩
    refine ⟨?_, fun cdev _ => prepared.pid cdev⟩
    intro x found
    obtain rfl := Option.some.inj found
    exact Int.natCast_nonneg state

theorem Prepared.thermalThrottlingUpdate
    (taken : thermalThrottlingUpdate config powerStatus severity allocation sensor status = some status') :
    Prepared requested status' := by
  obtain ⟨powered, limits, steps, power, rfl⟩ := thermalThrottlingUpdate_frame taken
  have powered_prepared : Prepared requested powered := by
    refine updatePart_keeps prepared ?_ power
    exact run_preserves _ (fun _ _ _ _ before => before.updateCdevRequestByPower) _ _
      (prepared.allocate allocation)
  exact ⟨powered_prepared.same, powered_prepared.pid⟩

theorem Prepared.updateStatus {input : Input Sensor Cdev Rail}
    (taken : updateStatus config input severity allocation sensor status = some status') :
    Prepared requested status' := by
  unfold CoolingRequests.updateStatus at taken
  split at taken
  · obtain rfl := Option.some.inj taken
    exact prepared.clearThrottlingData
  · exact prepared.thermalThrottlingUpdate taken

end

section

theorem released_nonneg {request step floor x : Int} (nonneg : 0 ≤ request)
    (found : released request step floor = some x) : 0 ≤ x := by
  unfold released checkedSub at found
  split at found
  · obtain rfl := Option.some.inj found
    exact nonneg
  · split at found
    · obtain rfl := Option.some.inj found
      exact Int.le_max_left 0 floor
    · obtain ⟨rest, difference, rfl⟩ := map_eq_some_iff.mp found
      split at difference
      · obtain rfl := Option.some.inj difference
        omega
      · cases difference

variable {info : BindedCdevInfo Rail}

theorem requestState_bounds {x : Int} (pid : ∀ cdev x, status.pidCdevRequest cdev = some x → 0 ≤ x)
    (ceiling : 0 ≤ info.cdevCeiling severity)
    (found : requestState info severity status cdev = some x) :
    0 ≤ x ∧ x ≤ info.cdevCeiling severity := by
  obtain ⟨request, outcome, rfl⟩ := map_eq_some_iff.mp found
  have power : 0 ≤ (status.pidCdevRequest cdev).getD 0 := by
    cases entry : status.pidCdevRequest cdev with
    | none => exact Int.le_refl 0
    | some y => exact pid cdev y entry
  have nonneg := released_nonneg (by omega) outcome
  omega

structure Bounded (config : Config Sensor Cdev Rail) : Prop where
  low : ∀ sensor ∈ config.sensors, ∀ binding ∈ config.bindedCdevInfo sensor, ∀ severity,
    0 ≤ binding.2.cdevCeiling severity
  high : ∀ sensor ∈ config.sensors, ∀ binding ∈ config.bindedCdevInfo sensor, ∀ severity device,
    config.coolingDeviceInfo binding.1 = some device → binding.2.cdevCeiling severity ≤ device.maxState

theorem lower_nonneg (low : ∀ severity, 0 ≤ info.cdevCeiling severity) (device : Option CdevInfo)
    (severity : ThrottlingSeverity) : 0 ≤ (info.lower device).cdevCeiling severity := by
  cases device with
  | none => exact low severity
  | some device =>
    have nonneg := low severity
    dsimp only [BindedCdevInfo.lower]
    split <;> omega

theorem lower_bounded (low : ∀ sensor ∈ config.sensors, ∀ binding ∈ config.bindedCdevInfo sensor,
    ∀ severity, 0 ≤ binding.2.cdevCeiling severity) : Bounded config.lower := by
  constructor
  · intro sensor member binding bound severity
    obtain ⟨original, found, rfl⟩ := mem_map.mp bound
    exact lower_nonneg (low sensor member original found) _ severity
  · intro sensor member binding bound severity device known
    obtain ⟨original, found, rfl⟩ := mem_map.mp bound
    change config.coolingDeviceInfo original.1 = some device at known
    rw [known]
    dsimp only [BindedCdevInfo.lower]
    split <;> omega

end

section

structure Aggregated (config : Config Sensor Cdev Rail) (h : Helper Sensor Cdev) : Prop where
  counted : ∀ cdev, Counts 0 (requests config h cdev) (h.cdevAllRequest cdev)
  range : ∀ sensor cdev x, (h.throttlingStatus sensor).cdevStatus cdev = some x →
    0 ≤ x ∧ ∀ device, config.coolingDeviceInfo cdev = some device → x ≤ device.maxState
  pid : ∀ sensor cdev x, (h.throttlingStatus sensor).pidCdevRequest cdev = some x → 0 ≤ x
  idle : ∀ cdev, h.cdevAllRequest cdev = [] → h.written cdev = 0

def Settled (r : Round Sensor Cdev) : Prop :=
  ∀ cdev, cdev ∉ r.coolingDevicesToUpdate → r.helper.written cdev = highest r.helper cdev

variable [DecidableEq Sensor]

theorem Aggregated.setStatus (aggregated : Aggregated config h)
    (prepared : Prepared (h.throttlingStatus sensor).cdevStatus status) :
    Aggregated config (h.setStatus sensor status) := by
  constructor
  · intro cdev
    rw [requests_same (congrFun prepared.same cdev)]
    exact aggregated.counted cdev
  · apply all_setStatus (P := fun s => ∀ cdev x, s.cdevStatus cdev = some x →
      0 ≤ x ∧ ∀ device, config.coolingDeviceInfo cdev = some device → x ≤ device.maxState)
    · rw [prepared.same]
      exact aggregated.range sensor
    · exact aggregated.range
  · exact all_setStatus (P := fun s => ∀ cdev x, s.pidCdevRequest cdev = some x → 0 ≤ x)
      prepared.pid aggregated.pid
  · exact aggregated.idle

variable {cur request : Int}

theorem Aggregated.recount (aggregated : Aggregated config h) (member : sensor ∈ config.sensors)
    (current : (h.throttlingStatus sensor).cdevStatus cdev = some cur)
    (status : ThrottlingStatus Cdev) (entered : status.cdevStatus cdev = some request) :
    Counts 0 (requests config (h.setStatus sensor status) cdev)
      (VoteSets.insert request ((h.cdevAllRequest cdev).erase cur)) := by
  obtain ⟨others, before, after⟩ := requests_change (h := h) member status cdev
  rw [current] at before
  rw [entered] at after
  have counts : Counts 0 (cur :: others) (h.cdevAllRequest cdev) :=
    (aggregated.counted cdev).congr before
  exact (counts.withdraw.vote request).congr after.symm

variable [DecidableEq Cdev]

theorem Aggregated.setRequest (aggregated : Aggregated config h) (member : sensor ∈ config.sensors)
    (current : (h.throttlingStatus sensor).cdevStatus cdev = some cur)
    (range : 0 ≤ request ∧ ∀ device, config.coolingDeviceInfo cdev = some device → request ≤ device.maxState) :
    Aggregated config (h.setRequest sensor cdev request
      (VoteSets.insert request ((h.cdevAllRequest cdev).erase cur))) := by
  constructor
  · intro other
    by_cases same : other = cdev
    · subst same
      have counts := aggregated.recount member current { h.throttlingStatus sensor with
        cdevStatus := update (h.throttlingStatus sensor).cdevStatus other (some request) }
        (update_self ..)
      change Counts 0 _ (update h.cdevAllRequest other _ other)
      rw [update_self]
      exact counts
    · change Counts 0 (requests config (h.setStatus sensor _) other)
        (update h.cdevAllRequest cdev _ other)
      rw [requests_same (update_of_ne same ..), update_of_ne same]
      exact aggregated.counted other
  · apply all_setStatus (P := fun s => ∀ cdev x, s.cdevStatus cdev = some x →
      0 ≤ x ∧ ∀ device, config.coolingDeviceInfo cdev = some device → x ≤ device.maxState)
    · apply (forall_update_iff _ fun cdev entry => ∀ x : Int, entry = some x →
        0 ≤ x ∧ ∀ device, config.coolingDeviceInfo cdev = some device → x ≤ device.maxState).mpr
      refine ⟨?_, fun other _ => aggregated.range sensor other⟩
      intro x found
      obtain rfl := Option.some.inj found
      exact range
    · exact aggregated.range
  · exact all_setStatus (P := fun s => ∀ cdev x, s.pidCdevRequest cdev = some x → 0 ≤ x)
      (aggregated.pid sensor) aggregated.pid
  · apply (forall_update_iff _ fun cdev set => set = [] → h.written cdev = 0).mpr
    exact ⟨fun empty => absurd empty (insert_ne_nil _ _), fun other _ => aggregated.idle other⟩

/-- The round stays as it is, or the request of the sensor changes and the device is put down for
    writing when its highest request has changed. -/
theorem computeRequest_cases (taken : computeRequest severity sensor r binding = some r') :
    r' = r ∨ ∃ cur request set, (r.helper.throttlingStatus sensor).cdevStatus binding.1 = some cur ∧
      requestState binding.2 severity (r.helper.throttlingStatus sensor) binding.1 = some request ∧
      set = VoteSets.insert request ((r.helper.cdevAllRequest binding.1).erase cur) ∧
      r' = ⟨r.helper.setRequest sensor binding.1 request set,
        if set.head? ≠ (r.helper.cdevAllRequest binding.1).head? then
          r.coolingDevicesToUpdate ++ [binding.1] else r.coolingDevicesToUpdate⟩ := by
  unfold computeRequest at taken
  dsimp only at taken
  cases current : (r.helper.throttlingStatus sensor).cdevStatus binding.1 with
  | none =>
    rw [current] at taken
    exact .inl (Option.some.inj taken).symm
  | some cur =>
    rw [current] at taken
    obtain ⟨request, requested, taken⟩ := bind_eq_some_iff.mp taken
    split at taken
    · exact .inl (Option.some.inj taken).symm
    · obtain ⟨⟨set, notify⟩, updated, rfl⟩ := map_eq_some_iff.mp taken
      unfold updateCdevMaxRequestAndNotifyIfChange at updated
      split at updated
      · obtain ⟨rfl, rfl⟩ := Prod.mk.inj (Option.some.inj updated)
        refine .inr ⟨cur, request, _, rfl, requested, rfl, ?_⟩
        simp only [decide_eq_true_eq]
      · cases updated

theorem highest_setRequest (h : Helper Sensor Cdev) (sensor : Sensor) {cdev other : Cdev}
    (request : Int) (set : List Int) (apart : other ≠ cdev) :
    highest (h.setRequest sensor cdev request set) other = highest h other := by
  exact congrArg (fun set : List Int => set.head?.getD 0) (update_of_ne apart ..)

theorem highest_setRequest_self (h : Helper Sensor Cdev) (sensor : Sensor) (cdev : Cdev)
    (request : Int) (set : List Int) :
    highest (h.setRequest sensor cdev request set) cdev = set.head?.getD 0 := by
  exact congrArg (fun set : List Int => set.head?.getD 0) (update_self ..)

theorem computeRequest_settled (settled : Settled r)
    (taken : computeRequest severity sensor r binding = some r') : Settled r' := by
  obtain rfl | ⟨cur, request, set, _, _, _, rfl⟩ := computeRequest_cases taken
  · exact settled
  · intro other waits
    have before : other ∉ r.coolingDevicesToUpdate := by
      intro queued
      split at waits
      · exact waits (mem_append_left _ queued)
      · exact waits queued
    change r.helper.written other = _
    rw [settled other before]
    by_cases same : other = binding.1
    · subst same
      rw [highest_setRequest_self]
      by_cases changed : set.head? = (r.helper.cdevAllRequest binding.1).head?
      · rw [changed]
        rfl
      · rw [if_pos changed] at waits
        exact absurd (mem_append_right _ mem_cons_self) waits
    · rw [highest_setRequest _ _ _ _ same]

theorem computeRequest_aggregated (bounded : Bounded config) (member : sensor ∈ config.sensors)
    (bound : binding ∈ config.bindedCdevInfo sensor) (aggregated : Aggregated config r.helper)
    (taken : computeRequest severity sensor r binding = some r') : Aggregated config r'.helper := by
  obtain rfl | ⟨cur, request, set, current, requested, rfl, rfl⟩ := computeRequest_cases taken
  · exact aggregated
  · obtain ⟨low, high⟩ := requestState_bounds (aggregated.pid sensor)
      (bounded.low sensor member binding bound severity) requested
    refine aggregated.setRequest member current ⟨low, ?_⟩
    intro device known
    exact high.trans (bounded.high sensor member binding bound severity device known)

/-- The request of a sensor is always found in the set: a request is computed unless the one less its
    release step overflows. -/
theorem computeRequest_isSome_iff (aggregated : Aggregated config r.helper)
    (member : sensor ∈ config.sensors) :
    (computeRequest severity sensor r binding).isSome ↔
      (((r.helper.throttlingStatus sensor).cdevStatus binding.1).isSome →
        (requestState binding.2 severity (r.helper.throttlingStatus sensor) binding.1).isSome) := by
  unfold computeRequest
  cases current : (r.helper.throttlingStatus sensor).cdevStatus binding.1 with
  | none => simp [current]
  | some cur =>
    have held := (aggregated.counted binding.1).mem (mem_votes.mpr ⟨sensor, member, current⟩)
    cases next : requestState binding.2 severity (r.helper.throttlingStatus sensor) binding.1 with
    | none => simp [current, next]
    | some x =>
      by_cases same : cur = x <;>
        simp [current, next, same, updateCdevMaxRequestAndNotifyIfChange, held]

structure Consistent (config : Config Sensor Cdev Rail) (r : Round Sensor Cdev) : Prop where
  aggregated : Aggregated config r.helper
  settled : Settled r

theorem Consistent.computeCoolingDevicesRequest (consistent : Consistent config r)
    (bounded : Bounded config) (member : sensor ∈ config.sensors)
    (taken : computeCoolingDevicesRequest config severity r sensor = some r') :
    Consistent config r' := by
  refine run_preserves (config.bindedCdevInfo sensor) ?_ r r' consistent taken
  intro r binding bound r' consistent taken
  constructor
  · exact computeRequest_aggregated bounded member bound consistent.aggregated taken
  · exact computeRequest_settled consistent.settled taken

theorem Consistent.updateSensor {input : Input Sensor Cdev Rail} (consistent : Consistent config r)
    (bounded : Bounded config) (member : sensor ∈ config.sensors)
    (taken : updateSensor config input r sensor = some r') : Consistent config r' := by
  unfold CoolingRequests.updateSensor at taken
  split at taken
  · obtain rfl := Option.some.inj taken
    exact consistent
  · obtain ⟨status, updated, taken⟩ := bind_eq_some_iff.mp taken
    have start : Prepared _ (r.helper.throttlingStatus sensor) :=
      ⟨rfl, consistent.aggregated.pid sensor⟩
    have entered : Consistent config { r with helper := r.helper.setStatus sensor status } :=
      ⟨consistent.aggregated.setStatus (start.updateStatus updated), consistent.settled⟩
    exact entered.computeCoolingDevicesRequest bounded member taken

end

section

variable [DecidableEq Cdev]

theorem writeDevice_eq (idle : h.cdevAllRequest cdev = [] → h.written cdev = 0) :
    writeDevice h cdev = { h with written := update h.written cdev (highest h cdev) } := by
  unfold writeDevice highest
  cases set : h.cdevAllRequest cdev with
  | nil =>
    change h = { h with written := update h.written cdev 0 }
    rw [← idle set, update_eq_self]
  | cons x rest => rfl

theorem Consistent.writeDevice {rest : List Cdev} (consistent : Consistent config ⟨h, cdev :: rest⟩) :
    Consistent config ⟨writeDevice h cdev, rest⟩ := by
  obtain ⟨aggregated, settled⟩ := consistent
  rw [writeDevice_eq (aggregated.idle cdev)]
  constructor
  · refine { aggregated with idle := ?_ }
    apply (forall_update_iff _ fun other x => h.cdevAllRequest other = [] → x = 0).mpr
    refine ⟨?_, fun other _ => aggregated.idle other⟩
    intro empty
    rw [highest, empty]
    rfl
  · apply (forall_update_iff _ fun other x => other ∉ rest → x = highest h other).mpr
    refine ⟨fun _ => rfl, ?_⟩
    intro other same waits
    exact settled other (not_mem_cons_of_ne_of_not_mem same waits)

theorem updateCoolingDevices_consistent (queue : List Cdev) :
    ∀ h, Consistent config ⟨h, queue⟩ → Consistent config ⟨updateCoolingDevices h queue, []⟩ := by
  induction queue with
  | nil =>
    intro h consistent
    exact consistent
  | cons cdev rest ih =>
    intro h consistent
    exact ih (writeDevice h cdev) consistent.writeDevice

theorem thermalWatcherCallbackFunc_consistent [DecidableEq Sensor] {input : Input Sensor Cdev Rail}
    (bounded : Bounded config) (consistent : Consistent config ⟨h, []⟩)
    (taken : thermalWatcherCallbackFunc config h input = some h') : Consistent config ⟨h', []⟩ := by
  obtain ⟨r, updated, rfl⟩ := map_eq_some_iff.mp taken
  apply updateCoolingDevices_consistent
  refine run_preserves config.sensors ?_ ⟨h, []⟩ r consistent updated
  intro r sensor member r' consistent taken
  exact consistent.updateSensor bounded member taken

end

theorem Registered.highest_zero (registered : Registered config h) (cdev : Cdev) :
    highest h cdev = 0 := by
  unfold highest
  cases set : h.cdevAllRequest cdev with
  | nil => rfl
  | cons x rest =>
    obtain ⟨extra, perm⟩ := (registered.counted cdev).holds
    rw [set] at perm
    rcases mem_append.mp (perm.mem_iff.mp mem_cons_self) with cast | spare
    · obtain ⟨sensor, _, found⟩ := mem_votes.mp cast
      exact registered.zero sensor cdev x found
    · exact eq_of_mem_replicate spare

theorem Registered.consistent (registered : Registered config h) :
    Consistent config.lower ⟨h, []⟩ := by
  constructor
  · constructor
    · exact registered.counted
    · intro sensor cdev x found
      obtain rfl := registered.zero sensor cdev x found
      exact ⟨Int.le_refl 0, fun device _ => Int.natCast_nonneg device.maxState⟩
    · intro sensor cdev x found
      obtain rfl := registered.pid sensor cdev x found
      exact Int.le_refl 0
    · intro cdev _
      exact registered.unwritten cdev
  · intro cdev _
    exact (registered.unwritten cdev).trans (registered.highest_zero cdev).symm

theorem run_consistent [DecidableEq Sensor] [DecidableEq Cdev] (bounded : Bounded config.lower)
    (accepted : initialise config = some h)
    (rounds : List (Input Sensor Cdev Rail))
    (ran : run (thermalWatcherCallbackFunc config.lower) h rounds = some h') :
    Consistent config.lower ⟨h', []⟩ := by
  have keep : ∀ before, ∀ input ∈ rounds, ∀ after, Consistent config.lower ⟨before, []⟩ →
      thermalWatcherCallbackFunc config.lower before input = some after →
      Consistent config.lower ⟨after, []⟩ := by
    intro before input _ after consistent taken
    exact thermalWatcherCallbackFunc_consistent bounded consistent taken
  exact run_preserves rounds keep h h' (initialise_registered accepted).consistent ran

theorem Aggregated.highest_greatest (aggregated : Aggregated config h)
    (asked : requests config h cdev ≠ []) :
    IsGreatest {x | x ∈ requests config h cdev} (highest h cdev) := by
  have counts := aggregated.counted cdev
  have above : ∀ x ∈ requests config h cdev, 0 ≤ x := by
    intro x cast
    obtain ⟨sensor, _, found⟩ := mem_votes.mp cast
    exact (aggregated.range sensor cdev x found).1
  unfold highest
  cases set : h.cdevAllRequest cdev with
  | nil =>
    obtain ⟨x, cast⟩ := exists_mem_of_ne_nil _ asked
    have held := counts.mem cast
    rw [set] at held
    cases held
  | cons x rest =>
    rw [set] at counts
    exact counts.first above asked

theorem Aggregated.highest_idle (aggregated : Aggregated config h)
    (unasked : requests config h cdev = []) : highest h cdev = 0 := by
  obtain ⟨extra, perm⟩ := (aggregated.counted cdev).holds
  rw [unasked, nil_append] at perm
  unfold highest
  cases set : h.cdevAllRequest cdev with
  | nil => rfl
  | cons x rest =>
    rw [set] at perm
    exact eq_of_mem_replicate (perm.mem_iff.mp mem_cons_self)

/-- Behind every run of the watcher, what was last written to a device is the highest request of the
    sensors that ask for it, or the state it started at, and a state of the device. A run ends
    without a state when `at` throws, for a bound device that is not known or has no hard limit
    beside one that has, when a device with a budget lists no powers, or when a request less its
    release step overflows. -/
theorem written_highest_request [DecidableEq Sensor] [DecidableEq Cdev]
    (config : Config Sensor Cdev Rail) (start h : Helper Sensor Cdev)
    (ceilings : ∀ sensor ∈ config.sensors, ∀ binding ∈ config.bindedCdevInfo sensor, ∀ severity,
      0 ≤ binding.2.cdevCeiling severity)
    (accepted : initialise config = some start) (rounds : List (Input Sensor Cdev Rail))
    (ran : run (thermalWatcherCallbackFunc config.lower) start rounds = some h)
    (cdev : Cdev) (device : CdevInfo) (known : config.coolingDeviceInfo cdev = some device) :
    ((∃ sensor ∈ config.sensors, ∃ x, (h.throttlingStatus sensor).cdevStatus cdev = some x) →
      IsGreatest {x | ∃ sensor ∈ config.sensors,
        (h.throttlingStatus sensor).cdevStatus cdev = some x} (h.written cdev)) ∧
    ((∀ sensor ∈ config.sensors, (h.throttlingStatus sensor).cdevStatus cdev = none) →
      h.written cdev = 0) ∧
    0 ≤ h.written cdev ∧ h.written cdev ≤ device.maxState := by
  obtain ⟨aggregated, settled⟩ := run_consistent (lower_bounded ceilings) accepted rounds ran
  have written : h.written cdev = highest h cdev := settled cdev not_mem_nil
  have cast : {x | ∃ sensor ∈ config.sensors, (h.throttlingStatus sensor).cdevStatus cdev = some x} =
      {x | x ∈ requests config.lower h cdev} := by
    ext x
    exact mem_votes.symm
  rw [written, cast]
  refine ⟨?_, ?_, ?_⟩
  · rintro ⟨sensor, member, x, found⟩
    exact aggregated.highest_greatest (ne_nil_of_mem (mem_votes.mpr ⟨sensor, member, found⟩))
  · intro unasked
    exact aggregated.highest_idle (filterMap_eq_nil_iff.mpr unasked)
  · by_cases asked : requests config.lower h cdev = []
    · rw [aggregated.highest_idle asked]
      exact ⟨Int.le_refl 0, Int.natCast_nonneg device.maxState⟩
    · obtain ⟨sensor, _, found⟩ := mem_votes.mp (aggregated.highest_greatest asked).1
      obtain ⟨low, high⟩ := aggregated.range sensor cdev _ found
      exact ⟨low, high device known⟩

def twoSensors : Config Bool Unit Unit where
  sensors := [false, true]
  coolingDeviceInfo := fun _ => some ⟨[some 900, some 600, some 300, some 100], 3⟩
  bindedCdevInfo := fun sensor => [((), {
    limitInfo := fun severity => if severity = .none then 0 else 2
    powerThresholds := fun _ => none
    releaseLogic := .none
    cdevWeightForPid := fun _ => if sensor then some 1 else none
    cdevCeiling := fun _ => intMax
    cdevFloorWithPowerLink := fun _ => 0
    powerRail := none
    highPowerCheck := false
    throttlingWithPowerLink := false })]
  sensors_nodup := by decide
  binded_nodup := by intro sensor; exact nodup_singleton _

def cooling : List (Input Bool Unit Unit) :=
  [⟨fun sensor => .read .severe ⟨fun _ => if sensor then 200 else 0, true⟩, fun _ => none⟩,
    ⟨fun sensor => if sensor then .read .none ⟨fun _ => 0, true⟩ else .notUpdated, fun _ => none⟩,
    ⟨fun _ => .notUpdated, fun _ => none⟩]

theorem cooling_written : ∃ start h, initialise twoSensors = some start ∧
    run (thermalWatcherCallbackFunc twoSensors.lower) start cooling = some h ∧ h.written () = 2 ∧
    IsGreatest {x | ∃ sensor ∈ twoSensors.sensors,
      (h.throttlingStatus sensor).cdevStatus () = some x} (h.written ()) := by
  have ends : ((initialise twoSensors).bind fun start =>
      run (thermalWatcherCallbackFunc twoSensors.lower) start cooling).map
        (fun h => (h.written (), (h.throttlingStatus false).cdevStatus ())) = some (2, some 2) := by
    decide +kernel
  obtain ⟨h, ran, outcome⟩ := map_eq_some_iff.mp ends
  obtain ⟨start, accepted, ran⟩ := bind_eq_some_iff.mp ran
  obtain ⟨written, asked⟩ := Prod.mk.inj outcome
  have ceilings : ∀ sensor ∈ twoSensors.sensors, ∀ binding ∈ twoSensors.bindedCdevInfo sensor,
      ∀ severity, 0 ≤ binding.2.cdevCeiling severity := by
    intro sensor _ binding bound severity
    obtain rfl := mem_singleton.mp bound
    change 0 ≤ intMax
    decide
  have result := written_highest_request twoSensors start h ceilings accepted cooling ran () _ rfl
  exact ⟨start, h, accepted, ran, written, result.1 ⟨false, mem_cons_self, 2, asked⟩⟩

end CoolingAggregation
