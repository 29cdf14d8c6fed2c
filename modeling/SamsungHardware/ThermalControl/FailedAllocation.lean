import SamsungHardware.ThermalControl.CoolingRequests

/- A failed allocation of power in thermal_throttling.cpp: the requests are cleared, and then computed
   again from the budgets that are left. An allocation fails in its first pass, before it has written
   a budget. -/
namespace FailedAllocation
open CoolingRequests Severity StepRuns Function List Option

variable {Sensor Cdev Rail : Type} [DecidableEq Cdev] {config : Config Sensor Cdev Rail}
  {status status' : ThrottlingStatus Cdev} {severity : ThrottlingSeverity}

section

/-- What the float arithmetic of one allocation says of a device: whether its power is below its share
    in the first pass, whether it is above it in the second, and the budget that the second pass
    writes, if that is defined. -/
structure Shares (Cdev : Type) where
  (low spent : Cdev → Bool)
  budget : Cdev → Option Int

structure Allocating (Cdev : Type) where
  powerDataInvalid : Bool
  allocatedCdev : List Cdev
  status : ThrottlingStatus Cdev

/-- Whether a pass goes on to the next device, is left, or the function returns false. -/
inductive Signal where
  | next | leave | failed
  deriving DecidableEq

variable (config : Config Sensor Cdev Rail) (power : Rail → Option (Option Rat))
  (severity : ThrottlingSeverity) (shares : Shares Cdev) (voted : Cdev → Bool)
  (binding : Cdev × BindedCdevInfo Rail) (a : Allocating Cdev)

def weightless (info : BindedCdevInfo Rail) : Bool :=
  (info.cdevWeightForPid severity).all fun weight => weight = 0

/-- The first pass: a device that is not throttled keeps what it uses. -/
def lowPowerDeviceCheck : Option (Allocating Cdev × Signal) :=
  if shares.low binding.1 then
    (a.status.pidCdevRequest binding.1).map fun request =>
      (if request = 0 then { a with allocatedCdev := binding.1 :: a.allocatedCdev } else a, .next)
  else some (a, .next)

/-- The second pass. `voted` says whether `getCdevMaxRequest` finds the device; where an entry is
    missing or a state is outside of the table there is no budget. -/
def distribute : Option (Allocating Cdev × Signal) :=
  (config.coolingDeviceInfo binding.1).bind fun device =>
    if shares.spent binding.1 ∧
        a.status.pidCdevRequest binding.1 = some (device.maxState : Int) then some (a, .next)
    else if voted binding.1 then
      (shares.budget binding.1).bind fun budget => (a.status.pidPowerBudget binding.1).map fun _ =>
        ({ a with status := { a.status with
          pidPowerBudget := update a.status.pidPowerBudget binding.1 (some budget) } }, .next)
    else some (a, .failed)

def serve (lowPower : Bool) : Option (Allocating Cdev × Signal) :=
  if lowPower then lowPowerDeviceCheck shares binding a
  else distribute config shares voted binding a

/-- A rail that is not in the map throws; without a rail or with NaN there is no power data. -/
def powerData (info : BindedCdevInfo Rail) : Option (Option Rat) :=
  match info.powerRail with
  | none => some none
  | some rail => power rail

def visit (lowPower : Bool) : Option (Allocating Cdev × Signal) :=
  if binding.1 ∈ a.allocatedCdev then some (a, .next)
  else if weightless severity binding.2 then
    some ({ a with allocatedCdev := binding.1 :: a.allocatedCdev }, .next)
  else if a.powerDataInvalid then serve config shares voted binding a lowPower
  else (powerData power binding.2).bind fun data =>
    if data.isNone then some ({ a with powerDataInvalid := true }, .leave)
    else if binding.2.throttlingWithPowerLink then some (a, .failed)
    else serve config shares voted binding a lowPower

def pass (lowPower : Bool) :
    List (Cdev × BindedCdevInfo Rail) → Allocating Cdev → Option (Allocating Cdev × Bool)
  | [], a => some (a, true)
  | binding :: rest, a =>
    (visit config power severity shares voted binding a lowPower).bind fun (a, signal) =>
      match signal with
      | .next => pass lowPower rest a
      | .leave => some (a, true)
      | .failed => some (a, false)

/-- The status that is left, and the result. -/
def allocatePowerToCdev (bindings : List (Cdev × BindedCdevInfo Rail))
    (status : ThrottlingStatus Cdev) : Option (ThrottlingStatus Cdev × Bool) :=
  let unweighted := (bindings.filter fun b => weightless severity b.2).map Prod.fst
  (pass config power severity shares voted true bindings ⟨false, unweighted, status⟩).bind
    fun (a, succeeded) =>
      if succeeded then
        (pass config power severity shares voted false bindings a).map fun (a, succeeded) =>
          (a.status, succeeded)
      else some (a.status, false)

def outcome (left : ThrottlingStatus Cdev) (succeeded : Bool) : Allocation Cdev :=
  ⟨fun cdev => (left.pidPowerBudget cdev).getD 0, succeeded⟩

end

section

variable {power : Rail → Option (Option Rat)} {shares : Shares Cdev} {voted : Cdev → Bool}
  {binding : Cdev × BindedCdevInfo Rail} {a a' : Allocating Cdev} {signal : Signal} {succeeded : Bool}

/-- No device is left for which an allocation with power data fails. -/
def Unlinked (bindings : List (Cdev × BindedCdevInfo Rail)) (a : Allocating Cdev) : Prop :=
  a.powerDataInvalid = true ∨
    ∀ b ∈ bindings, b.1 ∈ a.allocatedCdev ∨ b.2.throttlingWithPowerLink = false

/-- What a visit leaves, in the first pass or with a vote in the second. -/
structure Visited (lowPower : Bool) (binding : Cdev × BindedCdevInfo Rail) (a a' : Allocating Cdev)
    (signal : Signal) : Prop where
  status : lowPower = true → a'.status = a.status
  more : a.allocatedCdev ⊆ a'.allocatedCdev
  stays : a.powerDataInvalid = true → a'.powerDataInvalid = true
  left : signal = .leave → a'.powerDataInvalid = true
  passed : signal = .next → Unlinked [binding] a'
  failed : signal = .failed → ¬ Unlinked [binding] a

theorem serve_visited {lowPower : Bool} (unlinked : Unlinked [binding] a)
    (vote : lowPower = false → voted binding.1 = true)
    (served : serve config shares voted binding a lowPower = some (a', signal)) :
    Visited lowPower binding a a' signal := by
  cases lowPower with
  | true =>
    simp only [serve, lowPowerDeviceCheck, if_true] at served
    split at served
    · obtain ⟨request, _, same⟩ := map_eq_some_iff.mp served
      split at same <;> cases same
      · exact ⟨fun _ => rfl, subset_cons_self _ _, id, nofun, fun _ => Or.inr (by simp), nofun⟩
      · exact ⟨fun _ => rfl, Subset.refl _, id, nofun, fun _ => unlinked, nofun⟩
    · cases served
      exact ⟨fun _ => rfl, Subset.refl _, id, nofun, fun _ => unlinked, nofun⟩
  | false =>
    obtain ⟨device, _, served⟩ := bind_eq_some_iff.mp served
    rw [vote rfl] at served
    split at served
    · cases served
      exact ⟨nofun, Subset.refl _, id, nofun, fun _ => unlinked, nofun⟩
    · obtain ⟨budget, _, served⟩ := bind_eq_some_iff.mp served
      obtain ⟨_, _, same⟩ := map_eq_some_iff.mp served
      cases same
      exact ⟨nofun, Subset.refl _, id, nofun, fun _ => unlinked, nofun⟩

theorem visit_visited {lowPower : Bool}
    (vote : lowPower = false → weightless severity binding.2 = false → voted binding.1 = true)
    (visited : visit config power severity shares voted binding a lowPower = some (a', signal)) :
    Visited lowPower binding a a' signal := by
  unfold visit at visited
  by_cases allocated : binding.1 ∈ a.allocatedCdev
  · rw [if_pos allocated] at visited
    cases visited
    exact ⟨fun _ => rfl, Subset.refl _, id, nofun, fun _ => Or.inr (by simp [allocated]), nofun⟩
  rw [if_neg allocated] at visited
  by_cases light : weightless severity binding.2 = true
  · rw [if_pos light] at visited
    cases visited
    exact ⟨fun _ => rfl, subset_cons_self _ _, id, nofun, fun _ => Or.inr (by simp), nofun⟩
  rw [if_neg light] at visited
  have vote := fun second => vote second (Bool.of_not_eq_true light)
  by_cases invalid : a.powerDataInvalid = true
  · rw [if_pos invalid] at visited
    exact serve_visited (Or.inl invalid) vote visited
  rw [if_neg invalid] at visited
  obtain ⟨data, _, visited⟩ := bind_eq_some_iff.mp visited
  split at visited
  · cases visited
    exact ⟨fun _ => rfl, Subset.refl _, fun _ => rfl, fun _ => rfl, nofun, nofun⟩
  by_cases link : binding.2.throttlingWithPowerLink = true
  · rw [if_pos link] at visited
    cases visited
    refine ⟨fun _ => rfl, Subset.refl _, id, nofun, nofun, fun _ unlinked => ?_⟩
    simp [Unlinked, invalid, allocated, link] at unlinked
  · rw [if_neg link] at visited
    exact serve_visited (Or.inr (by simpa using Or.inr link)) vote visited

/-- The first pass writes no budget; if it gets through, no pass with votes fails behind it. -/
theorem pass_visited {lowPower : Bool} (bindings : List (Cdev × BindedCdevInfo Rail))
    (vote : ∀ b ∈ bindings, lowPower = false → weightless severity b.2 = false → voted b.1 = true) :
    ∀ a, pass config power severity shares voted lowPower bindings a = some (a', succeeded) →
      (lowPower = true → a'.status = a.status) ∧ a.allocatedCdev ⊆ a'.allocatedCdev ∧
      (a.powerDataInvalid = true → a'.powerDataInvalid = true) ∧
      (succeeded = true → Unlinked bindings a') ∧ (Unlinked bindings a → succeeded = true) := by
  induction bindings with
  | nil =>
    intro a ends
    cases ends
    exact ⟨fun _ => rfl, Subset.refl _, id, fun _ => Or.inr nofun, fun _ => rfl⟩
  | cons binding rest ih =>
    intro a ends
    obtain ⟨⟨middle, signal⟩, visited, ends⟩ := bind_eq_some_iff.mp ends
    obtain ⟨own, vote⟩ := forall_mem_cons.mp vote
    have here := visit_visited own visited
    cases signal with
    | leave =>
      cases ends
      exact ⟨here.status, here.more, here.stays, fun _ => Or.inl (here.left rfl), fun _ => rfl⟩
    | failed =>
      cases ends
      refine ⟨here.status, here.more, here.stays, nofun, fun unlinked => ?_⟩
      refine absurd (unlinked.imp_right fun all => ?_) (here.failed rfl)
      simpa using all binding mem_cons_self
    | next =>
      obtain ⟨status, more, stays, unlinked, goesOn⟩ := ih vote middle ends
      refine ⟨fun first => (status first).trans (here.status first),
        fun _ inside => more (here.more inside), stays ∘ here.stays, fun done => ?_, fun before => goesOn ?_⟩
      · rcases unlinked done with bad | others
        · exact Or.inl bad
        rcases here.passed rfl with bad | own
        · exact Or.inl (stays bad)
        refine Or.inr (forall_mem_cons.mpr ⟨?_, others⟩)
        exact (own binding mem_cons_self).imp_left fun inside => more inside
      · refine before.imp here.stays fun others b later => ?_
        exact (others b (.tail _ later)).imp_left fun inside => here.more inside

theorem failed_keeps {bindings : List (Cdev × BindedCdevInfo Rail)} {left : ThrottlingStatus Cdev}
    (vote : ∀ b ∈ bindings, weightless severity b.2 = false → voted b.1 = true)
    (failed : allocatePowerToCdev config power severity shares voted bindings status =
      some (left, false)) : left = status := by
  obtain ⟨⟨a, succeeded⟩, first, failed⟩ := bind_eq_some_iff.mp failed
  obtain ⟨same, _, _, unlinked, _⟩ := pass_visited bindings (by simp) _ first
  cases succeeded with
  | false =>
    cases failed
    exact same rfl
  | true =>
    obtain ⟨⟨b, succeeded⟩, second, result⟩ := map_eq_some_iff.mp failed
    have done := (pass_visited bindings (fun b member _ => vote b member) a second).2.2.2.2
      (unlinked rfl)
    cases done
    cases result

end

/-- The budget covers the first state of the device, or there is only one state. -/
def Covered (device : CdevInfo) (budget : Int) : Prop :=
  ∀ power ∈ device.state2power.dropLast.head?, power.any (fun p => p ≤ (budget : Rat)) = true

theorem covered_iff {device : CdevInfo} {budget : Int} {state : Nat}
    (found : stateByPower device.state2power budget = some state) :
    state = 0 ↔ Covered device budget := by
  unfold stateByPower at found
  split at found
  · cases found
  · obtain rfl := Option.some.inj found
    unfold Covered
    cases device.state2power.dropLast with
    | nil => simp
    | cons power rest =>
      cases covers : power.any fun p => p ≤ (budget : Rat) with
      | true => simp [findIdx_cons, covers]
      | false => simp [findIdx_cons, covers]

/-- Every device with a budget gets the state that the budget covers, the others keep their
    request. -/
theorem byPower_requests (bindings : List (Cdev × BindedCdevInfo Rail)) :
    ∀ status, run (updateCdevRequestByPower config) status bindings = some status' →
      (bindings.map Prod.fst).Nodup → ∀ cdev,
      (∃ budget device state, cdev ∈ bindings.map Prod.fst ∧
        status.pidPowerBudget cdev = some budget ∧ config.coolingDeviceInfo cdev = some device ∧
        stateByPower device.state2power budget = some state ∧
        status'.pidCdevRequest cdev = some (state : Int)) ∨
      (cdev ∈ bindings.map Prod.fst → status.pidPowerBudget cdev = none) ∧
        status'.pidCdevRequest cdev = status.pidCdevRequest cdev := by
  induction bindings with
  | nil =>
    intro status ran _ cdev
    cases ran
    exact Or.inr ⟨nofun, rfl⟩
  | cons binding rest ih =>
    intro status ran distinct cdev
    obtain ⟨next, taken, ran⟩ := bind_eq_some_iff.mp ran
    obtain ⟨new, distinct⟩ := nodup_cons.mp distinct
    have later := ih next ran distinct cdev
    unfold updateCdevRequestByPower at taken
    split at taken
    case h_1 missing =>
      cases taken
      rcases later with ⟨budget, device, state, member, found⟩ | ⟨absent, same⟩
      · exact Or.inl ⟨budget, device, state, .tail _ member, found⟩
      · refine Or.inr ⟨?_, same⟩
        rintro (_ | ⟨_, member⟩)
        · exact missing
        · exact absent member
    case h_2 budget found =>
      obtain ⟨device, known, taken⟩ := bind_eq_some_iff.mp taken
      obtain ⟨state, chosen, rfl⟩ := map_eq_some_iff.mp taken
      by_cases same : cdev = binding.1
      · subst same
        rcases later with ⟨_, _, _, member, _⟩ | ⟨_, kept⟩
        · exact absurd member new
        · dsimp only at kept
          rw [update_self] at kept
          exact Or.inl ⟨budget, device, state, mem_cons_self, found, known, chosen, kept⟩
      · rcases later with ⟨budget, device, state, member, found⟩ | ⟨absent, kept⟩
        · exact Or.inl ⟨budget, device, state, .tail _ member, found⟩
        · dsimp only at kept
          rw [update_of_ne same] at kept
          refine Or.inr ⟨fun member => absent ?_, kept⟩
          exact (mem_cons.mp member).resolve_left same

/-- The requests are zero behind a failed allocation exactly when the budgets from before it cover
    the first states. Registration enters a vote for every device that has a weight. -/
theorem failed_allocation_cleared_iff (config : Config Sensor Cdev Rail) (sensor : Sensor)
    (power : Rail → Option (Option Rat)) (severity : ThrottlingSeverity) (shares : Shares Cdev)
    (voted : Cdev → Bool) (status left status' : ThrottlingStatus Cdev)
    (vote : ∀ b ∈ config.bindedCdevInfo sensor,
      weightless severity b.2 = false → voted b.1 = true)
    (failed : allocatePowerToCdev config power severity shares voted
      (config.bindedCdevInfo sensor) status = some (left, false))
    (called : ∃ binding ∈ config.bindedCdevInfo sensor,
      (status.pidPowerBudget binding.1).isSome = true)
    (updated : thermalThrottlingUpdate config power severity (outcome left false) sensor status =
      some status') :
    (∀ cdev x, status'.pidCdevRequest cdev = some x → x = 0) ↔
      ∀ binding ∈ config.bindedCdevInfo sensor, ∀ budget ∈ status.pidPowerBudget binding.1,
        ∀ device ∈ config.coolingDeviceInfo binding.1, Covered device budget := by
  obtain rfl := failed_keeps vote failed
  obtain ⟨powered, limits, steps, power, rfl⟩ := thermalThrottlingUpdate_frame updated
  rw [updatePart, if_pos (any_eq_true.mpr called)] at power
  have requests := byPower_requests _ _ power (config.binded_nodup sensor)
  have budgets : (left.allocate (outcome left false)).pidPowerBudget = left.pidPowerBudget := by
    funext cdev
    cases stored : left.pidPowerBudget cdev <;> simp [ThrottlingStatus.allocate, outcome, stored]
  rw [budgets] at requests
  constructor
  · intro zero binding member budget stored device known
    rcases requests binding.1 with ⟨budget', device', state, _, found, known', chosen, set⟩ | ⟨absent, _⟩
    · cases stored.symm.trans found
      cases known.symm.trans known'
      exact (covered_iff chosen).mp (Int.natCast_eq_zero.mp (zero _ _ set))
    · cases (absent (mem_map_of_mem member)).symm.trans stored
  · intro covered cdev x set
    rcases requests cdev with ⟨budget, device, state, member, found, known, chosen, kept⟩ | ⟨_, kept⟩
    · obtain ⟨binding, bound, rfl⟩ := mem_map.mp member
      have zero := (covered_iff chosen).mpr (covered binding bound budget found device known)
      cases set.symm.trans kept
      rw [zero]
      rfl
    · rw [kept] at set
      obtain ⟨_, _, rfl⟩ := map_eq_some_iff.mp set
      rfl

/-- A device that is throttled with a power link. -/
def linked : Config Unit Unit Unit where
  sensors := [()]
  coolingDeviceInfo := fun _ => some ⟨[some 900, some 600, some 300, some 100], 3⟩
  bindedCdevInfo := fun _ => [((), {
    limitInfo := fun _ => 0
    powerThresholds := fun _ => none
    releaseLogic := .none
    cdevWeightForPid := fun _ => some 1
    cdevCeiling := fun _ => intMax
    cdevFloorWithPowerLink := fun _ => 0
    powerRail := some ()
    highPowerCheck := false
    throttlingWithPowerLink := true })]
  sensors_nodup := by decide
  binded_nodup := by intro sensor; exact nodup_singleton _

def shares200 : Shares Unit := ⟨fun _ => false, fun _ => false, fun _ => some 200⟩

/-- An update with this power of the rail, with the result of the allocation in it. -/
def updateLinked (avgPower : Option Rat) (status : ThrottlingStatus Unit) :
    Option (Bool × ThrottlingStatus Unit) :=
  (allocatePowerToCdev linked (fun _ => some avgPower) .severe shares200 (fun _ => true)
    (linked.bindedCdevInfo ()) status).bind fun (left, succeeded) =>
      (thermalThrottlingUpdate linked (fun _ => some avgPower) .severe (outcome left succeeded) ()
        status).map fun status => (succeeded, status)

/-- Behind the registration the budget is as large as it gets. -/
theorem full_budget_cleared : ∃ status', updateLinked (some 500)
    ⟨fun _ => some intMax, fun _ => some 0, fun _ => none, fun _ => none, fun _ => some 0⟩ =
      some (false, status') ∧ ∀ cdev x, status'.pidCdevRequest cdev = some x → x = 0 := by
  refine ⟨_, rfl, (failed_allocation_cleared_iff linked () (fun _ => some (some 500)) .severe
    shares200 (fun _ => true)
    ⟨fun _ => some intMax, fun _ => some 0, fun _ => none, fun _ => none, fun _ => some 0⟩ _ _
    (fun _ _ _ => rfl) rfl ⟨_, mem_singleton_self _, rfl⟩ rfl).mpr ?_⟩
  rintro binding _ budget ⟨⟩ device ⟨⟩ power ⟨⟩
  decide

/-- The budget of 200 that was written while there was no power data asks for the last state when
    the next allocation fails. -/
theorem failed_allocation_not_cleared :
    ((initialise linked).bind fun h => (updateLinked none (h.throttlingStatus ())).bind
      fun first => (updateLinked (some 500) first.2).map fun second =>
        (first.1, second.1, second.2.pidCdevRequest ())) = some (true, false, some 3) := by
  decide +kernel

end FailedAllocation
