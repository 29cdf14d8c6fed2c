import SamsungHardware.Library.StepRuns

/- The average power of a rail, updateAveragePower of power_files.cpp. The samples are unsigned, and
   so are their differences. -/
namespace PowerAverages
open StepRuns

structure PowerSample where
  (energyCounter duration : UInt64)
  deriving DecidableEq

/-- The oldest sample is in front; without one the code reads behind an empty queue. What is not a
    number is `none`, and a number is exact. -/
def updateAveragePower (history : List PowerSample) (energyInfo : Option PowerSample) :
    Option (Option Rat × List PowerSample) :=
  match energyInfo, history with
  | none, _ => some (none, history)
  | some _, [] => none
  | some curr, last :: rest =>
    let duration := curr.duration - last.duration
    let deltaEnergy := curr.energyCounter - last.energyCounter
    if last.duration = 0 then some (none, rest ++ [curr])
    else if duration ≤ 0 ∨ deltaEnergy < 0 then some (none, history)
    else some (some (deltaEnergy.toNat / duration.toNat), rest ++ [curr])

structure Rail where
  avgPower : Option Rat
  history : List PowerSample

def Rail.update (rail : Rail) (energyInfo : Option PowerSample) : Option Rail :=
  (updateAveragePower rail.history energyInfo).map fun (avgPower, history) => ⟨avgPower, history⟩

def Grown (last curr : PowerSample) : Prop :=
  last.energyCounter ≤ curr.energyCounter ∧ last.duration < curr.duration

def WellDefined (before : Rail) (energyInfo : Option PowerSample) (after : Rail) : Prop :=
  ∀ power, after.avgPower = some power → ∃ last ∈ before.history.head?, ∃ curr ∈ energyInfo,
    Grown last curr ∧
      power = ((curr.energyCounter.toNat : Rat) - last.energyCounter.toNat) /
        ((curr.duration.toNat : Rat) - last.duration.toNat)

/-- Where a sample has not grown, its duration is the same or the older one is still missing. -/
def Monotone (before : Rail) (energyInfo : Option PowerSample) (_ : Rail) : Prop :=
  ∀ last ∈ before.history.head?, ∀ curr ∈ energyInfo,
    Grown last curr ∨ last.duration = 0 ∨ curr.duration = last.duration

theorem toNat_grown {last curr : UInt64} (le : last ≤ curr) :
    (((curr - last).toNat : Nat) : Rat) = (curr.toNat : Rat) - last.toNat := by
  rw [UInt64.toNat_sub_of_le _ _ le, Nat.cast_sub (UInt64.le_iff_toNat_le.mp le)]

theorem update_wellDefined (before : Rail) (energyInfo : Option PowerSample) (after : Rail)
    (taken : before.update energyInfo = some after) :
    WellDefined before energyInfo after ↔ Monotone before energyInfo after := by
  obtain ⟨old, history⟩ := before
  unfold Rail.update updateAveragePower at taken
  unfold WellDefined Monotone
  cases energyInfo with
  | none =>
    cases taken
    simp
  | some curr =>
    cases history with
    | nil => cases taken
    | cons last rest =>
      have same : curr.duration - last.duration ≤ 0 ∨
          curr.energyCounter - last.energyCounter < 0 ↔ curr.duration = last.duration := by
        simp
        grind
      simp only [same] at taken
      split_ifs at taken with missing still
      · cases taken
        simp [missing]
      · cases taken
        simp [still]
      · cases taken
        simp only [Option.some.injEq, forall_eq', List.head?_cons, Option.mem_def, exists_eq_left',
          missing, still, or_false]
        constructor
        · exact And.left
        · intro grown
          refine ⟨grown, ?_⟩
          rw [toNat_grown grown.1, toNat_grown (UInt64.le_of_lt grown.2)]

theorem average_power_iff (start : Rail) (samples : List (Option PowerSample)) :
    AllSteps Rail.update WellDefined start samples ↔
      AllSteps Rail.update Monotone start samples := by
  have keep : ∀ (before : Rail) energyInfo after, True →
      before.update energyInfo = some after → True := fun _ _ _ _ _ => trivial
  exact allSteps_iff keep (fun before energyInfo after _ => update_wellDefined before energyInfo after)
    samples start trivial

theorem reset_counter_averaged :
    updateAveragePower [⟨10, 1⟩] (some ⟨0, 2⟩) = some (some (2 ^ 64 - 10), [⟨0, 2⟩]) := by
  decide +kernel

end PowerAverages
