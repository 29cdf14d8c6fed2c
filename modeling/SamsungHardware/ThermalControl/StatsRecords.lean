import SamsungHardware.Library.StepRuns

/- The residencies of a record in thermal_stats_helper.cpp, over its updates and reports. Times are
   in nanoseconds and residencies in milliseconds. -/
namespace StatsRecords
open StepRuns

structure StatsRecord (n : Nat) where
  curState : Fin n
  curStateStartTime : Int
  timeInStateMs : Fin n → Int
  reportFailCount : Nat

variable {n : Nat}

def StatsRecord.create (state : Fin n) (now : Int) : StatsRecord n := ⟨state, now, 0, 0⟩

def updateStatsRecord (record : StatsRecord n) (now : Int) (newState : Fin n) : StatsRecord n :=
  let curStateDuration := (now - record.curStateStartTime).tdiv 1000000
  { record with
    timeInStateMs := record.timeInStateMs + Pi.single record.curState curStateDuration
    curStateStartTime := now
    curState := newState }

def processStatsRecordForReporting (record : StatsRecord n) (now : Int) :
    (Fin n → Int) × StatsRecord n :=
  let record := updateStatsRecord record now record.curState
  (record.timeInStateMs, { record with timeInStateMs := 0 })

def restoreStatsRecordOnFailure (record : StatsRecord n) (now : Int) : StatsRecord n :=
  let record := { record with reportFailCount := record.reportFailCount + 1 }
  if record.reportFailCount ≥ 3 then .create record.curState now else record

/-- What both report functions do to a record, and the residencies that were reported. The clock is
    read once for the report and again behind a failed one. -/
def report (record : StatsRecord n) (now later : Int) (succeeds : Bool) :
    Option (Fin n → Int) × StatsRecord n :=
  let (residency, processed) := processStatsRecordForReporting record now
  if succeeds then (some residency, processed)
  else (none, restoreStatsRecordOnFailure record later)

inductive Event (n : Nat) where
  | update (now : Int) (newState : Fin n)
  | report (now later : Int) (succeeds : Bool)

/-- A record since it was created or dropped, at the time `created`: the sum that was reported, the
    failures in a row, and whether it was ever dropped by another than the third of them. -/
structure Ledger (n : Nat) where
  record : StatsRecord n
  (created reported : Int)
  failures : Nat
  early : Bool

def start (state : Fin n) (now : Int) : Ledger n := ⟨.create state now, now, 0, 0, false⟩

def step (s : Ledger n) : Event n → Ledger n
  | .update now newState => { s with record := updateStatsRecord s.record now newState }
  | .report now later succeeds =>
    match report s.record now later succeeds with
    | (some residency, record) =>
      { s with record := record, reported := s.reported + ∑ i, residency i, failures := 0 }
    | (none, record) =>
      if record.reportFailCount = 0 then
        ⟨record, record.curStateStartTime, 0, 0, s.early || s.failures + 1 != 3⟩
      else { s with record := record, failures := s.failures + 1 }

def Conserved (s : Ledger n) : Prop :=
  s.early = false ∧ ∀ now, 1000000 * (s.reported + ∑ i, s.record.timeInStateMs i) +
    (now - s.record.curStateStartTime) = now - s.created

/-- A closed interval has whole milliseconds, and the failure that the record counts as the third
    comes behind two others. -/
def Exact (s : Ledger n) : Event n → Prop
  | .update now _ | .report now _ true => 1000000 ∣ now - s.record.curStateStartTime
  | .report _ _ false => 2 ≤ s.record.reportFailCount → s.failures = 2

theorem sum_update (record : StatsRecord n) (now : Int) (newState : Fin n) :
    ∑ i, (updateStatsRecord record now newState).timeInStateMs i =
      ∑ i, record.timeInStateMs i + (now - record.curStateStartTime).tdiv 1000000 := by
  simp [updateStatsRecord, Finset.sum_add_distrib]

theorem conserved_closed {sum reported start created now : Int}
    (before : ∀ t, 1000000 * (reported + sum) + (t - start) = t - created) :
    (∀ t, 1000000 * (reported + (sum + (now - start).tdiv 1000000)) + (t - now) = t - created) ↔
      1000000 ∣ now - start := by
  have balance := before now
  constructor
  · intro after
    have := after now
    omega
  · intro whole t
    have := Int.mul_tdiv_cancel' whole
    omega

theorem step_conserved (s : Ledger n) (event : Event n) (conserved : Conserved s) :
    Conserved (step s event) ↔ Exact s event := by
  obtain ⟨prompt, before⟩ := conserved
  cases event with
  | update now newState =>
    simp only [Conserved, step, Exact, sum_update]
    rw [← conserved_closed before]
    exact and_iff_right prompt
  | report now later succeeds =>
    cases succeeds with
    | true =>
      simp only [Conserved, step, report, processStatsRecordForReporting, Exact, if_true, sum_update]
      rw [← conserved_closed before]
      simp [updateStatsRecord, prompt]
    | false =>
      simp only [Conserved, step, report, restoreStatsRecordOnFailure, Exact]
      by_cases last : 2 ≤ s.record.reportFailCount
      · simp [last, StatsRecord.create, prompt]
      · simp [last, prompt, before]

theorem residencies_conserved_iff (state : Fin n) (now : Int) (events : List (Event n)) :
    Visits step Conserved (start state now) events ↔ Meets step Exact (start state now) events := by
  refine visits_iff_meets (fun s conserved => conserved) ?_ ?_ events _ ?_
  · intro s event conserved whole
    exact (step_conserved s event conserved).mpr whole
  · intro s event conserved inexact kept
    exact inexact ((step_conserved s event conserved).mp kept)
  · simp [Conserved, start, StatsRecord.create]

/-- A success does not clear the count: the third failure drops a millisecond. -/
theorem third_failure_not_in_a_row :
    let s := [.report 0 0 false, .report 0 0 false, .report 0 0 true, .update 1000000 0,
      .report 2000000 3000000 false].foldl step (start 0 0 : Ledger 1)
    s.early = true ∧ s.reported + s.record.timeInStateMs 0 = 0 ∧ s.created = 3000000 := by
  decide +kernel

end StatsRecords
