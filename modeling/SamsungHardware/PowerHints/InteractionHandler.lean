import SamsungHardware.Library.StepRuns

/- The boost of InteractionHandler.cpp, with display-idle support. Everything it keeps is guarded
   by `mLock`, so a step is what one thread does from taking the lock to giving it up; the states
   between steps are those in which the lock is free. -/
namespace InteractionHandler
open StepRuns

inductive InteractionState where
  | uninitialized
  | idle
  | interaction
  | waiting
  deriving DecidableEq, Repr

/-- Calls for the hint without a duration. -/
inductive HintCall where
  | doHint
  | endHint
  deriving DecidableEq, Repr

structure Timespec where
  (sec nsec : Int)
  deriving DecidableEq, Repr

inductive Worker where
  | none
  | atLock
  | waitsForIdle
  | returned
  deriving DecidableEq, Repr

inductive Owner where
  | outside
  | joins
  deriving DecidableEq, Repr

/-- `calls` has the last call in front. -/
structure Handler where
  mState : InteractionState
  mDurationMs : Int
  mLastTimespec : Timespec
  eventFd : Nat
  worker : Worker
  owner : Owner
  calls : List HintCall

structure Durations where
  (min max offset : Nat)

section

def constructed : Handler := ⟨.uninitialized, 0, ⟨0, 0⟩, 0, .none, .outside, []⟩

def calcTimespecDiffMs (start stop : Timespec) : Int :=
  ((stop.sec - start.sec) * 1000 + (stop.nsec - start.nsec).tdiv 1000000) % 2 ^ 64

/-- The sum is unsigned and is stored in an int, which the comparisons read as unsigned. -/
def finalDuration (durations : Durations) (duration : Int) : Int :=
  let input := (duration + durations.offset).bmod (2 ^ 32)
  if input % 2 ^ 32 > durations.max then Int.bmod durations.max (2 ^ 32)
  else if input % 2 ^ 32 > durations.min then input
  else Int.bmod durations.min (2 ^ 32)

variable (h : Handler)

def Handler.perfLock : Handler := { h with calls := .doHint :: h.calls }

def Handler.perfRel : Handler := { h with calls := .endHint :: h.calls }

def Handler.abortWaitLocked : Handler := { h with eventFd := h.eventFd + 1 }

def Handler.init (idleOpened eventOpened : Bool) : Handler :=
  if h.mState ≠ .uninitialized then h
  else if idleOpened && eventOpened then
    { h with mState := .idle, eventFd := 0, worker := .atLock }
  else h

/-- `Exit` up to the unlock; it then joins the thread of `Routine`. -/
def Handler.exit : Handler :=
  if h.mState = .uninitialized then h
  else { h.abortWaitLocked with mState := .uninitialized, owner := .joins }

def Handler.covers (final : Int) (now : Timespec) : Bool :=
  h.mState ≠ .idle && final ≤ h.mDurationMs &&
    calcTimespecDiffMs h.mLastTimespec now ≤ h.mDurationMs - final

/-- Before `Init` the hint is given with a duration, which is not one of the calls here. -/
def Handler.acquire (durations : Durations) (h : Handler) (duration : Int) (now : Timespec) :
    Handler :=
  let final := finalDuration durations duration
  if h.mState = .uninitialized then h
  else if h.covers final now then h
  else
    let h := { h with mLastTimespec := now, mDurationMs := final }
    let h := match h.mState with
      | .waiting => h.abortWaitLocked
      | .idle => h.perfLock
      | _ => h
    { h with mState := .interaction }

def Handler.release : Handler :=
  if h.mState = .waiting then { h.perfRel with mState := .idle } else { h with eventFd := 0 }

def Handler.awake : Handler :=
  if h.mState = .uninitialized then { h with worker := .returned }
  else { h with mState := .waiting, worker := .waitsForIdle }

end

inductive Event where
  | init (idleOpened eventOpened : Bool)
  | exit
  | exitReturns
  | acquire (duration : Int) (now : Timespec)
  | awake
  | release
  deriving DecidableEq, Repr

/-- What cannot happen now changes nothing. The wait for the display ends at any time. -/
def step (durations : Durations) (h : Handler) : Event → Handler
  | .init idleOpened eventOpened => if h.owner = .outside then h.init idleOpened eventOpened else h
  | .exit => if h.owner = .outside then h.exit else h
  | .exitReturns =>
    if h.owner = .joins ∧ h.worker = .returned then { h with owner := .outside, worker := .none }
    else h
  | .acquire duration now => h.acquire durations duration now
  | .awake => if h.worker = .atLock ∧ h.mState ≠ .idle then h.awake else h
  | .release => if h.worker = .waitsForIdle then { h.release with worker := .atLock } else h

def Active (h : Handler) : Prop := h.calls.head? = some .doHint

def Alternating : List HintCall → Prop
  | [] => True
  | [call] => call = .doHint
  | call :: before :: calls => call ≠ before ∧ Alternating (before :: calls)

structure Booked (h : Handler) : Prop where
  active : Active h ↔ h.mState = .interaction ∨ h.mState = .waiting
  alternating : Alternating h.calls
  exited : h.mState = .uninitialized → h.owner = .outside → ¬ Active h

/-- `Exit` does not come while the boost is on. -/
def Settled (h : Handler) : Event → Prop
  | .exit => h.owner = .outside → h.mState = .uninitialized ∨ h.mState = .idle
  | _ => True

variable {h : Handler} {calls : List HintCall} {durations : Durations}

theorem Booked.of_active (active : Active h ↔ h.mState = .interaction ∨ h.mState = .waiting)
    (alternating : Alternating h.calls) : Booked h := by
  refine ⟨active, alternating, fun state _ on => ?_⟩
  rw [active, state] at on
  rcases on with wrong | wrong <;> cases wrong

theorem Alternating.doHint (alternating : Alternating calls) (off : calls.head? ≠ some .doHint) :
    Alternating (.doHint :: calls) := by
  cases calls with
  | nil => rfl
  | cons call calls =>
    refine ⟨?_, alternating⟩
    intro same
    exact off (by rw [← same]; rfl)

theorem Alternating.endHint (alternating : Alternating calls) (on : calls.head? = some .doHint) :
    Alternating (.endHint :: calls) := by
  cases calls with
  | nil => cases on
  | cons call calls =>
    cases on
    exact ⟨HintCall.noConfusion, alternating⟩

theorem Booked.same {h h' : Handler} (booked : Booked h) (calls : h'.calls = h.calls)
    (side : (h'.mState = .interaction ∨ h'.mState = .waiting) ↔
      (h.mState = .interaction ∨ h.mState = .waiting)) : Booked h' := by
  apply Booked.of_active
  · rw [Active, calls, side]
    exact booked.active
  · rw [calls]
    exact booked.alternating

section

variable (booked : Booked h)
include booked

theorem Booked.acquire (durations : Durations) (duration : Int) (now : Timespec) :
    Booked (h.acquire durations duration now) := by
  unfold Handler.acquire
  dsimp only
  split
  · exact booked
  · rename_i started
    split
    · exact booked
    · cases state : h.mState with
      | uninitialized => exact absurd state started
      | idle =>
        have off : ¬ Active h := by
          rw [booked.active, state]
          rintro (wrong | wrong) <;> cases wrong
        exact Booked.of_active ⟨fun _ => Or.inl rfl, fun _ => rfl⟩ (booked.alternating.doHint off)
      | interaction => exact booked.same rfl (by rw [state])
      | waiting => exact booked.same rfl (by rw [state]; simp)

theorem Booked.release : Booked { h.release with worker := .atLock } := by
  unfold Handler.release
  split
  · rename_i state
    have on : Active h := booked.active.mpr (Or.inr state)
    refine Booked.of_active ⟨fun active => ?_, fun wrong => ?_⟩ (booked.alternating.endHint on)
    · cases active
    · rcases wrong with wrong | wrong <;> cases wrong
  · exact booked.same rfl Iff.rfl

theorem Booked.awake (state : h.mState ≠ .idle) : Booked h.awake := by
  unfold Handler.awake
  split
  · exact booked.same rfl Iff.rfl
  · rename_i started
    refine booked.same (by rfl) ?_
    cases kind : h.mState with
    | uninitialized => exact absurd kind started
    | idle => exact absurd kind state
    | interaction | waiting => simp

theorem Booked.init (idleOpened eventOpened : Bool) :
    Booked (h.init idleOpened eventOpened) := by
  unfold Handler.init
  split
  · exact booked
  · rename_i state
    rw [Ne, Classical.not_not] at state
    split
    · exact booked.same rfl (by rw [state]; simp)
    · exact booked

theorem Booked.exit (settled : h.mState = .uninitialized ∨ h.mState = .idle) :
    Booked h.exit := by
  unfold Handler.exit
  split
  · exact booked
  · refine booked.same (by rfl) ?_
    rcases settled with state | state
    · rw [state]
    · rw [state]
      simp

end

theorem Booked.keep (h : Handler) (event : Event) (booked : Booked h) (settled : Settled h event) :
    Booked (step durations h event) := by
  cases event with
  | init idleOpened eventOpened =>
    rw [step]
    split
    · exact booked.init idleOpened eventOpened
    · exact booked
  | exit =>
    rw [step]
    split
    · rename_i outside
      exact booked.exit (settled outside)
    · exact booked
  | exitReturns =>
    rw [step]
    split
    · exact booked.same rfl Iff.rfl
    · exact booked
  | acquire duration now => exact booked.acquire durations duration now
  | awake =>
    rw [step]
    split
    · rename_i free
      exact booked.awake free.2
    · exact booked
  | release =>
    rw [step]
    split
    · exact booked.release
    · exact booked

theorem not_booked_of_exit (h : Handler) (event : Event) (booked : Booked h)
    (boosted : ¬ Settled h event) : ¬ Booked (step durations h event) := by
  cases event with
  | exit =>
    unfold Settled at boosted
    obtain ⟨outside, state⟩ := Classical.not_imp.mp boosted
    rw [not_or] at state
    have on : Active h := by
      rw [booked.active]
      cases kind : h.mState with
      | uninitialized => exact absurd kind state.1
      | idle => exact absurd kind state.2
      | interaction => exact Or.inl rfl
      | waiting => exact Or.inr rfl
    intro after
    rw [step, if_pos outside, Handler.exit, if_neg state.1] at after
    rcases after.active.mp on with wrong | wrong <;> cases wrong
  | init _ _ | exitReturns | acquire _ _ | awake | release => exact absurd trivial boosted

/-- The hint is booked right in every state of a run, over all interleavings, exactly if no `Exit`
    takes the lock during the boost. -/
theorem boost_booked (durations : Durations) (events : List Event) :
    Visits (step durations) Booked constructed events ↔
      Meets (step durations) Settled constructed events := by
  have start : Booked constructed :=
    Booked.of_active ⟨fun on => (by cases on), fun on => by rcases on with on | on <;> cases on⟩
      trivial
  exact visits_iff_meets (fun _ booked => booked) Booked.keep not_booked_of_exit events _ start

/-- The display service ends while a boost is on. -/
theorem exit_leaves_hint :
    ¬ Visits (step ⟨1400, 5650, 650⟩) Booked constructed
      [.init true true, .acquire 0 ⟨1, 0⟩, .awake, .exit, .release, .awake, .exitReturns] := by
  rintro ⟨_, _, _, _, _, _, _, booked⟩
  exact booked.exited (by decide +kernel) (by decide +kernel) (by unfold Active; decide +kernel)

end InteractionHandler
