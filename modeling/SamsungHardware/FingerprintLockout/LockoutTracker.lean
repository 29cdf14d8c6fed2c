import SamsungHardware.Library.StepRuns

/- The lockout of the fingerprint service: LockoutTracker.cpp, and the parts of Session.cpp that use
   it. The thread of the sensor, the callers and the threads of the lockout timers run side by side
   without a lock; a step is one call of the tracker, or one access of a timer thread to the flags. -/
namespace LockoutTracker

inductive LockoutMode where
  | none
  | timed
  | permanent
  deriving DecidableEq, Repr

def lockoutTimedThreshold : Int := 5
def lockoutTimedDuration : Int := 30 * 1000
def lockoutPermanentThreshold : Int := 20

structure Tracker where
  (mFailedCount mLockoutTimedStart : Int)
  mCurrentMode : LockoutMode
  deriving DecidableEq, Repr

section

/- `hasElapsed start duration now` of the common utilities, which are not part of the service. -/
variable (hasElapsed : Int → Int → Int → Bool)

def Tracker.reset (t : Tracker) (clearAttemptCounter : Bool) : Tracker :=
  { mFailedCount := if clearAttemptCounter then 0 else t.mFailedCount
    mLockoutTimedStart := 0
    mCurrentMode := .none }

def Tracker.addFailedAttempt (t : Tracker) (now : Int) : Tracker :=
  let t := { t with mFailedCount := (t.mFailedCount + 1).bmod (2 ^ 32) }
  if t.mFailedCount ≥ lockoutPermanentThreshold then { t with mCurrentMode := .permanent }
  else if t.mFailedCount ≥ lockoutTimedThreshold then
    { t with mCurrentMode := .timed, mLockoutTimedStart := now }
  else t

theorem bmod_count {failures : Nat} (small : failures + 1 < 2 ^ 31) :
    ((failures : Int) + 1).bmod (2 ^ 32) = ((failures + 1 : Nat) : Int) :=
  Int.bmod_eq_of_le (by omega) (by omega)

/-- A timed lockout ends with the first look at it that comes late enough. -/
def Tracker.refresh (t : Tracker) (now : Int) : Tracker :=
  if t.mCurrentMode = .timed ∧ hasElapsed t.mLockoutTimedStart lockoutTimedDuration now then
    { t with mCurrentMode := .none, mLockoutTimedStart := 0 }
  else t

def Tracker.getMode (t : Tracker) (now : Int) : LockoutMode := (t.refresh hasElapsed now).mCurrentMode

end

variable (hasElapsed : Int → Int → Int → Bool)

/-- How far the thread of a lockout timer is: the flag is read, then the lockout is cleared or not,
    then both flags are reset. -/
inductive Timer where
  | sleeps
  | mayClear
  | ends
  deriving DecidableEq, Repr

/-- `checks` says that the sensor thread is between the count of a failed attempt and the check
    behind it. -/
structure Session where
  mLockoutTracker : Tracker
  (mClosed mIsLockoutTimerStarted mIsLockoutTimerAborted : Bool)
  timers : List Timer
  checks : Bool
  deriving DecidableEq, Repr

def Session.new (tracker : Tracker) : Session := ⟨tracker, false, false, false, [], false⟩

def Session.startLockoutTimer (s : Session) : Session :=
  { s with
    mIsLockoutTimerAborted := false
    timers := s.timers ++ [.sleeps]
    mIsLockoutTimerStarted := true }

def Session.checkSensorLockout (s : Session) (now : Int) : Session :=
  let s := { s with mLockoutTracker := s.mLockoutTracker.refresh hasElapsed now }
  match s.mLockoutTracker.mCurrentMode with
  | .permanent => { s with mIsLockoutTimerAborted := true }
  | .timed => if s.mIsLockoutTimerStarted then s else s.startLockoutTimer
  | .none => s

def Session.clearLockout (s : Session) (clearAttemptCounter : Bool) : Session :=
  { s with mLockoutTracker := s.mLockoutTracker.reset clearAttemptCounter }

inductive Event where
  | authenticate
  | failed (now : Int)
  | checks (now : Int)
  | succeeded (now : Int)
  | resetLockout
  | timerReads (i : Nat)
  | timerClears (i : Nat)
  | timerEnds (i : Nat)
  | close
  deriving DecidableEq, Repr

/-- What cannot happen now changes nothing; a closed session gets no messages. -/
def Session.step (s : Session) : Event → Session
  | .authenticate => s
  | .failed now =>
    if s.mClosed || s.checks then s
    else { s with mLockoutTracker := s.mLockoutTracker.addFailedAttempt now, checks := true }
  | .checks now =>
    if s.checks then { s.checkSensorLockout hasElapsed now with checks := false } else s
  | .succeeded _ =>
    if s.mClosed || s.checks then s
    else { s with mLockoutTracker := s.mLockoutTracker.reset true }
  | .resetLockout => { s.clearLockout true with mIsLockoutTimerAborted := true }
  | .timerReads i =>
    if s.timers[i]? = some .sleeps then
      { s with timers := s.timers.set i (if s.mIsLockoutTimerAborted then .ends else .mayClear) }
    else s
  | .timerClears i =>
    if s.timers[i]? = some .mayClear then
      { s.clearLockout false with timers := s.timers.set i .ends }
    else s
  | .timerEnds i =>
    if s.timers[i]? = some .ends then
      { s with
        mIsLockoutTimerStarted := false
        mIsLockoutTimerAborted := false
        timers := s.timers.eraseIdx i }
    else s
  | .close => { s with mClosed := true }

end LockoutTracker
