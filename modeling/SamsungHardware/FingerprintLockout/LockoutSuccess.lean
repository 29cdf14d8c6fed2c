import SamsungHardware.FingerprintLockout.LockoutCount

/- Successes of one session against the history of its failed attempts. Neither authenticate nor
   notify looks at the lockout before a matching finger is reported. -/
namespace LockoutSuccess
open StepRuns LockoutTracker LockoutCount

/-- `failures` are the failed attempts since the last success or reset, `since` is the clock at the
    last one that was at least the fifth, `permanent` says that it was at least the twentieth and
    `locked` that nothing has lifted its lockout. -/
structure History where
  failures : Nat
  since : Int
  (permanent locked : Bool)
  deriving DecidableEq, Repr

structure Watched where
  session : Session
  history : History

section

variable (hasElapsed : Int → Int → Int → Bool)

def History.over (h : History) (now : Int) : Bool :=
  !h.permanent && hasElapsed h.since lockoutTimedDuration now

def History.lifted (h : History) : History := { h with locked := false }

def History.after (s : Session) (h : History) (event : Event) : History :=
  match event with
  | .failed now =>
    if takesMessage s && decide (5 ≤ h.failures + 1) then
      ⟨counted s h.failures event, now, 20 ≤ h.failures + 1, true⟩
    else { h with failures := counted s h.failures event }
  | .checks now => if s.checks && h.over hasElapsed now then h.lifted else h
  | .succeeded _ => if takesMessage s then { h.lifted with failures := 0 } else h
  | .resetLockout => { h.lifted with failures := 0 }
  | .timerClears i => if s.timers[i]? = some .mayClear then h.lifted else h
  | _ => h

def watch (w : Watched) (event : Event) : Watched :=
  ⟨w.session.step hasElapsed event, w.history.after hasElapsed w.session event⟩

/-- The mode and the start of the tracker have no initial value: they may be those of a lockout. -/
def opened (lockoutTimedStart : Int) (mode : LockoutMode) : Watched :=
  ⟨Session.new ⟨0, lockoutTimedStart, mode⟩,
    ⟨0, lockoutTimedStart, mode = .permanent, mode ≠ .none⟩⟩

def NoneAtSuccess (w : Watched) : Event → Prop
  | .succeeded now => takesMessage w.session = true →
      w.session.mLockoutTracker.getMode hasElapsed now = .none
  | _ => True

/-- A matching finger is reported only when the history leaves no lockout. -/
def Permitted (w : Watched) : Event → Prop
  | .succeeded now => takesMessage w.session = true →
      w.history.locked = false ∨ w.history.over hasElapsed now = true
  | _ => True

def Countable (w : Watched) : Event → Prop
  | .failed _ => w.history.failures + 1 < 2 ^ 31
  | _ => True

instance (w : Watched) (event : Event) : Decidable (NoneAtSuccess hasElapsed w event) :=
  match event with
  | .succeeded _ => instDecidableForall
  | .authenticate | .failed _ | .checks _ | .resetLockout | .timerReads _ | .timerClears _
  | .timerEnds _ | .close => isTrue trivial

instance (w : Watched) (event : Event) : Decidable (Permitted hasElapsed w event) :=
  match event with
  | .succeeded _ => instDecidableForall
  | .authenticate | .failed _ | .checks _ | .resetLockout | .timerReads _ | .timerClears _
  | .timerEnds _ | .close => isTrue trivial

instance (w : Watched) (event : Event) : Decidable (Countable w event) :=
  match event with
  | .failed _ => Nat.decLt _ _
  | .authenticate | .succeeded _ | .checks _ | .resetLockout | .timerReads _ | .timerClears _
  | .timerEnds _ | .close => isTrue trivial

end

section

variable {hasElapsed : Int → Int → Int → Bool}

def History.mode (h : History) : LockoutMode :=
  if h.locked then if h.permanent then .permanent else .timed else .none

structure Agrees (t : Tracker) (h : History) : Prop where
  count : t.mFailedCount = h.failures
  mode : t.mCurrentMode = h.mode
  start : h.locked = true → h.permanent = false → t.mLockoutTimedStart = h.since

variable {h : History} {t : Tracker}

theorem mode_timed : h.mode = .timed ↔ h.locked = true ∧ h.permanent = false := by
  unfold History.mode
  cases h.locked <;> cases h.permanent <;> decide

theorem Agrees.refreshed (agrees : Agrees t h) (now : Int) :
    t.refresh hasElapsed now =
      if h.locked && h.over hasElapsed now then
        { t with mCurrentMode := .none, mLockoutTimedStart := 0 } else t := by
  unfold Tracker.refresh
  simp only [agrees.mode, mode_timed]
  by_cases timed : h.locked = true ∧ h.permanent = false
  · rw [agrees.start timed.1 timed.2]
    simp [timed, History.over]
  · rw [if_neg (fun both => timed both.1), if_neg]
    intro both
    simp only [History.over, Bool.and_eq_true, Bool.not_eq_true'] at both
    exact timed ⟨both.1, both.2.1⟩

theorem Agrees.getMode_none (agrees : Agrees t h) (now : Int) :
    t.getMode hasElapsed now = .none ↔ h.locked = false ∨ h.over hasElapsed now = true := by
  unfold Tracker.getMode
  rw [agrees.refreshed now]
  cases locked : h.locked with
  | false => simp [agrees.mode, History.mode, locked]
  | true =>
    cases ended : h.over hasElapsed now with
    | true => simp
    | false =>
      simp only [Bool.and_false, Bool.false_eq_true, if_false, agrees.mode, History.mode, locked,
        if_true]
      split <;> simp

theorem Agrees.lifted {t t' : Tracker} (agrees : Agrees t h)
    (count : t'.mFailedCount = t.mFailedCount) (mode : t'.mCurrentMode = .none) :
    Agrees t' h.lifted :=
  ⟨count.trans agrees.count, mode, fun locked => nomatch locked⟩

theorem Agrees.reset (t : Tracker) (h : History) :
    Agrees (t.reset true) { h.lifted with failures := 0 } :=
  ⟨rfl, rfl, fun locked => nomatch locked⟩

theorem Agrees.refresh (agrees : Agrees t h) (now : Int) :
    Agrees (t.refresh hasElapsed now) (if h.over hasElapsed now then h.lifted else h) := by
  rw [agrees.refreshed now]
  cases ended : h.over hasElapsed now with
  | false => simpa using agrees
  | true =>
    cases locked : h.locked with
    | true => exact agrees.lifted rfl rfl
    | false =>
      refine agrees.lifted rfl ?_
      simp [agrees.mode, History.mode, locked]

theorem Agrees.failed (agrees : Agrees t h) (now : Int) (small : h.failures + 1 < 2 ^ 31) :
    Agrees (t.addFailedAttempt now)
      (if 5 ≤ h.failures + 1 then ⟨h.failures + 1, now, 20 ≤ h.failures + 1, true⟩
        else { h with failures := h.failures + 1 }) := by
  unfold Tracker.addFailedAttempt
  simp only [agrees.count, bmod_count small, lockoutPermanentThreshold, lockoutTimedThreshold]
  by_cases many : 20 ≤ h.failures + 1
  · rw [if_pos (by omega), if_pos (by omega)]
    refine ⟨rfl, ?_, fun _ few => absurd many (of_decide_eq_false few)⟩
    simp [History.mode, many]
  · rw [if_neg (by omega)]
    by_cases five : 5 ≤ h.failures + 1
    · rw [if_pos (by omega), if_pos five]
      refine ⟨rfl, ?_, fun _ _ => rfl⟩
      simp [History.mode, many]
    · rw [if_neg (by omega), if_neg five]
      exact ⟨rfl, agrees.mode, agrees.start⟩

theorem Agrees.step {s : Session} (agrees : Agrees s.mLockoutTracker h) (event : Event)
    (small : ∀ now, event = .failed now → h.failures + 1 < 2 ^ 31) :
    Agrees (s.step hasElapsed event).mLockoutTracker (h.after hasElapsed s event) := by
  cases event with
  | failed now =>
    rw [Session.step, History.after, counted, takesMessage]
    cases s.mClosed || s.checks with
    | true => exact agrees
    | false => simpa using agrees.failed now (small now rfl)
  | checks now =>
    rw [Session.step, History.after]
    cases s.checks with
    | false => exact agrees
    | true =>
      change Agrees (s.checkSensorLockout hasElapsed now).mLockoutTracker _
      rw [check_tracker]
      exact agrees.refresh now
  | succeeded now =>
    rw [Session.step, History.after, takesMessage]
    cases s.mClosed || s.checks with
    | true => exact agrees
    | false => exact Agrees.reset _ _
  | resetLockout => exact Agrees.reset _ _
  | timerClears i =>
    rw [Session.step, History.after]
    split
    · exact agrees.lifted rfl rfl
    · exact agrees
  | timerReads i =>
    change Agrees _ h
    rw [Session.step]
    split <;> exact agrees
  | timerEnds i =>
    change Agrees _ h
    rw [Session.step]
    split <;> exact agrees
  | authenticate => exact agrees
  | close => exact agrees

theorem Agrees.success {w : Watched} (event : Event)
    (agrees : Agrees w.session.mLockoutTracker w.history) :
    NoneAtSuccess hasElapsed w event ↔ Permitted hasElapsed w event := by
  cases event with
  | succeeded now => exact imp_congr_right fun _ => agrees.getMode_none now
  | _ => exact Iff.rfl

end

/-- In every run of a session whose counter stays in range, successes are delivered only in mode
    NONE exactly when each matching finger comes while the history leaves no lockout. -/
theorem success_outside_lockout (hasElapsed : Int → Int → Int → Bool) (lockoutTimedStart : Int)
    (mode : LockoutMode) (events : List Event)
    (countable : Meets (watch hasElapsed) Countable (opened lockoutTimedStart mode) events) :
    Meets (watch hasElapsed) (NoneAtSuccess hasElapsed) (opened lockoutTimedStart mode) events ↔
      Meets (watch hasElapsed) (Permitted hasElapsed) (opened lockoutTimedStart mode) events := by
  have start : Agrees (opened lockoutTimedStart mode).session.mLockoutTracker
      (opened lockoutTimedStart mode).history := by
    refine ⟨rfl, ?_, fun _ _ => rfl⟩
    cases mode <;> rfl
  have keep : ∀ w event, Agrees w.session.mLockoutTracker w.history → Countable w event →
      Agrees (watch hasElapsed w event).session.mLockoutTracker
        (watch hasElapsed w event).history := by
    intro w event agrees within
    refine agrees.step event ?_
    rintro now rfl
    exact within
  exact meets_iff_of_inv keep (fun w event => Agrees.success event) events _ start countable

def attempts (n : Nat) (now : Int) : List Event :=
  (List.replicate n [Event.failed 0, .checks 0]).flatten ++ [.succeeded now]

theorem success_after_duration :
    Meets (watch elapsed) (NoneAtSuccess elapsed) (opened 0 .none) (attempts 5 30000000000) := by
  have countable : Meets (watch elapsed) Countable (opened 0 .none) (attempts 5 30000000000) := by
    decide +kernel
  exact (success_outside_lockout elapsed 0 .none _ countable).mpr (by decide +kernel)

/-- A matching finger right after the fifth or any time after the twentieth one that does not
    match. -/
theorem success_in_lockout :
    ¬ Meets (watch elapsed) (NoneAtSuccess elapsed) (opened 0 .none) (attempts 5 0) ∧
      ¬ Meets (watch elapsed) (NoneAtSuccess elapsed) (opened 0 .none) (attempts 20 30000000000) := by
  decide +kernel

end LockoutSuccess
