import SamsungHardware.FingerprintLockout.LockoutTracker

/- Failed attempts over all sessions of the fingerprint service. Every session gets a copy of the
   service's own tracker, which is never changed. -/
namespace LockoutCount
open StepRuns LockoutTracker

/-- `failures` are the failed attempts since the last success or reset, over all sessions. -/
structure Service where
  mLockoutTracker : Tracker
  mSession : Option Session
  failures : Nat

inductive Call where
  | createSession
  | inSession (event : Event)
  deriving DecidableEq, Repr

section

variable (hasElapsed : Int → Int → Int → Bool)

/-- The members of the service's tracker that have no initial value may hold anything. -/
def started (lockoutTimedStart : Int) (mode : LockoutMode) : Service :=
  ⟨⟨0, lockoutTimedStart, mode⟩, none, 0⟩

def Service.createSession (service : Service) : Service :=
  match service.mSession with
  | some s =>
    if s.mClosed then { service with mSession := some (Session.new service.mLockoutTracker) }
    else service
  | none => { service with mSession := some (Session.new service.mLockoutTracker) }

def takesMessage (s : Session) : Bool := !(s.mClosed || s.checks)

def counted (s : Session) (failures : Nat) : Event → Nat
  | .failed _ => if takesMessage s then failures + 1 else failures
  | .succeeded _ => if takesMessage s then 0 else failures
  | .resetLockout => 0
  | _ => failures

def step (service : Service) : Call → Service
  | .createSession => service.createSession
  | .inSession event =>
    match service.mSession with
    | some s =>
      { service with
        mSession := some (s.step hasElapsed event)
        failures := counted s service.failures event }
    | none => service

def LocksOut (service : Service) : Prop :=
  ∀ s, service.mSession = some s → s.mLockoutTracker.mFailedCount = service.failures ∧
    (20 ≤ service.failures → ∀ now, s.mLockoutTracker.getMode hasElapsed now = .permanent)

/-- No session is opened with failed attempts behind, no timer that is past its check of the flag
    clears the lockout of 20 failed attempts, and the counter does not overflow. -/
def Sound (service : Service) : Call → Prop
  | .createSession =>
    (∀ s, service.mSession = some s → s.mClosed = true) → service.failures = 0
  | .inSession (.timerClears i) => ∀ s, service.mSession = some s →
      s.timers[i]? = some .mayClear → service.failures < 20
  | .inSession (.failed _) => ∀ s, service.mSession = some s → takesMessage s = true →
      service.failures + 1 < 2 ^ 31
  | _ => True

end

variable {hasElapsed : Int → Int → Int → Bool}

section

structure Counts (t : Tracker) (failures : Nat) : Prop where
  count : t.mFailedCount = failures
  locked : 20 ≤ failures → t.mCurrentMode = .permanent

variable {t : Tracker} {failures : Nat}

theorem getMode_permanent :
    (∀ now, t.getMode hasElapsed now = .permanent) ↔ t.mCurrentMode = .permanent := by
  constructor
  · intro all
    have now := all 0
    rw [Tracker.getMode, Tracker.refresh] at now
    split at now
    · cases now
    · exact now
  · intro permanent now
    rw [Tracker.getMode, Tracker.refresh, if_neg (by rw [permanent]; simp)]
    exact permanent

theorem Counts.refresh (counts : Counts t failures) (now : Int) :
    Counts (t.refresh hasElapsed now) failures := by
  unfold Tracker.refresh
  split
  · rename_i timed
    refine ⟨counts.count, fun many => ?_⟩
    have permanent := counts.locked many
    rw [timed.1] at permanent
    cases permanent
  · exact counts

theorem Counts.addFailedAttempt (counts : Counts t failures) (now : Int)
    (small : failures + 1 < 2 ^ 31) : Counts (t.addFailedAttempt now) (failures + 1) := by
  unfold Tracker.addFailedAttempt
  simp only [counts.count, bmod_count small, lockoutPermanentThreshold, lockoutTimedThreshold]
  split
  · exact ⟨rfl, fun _ => rfl⟩
  · rename_i few
    have below : ¬ 20 ≤ failures + 1 := by omega
    split
    · exact ⟨rfl, fun many => absurd many below⟩
    · exact ⟨rfl, fun many => absurd many below⟩

theorem Counts.reset (t : Tracker) : Counts (t.reset true) 0 :=
  ⟨rfl, fun many => absurd many (by omega)⟩

theorem Counts.clear (counts : Counts t failures) (few : failures < 20) :
    Counts (t.reset false) failures :=
  ⟨counts.count, fun many => absurd many (by omega)⟩

theorem check_tracker (s : Session) (now : Int) :
    (s.checkSensorLockout hasElapsed now).mLockoutTracker =
      s.mLockoutTracker.refresh hasElapsed now := by
  unfold Session.checkSensorLockout
  dsimp only
  split
  · rfl
  · split <;> rfl
  · rfl

theorem Counts.step {s : Session} (counts : Counts s.mLockoutTracker failures) (event : Event)
    (clears : ∀ i, event = .timerClears i → s.timers[i]? = some .mayClear → failures < 20)
    (small : ∀ now, event = .failed now → takesMessage s = true → failures + 1 < 2 ^ 31) :
    Counts (s.step hasElapsed event).mLockoutTracker (counted s failures event) := by
  cases event with
  | authenticate => exact counts
  | failed now =>
    rw [Session.step, counted, takesMessage]
    cases busy : s.mClosed || s.checks with
    | true => exact counts
    | false => exact counts.addFailedAttempt now (small now rfl (by rw [takesMessage, busy]; rfl))
  | checks now =>
    change Counts _ failures
    rw [Session.step]
    split
    · change Counts (s.checkSensorLockout hasElapsed now).mLockoutTracker failures
      rw [check_tracker]
      exact counts.refresh now
    · exact counts
  | succeeded now =>
    rw [Session.step, counted, takesMessage]
    cases s.mClosed || s.checks with
    | true => exact counts
    | false => exact Counts.reset _
  | resetLockout => exact Counts.reset _
  | timerReads i =>
    change Counts _ failures
    rw [Session.step]
    split <;> exact counts
  | timerClears i =>
    change Counts _ failures
    rw [Session.step]
    split
    · rename_i ready
      exact counts.clear (clears i rfl ready)
    · exact counts
  | timerEnds i =>
    change Counts _ failures
    rw [Session.step]
    split <;> exact counts
  | close => exact counts

end

section

/-- What a run without an unsound step keeps: the tracker that sessions copy has counted nothing,
    and there are failed attempts only where a session has seen them. -/
structure Kept (service : Service) : Prop where
  untouched : service.mLockoutTracker.mFailedCount = 0
  counts : ∀ s, service.mSession = some s → Counts s.mLockoutTracker service.failures
  idle : service.mSession = none → service.failures = 0
  small : service.failures < 2 ^ 31

theorem Kept.started (lockoutTimedStart : Int) (mode : LockoutMode) :
    Kept (started lockoutTimedStart mode) :=
  ⟨rfl, fun _ found => (by cases found), fun _ => rfl, Nat.two_pow_pos 31⟩

variable {service : Service}

theorem Kept.locksOut (kept : Kept service) : LocksOut hasElapsed service := by
  intro s found
  have counts := kept.counts s found
  exact ⟨counts.count, fun many => getMode_permanent.mpr (counts.locked many)⟩

theorem createSession_eq (service : Service) :
    service.createSession = service ∨
      (∀ s, service.mSession = some s → s.mClosed = true) ∧ service.createSession =
        { service with mSession := some (Session.new service.mLockoutTracker) } := by
  unfold Service.createSession
  split
  · rename_i s found
    split
    · rename_i closed
      refine .inr ⟨fun s' found' => ?_, rfl⟩
      rw [found] at found'
      cases found'
      exact closed
    · exact .inl rfl
  · rename_i none
    refine .inr ⟨fun s found => ?_, rfl⟩
    rw [none] at found
    cases found

theorem Kept.createSession (kept : Kept service) (sound : Sound service .createSession) :
    Kept service.createSession := by
  rcases createSession_eq service with same | ⟨closed, created⟩
  · rw [same]
    exact kept
  · have zero := sound closed
    rw [created]
    refine { kept with counts := ?_, idle := fun _ => zero }
    intro s found
    cases found
    refine ⟨?_, fun many => absurd many (by change ¬ 20 ≤ service.failures; omega)⟩
    change service.mLockoutTracker.mFailedCount = ((service.failures : Nat) : Int)
    rw [kept.untouched, zero]
    rfl

theorem counted_small {s : Session} {failures : Nat} (small : failures < 2 ^ 31) (event : Event)
    (next : ∀ now, event = .failed now → takesMessage s = true → failures + 1 < 2 ^ 31) :
    counted s failures event < 2 ^ 31 := by
  cases event with
  | failed now =>
    rw [counted]
    split
    · rename_i takes
      exact next now rfl takes
    · exact small
  | succeeded now =>
    rw [counted]
    split
    · exact Nat.two_pow_pos 31
    · exact small
  | resetLockout => exact Nat.two_pow_pos 31
  | authenticate => exact small
  | checks now => exact small
  | timerReads i => exact small
  | timerClears i => exact small
  | timerEnds i => exact small
  | close => exact small

theorem Kept.keep (kept : Kept service) (call : Call) (sound : Sound service call) :
    Kept (step hasElapsed service call) := by
  cases call with
  | createSession => exact kept.createSession sound
  | inSession event =>
    rw [step]
    split
    · rename_i s found
      have small : ∀ now, event = .failed now → takesMessage s = true →
          service.failures + 1 < 2 ^ 31 := by
        rintro now rfl takes
        exact sound s found takes
      refine ⟨kept.untouched, fun s' found' => ?_, fun none => (by cases none),
        counted_small kept.small event small⟩
      cases found'
      refine (kept.counts s found).step event ?_ small
      rintro i rfl ready
      exact sound s found ready
    · exact kept

theorem Kept.fails (kept : Kept service) (call : Call) (unsound : ¬ Sound service call) :
    ¬ LocksOut hasElapsed (step hasElapsed service call) := by
  intro locks
  apply unsound
  cases call with
  | createSession =>
    intro closed
    have created : service.createSession =
        { service with mSession := some (Session.new service.mLockoutTracker) } := by
      rcases createSession_eq service with same | ⟨_, created⟩
      · cases found : service.mSession with
        | none => rw [Service.createSession, found]
        | some s => rw [Service.createSession, found]; exact if_pos (closed s found)
      · exact created
    rw [step, created] at locks
    have count := (locks _ rfl).1
    change service.mLockoutTracker.mFailedCount = ((service.failures : Nat) : Int) at count
    rw [kept.untouched] at count
    omega
  | inSession event =>
    cases event with
    | failed now =>
      intro s found takes
      have idle : (s.mClosed || s.checks) = false := by
        rw [takesMessage] at takes
        exact Bool.not_eq_true' _ ▸ takes
      rw [step, found] at locks
      have count := (locks _ rfl).1
      simp only [counted, takes, Session.step, idle, if_true, Bool.false_eq_true, if_false] at count
      have added : (s.mLockoutTracker.addFailedAttempt now).mFailedCount =
          (s.mLockoutTracker.mFailedCount + 1).bmod (2 ^ 32) := by
        unfold Tracker.addFailedAttempt
        dsimp only
        split
        · rfl
        · split <;> rfl
      rw [added, (kept.counts s found).count] at count
      have below := @Int.bmod_lt ((service.failures : Int) + 1) (2 ^ 32) (by decide)
      omega
    | timerClears i =>
      intro s found ready
      by_contra many
      rw [step, found] at locks
      have permanent := (locks _ rfl).2 (by change 20 ≤ service.failures; omega)
      rw [getMode_permanent] at permanent
      rw [Session.step, if_pos ready] at permanent
      cases permanent
    | _ => trivial

end

/-- In every run the counter equals the failed attempts since the last success or reset, and 20 of
    them lock out for good, exactly when all its calls are sound. -/
theorem lockout_counts_all_sessions (hasElapsed : Int → Int → Int → Bool) (lockoutTimedStart : Int)
    (mode : LockoutMode) (calls : List Call) :
    Visits (step hasElapsed) (LocksOut hasElapsed) (started lockoutTimedStart mode) calls ↔
      Meets (step hasElapsed) Sound (started lockoutTimedStart mode) calls :=
  visits_iff_meets (fun _ kept => kept.locksOut) (fun _ call kept sound => kept.keep call sound)
    (fun _ call kept unsound => kept.fails call unsound) calls _ (Kept.started _ _)

def elapsed (start duration now : Int) : Bool := decide (start + duration * 1000000 ≤ now)

def failures (n : Nat) : List Call :=
  (List.replicate n [.inSession (.failed 0), .inSession (.checks 0)]).flatten

/-- Both ways out of a permanent lockout: the next session knows nothing of the 20 failed attempts,
    and a timer that has seen its flag before the 20th clears the lockout after it. -/
def reopened : List Call :=
  .createSession :: failures 20 ++ [.inSession .close, .createSession]

def expired : List Call :=
  .createSession :: failures 19 ++ [.inSession (.timerReads 0), .inSession (.failed 0),
    .inSession (.checks 0), .inSession (.timerClears 0)]

def modeAfter (calls : List Call) : Option LockoutMode :=
  (calls.foldl (step elapsed) (started 0 .none)).mSession.map fun s =>
    s.mLockoutTracker.getMode elapsed 0

def failuresAfter (calls : List Call) : Nat :=
  (calls.foldl (step elapsed) (started 0 .none)).failures

theorem lockout_escaped :
    failuresAfter reopened = 20 ∧ modeAfter reopened = some .none ∧
      failuresAfter expired = 20 ∧ modeAfter expired = some .none := by
  decide +kernel

end LockoutCount
