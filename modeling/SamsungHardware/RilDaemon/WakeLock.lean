import SamsungHardware.Library.StepRuns

/- The wake lock of ril.cpp, callbacks of version 13 and up. A step is one access of the event loop
   thread, or a part of what a thread does with `s_wakeLockCountMutex` held: the event loop thread
   reads and clears `s_last_wake_timeout_info` and reads `userParam` without the mutex, so a grab or
   a release is parted at its own accesses to them. A timer is known by the number of the grab that
   it was made for. -/
namespace WakeLock
open StepRuns Nat
open Function (update update_of_ne update_self)

inductive Firing where
  | none
  | called (timer : Nat) (param : Bool)
  | returned (timer : Nat)
  | isLast (timer : Nat)
  deriving DecidableEq, Repr

/-- What the holder of the mutex does next: the test of `s_last_wake_timeout_info`, the write through
    it, the store of the timer of a grab. A release has no timer. -/
inductive Mutex where
  | free
  | testing (timer : Option Nat)
  | cancelling (timer : Option Nat)
  | storing (timer : Nat)
  deriving DecidableEq, Repr

/-- `holds` are the grabs that the count stands for, the newest in front: a release gives up the
    oldest. Where NULL is written through, `crashed` is set. -/
structure Ril where
  wakelockCount : Nat
  held : Bool
  lastWakeTimeoutInfo : Option Nat
  (userParam pending : Nat → Bool)
  firing : Firing
  grabs : Nat
  holds : List Nat
  mutex : Mutex
  crashed : Bool

def start : Ril :=
  ⟨0, false, none, fun _ => false, fun _ => false, .none, 0, [], .free, false⟩

/-- Without memory for the timer the lock is released by its name. -/
def Ril.grabPartialWakeLock (ril : Ril) (calloc : Bool) : Ril :=
  let ril := { ril with held := true }
  if calloc then
    { ril with
      wakelockCount := ril.wakelockCount + 1
      grabs := ril.grabs + 1
      holds := ril.grabs :: ril.holds
      userParam := update ril.userParam ril.grabs false
      pending := update ril.pending ril.grabs true
      mutex := .testing (some ril.grabs) }
  else { ril with held := false }

def Ril.releaseWakeLock (ril : Ril) : Ril :=
  if ril.wakelockCount > 1 then
    { ril with wakelockCount := ril.wakelockCount - 1, holds := ril.holds.dropLast }
  else { ril with wakelockCount := 0, held := false, holds := [], mutex := .testing none }

/-- Behind the cancellation a grab goes on to its store, a release gives the mutex back. -/
def Mutex.behind : Option Nat → Mutex
  | some timer => .storing timer
  | none => .free

def Ril.timeOut (ril : Ril) : Ril := { ril with wakelockCount := 0, held := false, holds := [] }

/-- `test`, `cancel` and `store` belong to the holder of the mutex. The last three are what
    `userTimerCallback` does behind the call that read the parameter. -/
inductive Event where
  | grab (calloc : Bool)
  | release
  | test
  | cancel
  | store
  | fire (timer : Nat)
  | timeOut
  | compare
  | clear
  deriving DecidableEq, Repr

/-- What cannot happen now changes nothing. -/
def step (ril : Ril) : Event → Ril
  | .grab calloc => if ril.mutex = .free then ril.grabPartialWakeLock calloc else ril
  | .release => if ril.mutex = .free then ril.releaseWakeLock else ril
  | .test =>
    match ril.mutex with
    | .testing timer => { ril with
        mutex := if ril.lastWakeTimeoutInfo.isSome then .cancelling timer else .behind timer }
    | _ => ril
  | .cancel =>
    match ril.mutex, ril.lastWakeTimeoutInfo with
    | .cancelling timer, some last =>
      { ril with userParam := update ril.userParam last true, mutex := .behind timer }
    | .cancelling _, none => { ril with crashed := true }
    | _, _ => ril
  | .store =>
    match ril.mutex with
    | .storing timer => { ril with lastWakeTimeoutInfo := some timer, mutex := .free }
    | _ => ril
  | .fire timer =>
    if ril.firing = .none ∧ ril.pending timer = true then
      { ril with
        firing := .called timer (ril.userParam timer)
        pending := update ril.pending timer false }
    else ril
  | .timeOut =>
    match ril.firing with
    | .called timer false =>
      if ril.mutex = .free then { ril.timeOut with firing := .returned timer } else ril
    | .called timer true => { ril with firing := .returned timer }
    | _ => ril
  | .compare =>
    match ril.firing with
    | .returned timer =>
      { ril with firing := if ril.lastWakeTimeoutInfo = some timer then .isLast timer else .none }
    | _ => ril
  | .clear =>
    match ril.firing with
    | .isLast _ => { ril with lastWakeTimeoutInfo := none, firing := .none }
    | _ => ril

def Firing.uncancelled? : Firing → Option Nat
  | .called timer false => some timer
  | _ => Option.none

def Firing.last? : Firing → Option Nat
  | .isLast timer => some timer
  | _ => Option.none

/-- Whenever the mutex is free the lock is held exactly if something is counted. -/
def Accounted (ril : Ril) : Prop :=
  ril.crashed = false ∧ (ril.mutex = .free → (ril.held = true ↔ ril.wakelockCount > 0))

/-- Holds are given up by a release, or by a timer that was not cancelled and belongs to none but
    the newest of them or to a later grab. -/
def GivenUp (ril : Ril) : Event → Prop
  | .grab false => ril.mutex = .free → ril.holds = []
  | .timeOut => ril.mutex = .free → ∀ timer ∈ ril.firing.uncancelled?,
      ∀ grab ∈ ril.holds, grab ≤ timer ∧ ril.userParam timer = false
  | _ => True

/-- Memory for the timer is missing only while nothing is held, the event loop thread makes its
    accesses only while the mutex is free, and no grab begins between two of them that belong
    together. -/
def Undisturbed (ril : Ril) : Event → Prop
  | .grab false => ril.mutex = .free → ril.wakelockCount = 0
  | .grab true => ril.firing.uncancelled? = none ∧ ril.firing.last? = none
  | .fire _ | .compare | .clear => ril.mutex = .free
  | _ => True

instance (ril : Ril) : ∀ event, Decidable (Undisturbed ril event)
  | .grab false => inferInstanceAs (Decidable (_ → _))
  | .grab true => inferInstanceAs (Decidable (_ ∧ _))
  | .fire _ | .compare | .clear => inferInstanceAs (Decidable (_ = _))
  | .release | .test | .cancel | .store | .timeOut => isTrue trivial

/-- What the holder of the mutex leaves, when nobody gets in between. -/
def Ril.finish (ril : Ril) : Ril :=
  match ril.mutex with
  | .free => ril
  | .testing timer | .cancelling timer => { ril with
      userParam := fun other => ril.userParam other || ril.lastWakeTimeoutInfo == some other
      lastWakeTimeoutInfo := timer.or ril.lastWakeTimeoutInfo
      mutex := .free }
  | .storing timer => { ril with lastWakeTimeoutInfo := some timer, mutex := .free }

section

def Firing.timer? : Firing → Option Nat
  | .none => Option.none
  | .called timer _ | .returned timer | .isLast timer => some timer

structure Kept (ril : Ril) : Prop where
  held : ril.held = true ↔ ril.wakelockCount > 0
  count : ril.holds.length = ril.wakelockCount
  grabbed : ∀ grab ∈ ril.holds, grab < ril.grabs
  last : ∀ timer, ril.lastWakeTimeoutInfo = some timer → timer + 1 = ril.grabs
  known : ∀ timer, ril.pending timer = true → timer < ril.grabs
  live : ∀ timer, ril.pending timer = true → ril.userParam timer = false →
    ril.lastWakeTimeoutInfo = some timer
  called : ∀ timer, ril.firing.uncancelled? = some timer → ril.holds ≠ [] →
    ril.userParam timer = false ∧ ril.lastWakeTimeoutInfo = some timer
  fired : ∀ timer, ril.firing.timer? = some timer → ril.pending timer = false ∧ timer < ril.grabs
  isLast : ∀ timer, ril.firing.last? = some timer → ril.lastWakeTimeoutInfo = some timer

/-- The state is as it should be as soon as the mutex is given back. -/
structure Guarded (ril : Ril) : Prop where
  kept : Kept ril.finish
  pointer : ∀ timer, ril.mutex = .cancelling timer → ril.lastWakeTimeoutInfo.isSome = true
  alive : ril.crashed = false

theorem guarded_start : Guarded start := by
  refine ⟨?_, nofun, rfl⟩
  constructor <;> simp [Ril.finish, start, Firing.timer?, Firing.uncancelled?, Firing.last?]

variable {ril : Ril} {timer : Nat} (kept : Kept ril)
include kept

theorem Kept.grab (alone : ril.firing.uncancelled? = none ∧ ril.firing.last? = none) :
    Kept (ril.grabPartialWakeLock true).finish := by
  constructor
  · exact ⟨fun _ => succ_pos _, fun _ => rfl⟩
  · exact congrArg (· + 1) kept.count
  · intro grab member
    rcases List.mem_cons.mp member with rfl | older
    · exact lt_succ_self _
    · exact lt_succ_of_lt (kept.grabbed grab older)
  · intro timer same
    cases same
    rfl
  · intro timer pending
    by_cases new : timer = ril.grabs
    · exact new ▸ lt_succ_self _
    · exact lt_succ_of_lt (kept.known timer ((update_of_ne new _ _).symm.trans pending))
  · intro timer pending uncancelled
    by_cases new : timer = ril.grabs
    · rw [new]
      rfl
    · -- an older timer would have been the last one, and is cancelled now
      obtain ⟨off, other⟩ := Bool.or_eq_false_iff.mp uncancelled
      have last := kept.live timer ((update_of_ne new _ _).symm.trans pending)
        ((update_of_ne new _ _).symm.trans off)
      exact absurd last (beq_eq_false_iff_ne.mp other)
  · intro timer called
    cases alone.1.symm.trans called
  · intro timer fires
    have known := kept.fired timer fires
    have old : timer ≠ ril.grabs := Nat.ne_of_lt known.2
    exact ⟨(update_of_ne old _ _).trans known.1, lt_succ_of_lt known.2⟩
  · intro timer isLast
    cases alone.2.symm.trans isLast

theorem Kept.grab_fails (free : ril.wakelockCount = 0) : Kept (ril.grabPartialWakeLock false) := by
  refine { kept with held := ?_ }
  refine ⟨fun on => (by cases on), fun positive => ?_⟩
  have none : 0 < ril.wakelockCount := positive
  omega

theorem Kept.release (free : ril.mutex = .free) : Kept ril.releaseWakeLock.finish := by
  unfold Ril.releaseWakeLock
  split
  · rename_i several
    have some' : ril.holds ≠ [] := by
      intro none
      have length := kept.count
      rw [none, List.length_nil] at length
      omega
    rw [Ril.finish, free]
    refine { kept with held := ?_, count := ?_, grabbed := ?_, called := ?_ }
    · have on := kept.held.mpr (by omega)
      refine ⟨fun _ => ?_, fun _ => on⟩
      change ril.wakelockCount - 1 > 0
      omega
    · change ril.holds.dropLast.length = _
      rw [List.length_dropLast, kept.count]
    · intro grab member
      exact kept.grabbed grab ((List.dropLast_sublist _).subset member)
    · intro timer called _
      exact kept.called timer called some'
  · constructor
    · exact ⟨fun on => (by cases on), fun positive => absurd positive (Nat.lt_irrefl 0)⟩
    · rfl
    · intro grab member
      cases member
    · exact kept.last
    · exact kept.known
    · intro timer pending uncancelled
      obtain ⟨off, other⟩ := Bool.or_eq_false_iff.mp uncancelled
      exact absurd (kept.live timer pending off) (beq_eq_false_iff_ne.mp other)
    · intro timer _ some'
      exact absurd rfl some'
    · exact kept.fired
    · exact kept.isLast

theorem Kept.timeOut : Kept ril.timeOut := by
  refine { kept with held := ?_, count := rfl, grabbed := ?_, called := ?_ }
  · exact ⟨fun on => (by cases on), fun positive => absurd positive (Nat.lt_irrefl 0)⟩
  · intro grab member
    cases member
  · intro timer _ some'
    exact absurd rfl some'

theorem Kept.goOn {firing : Firing}
    (same : ∀ timer, firing.timer? = some timer → ril.firing.timer? = some timer)
    (called : firing.uncancelled? = none)
    (isLast : ∀ timer, firing.last? = some timer → ril.lastWakeTimeoutInfo = some timer) :
    Kept { ril with firing } := by
  refine { kept with called := ?_, fired := ?_, isLast := isLast }
  · intro timer wrong
    cases called.symm.trans wrong
  · intro timer fires
    exact kept.fired timer (same timer fires)

theorem Kept.fire (pending : ril.pending timer = true) :
    Kept { ril with
      firing := .called timer (ril.userParam timer)
      pending := update ril.pending timer false } := by
  have others : ∀ other, update ril.pending timer false other = true →
      ril.pending other = true := by
    intro other on
    by_cases same : other = timer
    · rw [same, update_self] at on
      cases on
    · rw [update_of_ne same] at on
      exact on
  refine { kept with known := ?_, live := ?_, called := ?_, fired := ?_, isLast := ?_ }
  · exact fun other on => kept.known other (others other on)
  · exact fun other on uncancelled => kept.live other (others other on) uncancelled
  · intro other called _
    cases param : ril.userParam timer with
    | true =>
      rw [param] at called
      cases called
    | false =>
      rw [param] at called
      cases called
      exact ⟨param, kept.live timer pending param⟩
  · intro other fires
    cases fires
    exact ⟨update_self _ _ _, kept.known timer pending⟩
  · intro other wrong
    cases wrong

theorem Kept.clear (firing : ril.firing = .isLast timer) :
    Kept { ril with lastWakeTimeoutInfo := none, firing := .none } := by
  have fired := kept.fired timer (by rw [firing]; rfl)
  refine { kept with last := ?_, live := ?_, called := ?_, fired := ?_, isLast := ?_ }
  · intro other wrong
    cases wrong
  · intro other pending uncancelled
    have last := kept.live other pending uncancelled
    rw [kept.isLast timer (by rw [firing]; rfl)] at last
    cases last
    rw [fired.1] at pending
    cases pending
  · intro other wrong
    cases wrong
  · intro other wrong
    cases wrong
  · intro other wrong
    cases wrong

end

section

variable {ril : Ril}

theorem finish_free (free : ril.mutex = .free) : ril.finish = ril := by rw [Ril.finish, free]

theorem finish_firing (ril : Ril) (firing : Firing) :
    Ril.finish { ril with firing } = { ril.finish with firing } := by
  obtain ⟨_, _, _, _, _, _, _, _, mutex, _⟩ := ril
  cases mutex <;> rfl

theorem Guarded.free (guarded : Guarded ril) (free : ril.mutex = .free) : Kept ril :=
  finish_free free ▸ guarded.kept

theorem Kept.guarded (kept : Kept ril) (free : ril.mutex = .free) (alive : ril.crashed = false) :
    Guarded ril := by
  refine ⟨by rwa [finish_free free], fun timer cancelling => ?_, alive⟩
  rw [free] at cancelling
  cases cancelling

variable (guarded : Guarded ril)
include guarded

theorem Guarded.test : Guarded (step ril .test) := by
  rw [step]
  split
  case h_2 => exact guarded
  case h_1 timer testing =>
    have kept := guarded.kept
    rw [Ril.finish, testing] at kept
    dsimp only at kept
    cases last : ril.lastWakeTimeoutInfo with
    | some pointer =>
      rw [last] at kept
      exact ⟨kept, fun _ _ => rfl, guarded.alive⟩
    | none =>
      refine ⟨?_, by cases timer <;> exact nofun, guarded.alive⟩
      cases timer <;> simpa [Ril.finish, Mutex.behind, last] using kept

theorem Guarded.cancel : Guarded (step ril .cancel) := by
  rw [step]
  split
  case h_3 => exact guarded
  case h_2 timer cancelling last =>
    have pointer := guarded.pointer timer cancelling
    rw [last] at pointer
    cases pointer
  case h_1 timer pointer cancelling last =>
    have kept := guarded.kept
    rw [Ril.finish, cancelling] at kept
    dsimp only at kept
    have written : (fun other => ril.userParam other || ril.lastWakeTimeoutInfo == some other) =
        update ril.userParam pointer true := by
      funext other
      by_cases same : other = pointer
      · simp [same, last]
      · simp [update_of_ne same, last, Ne.symm same]
    rw [written] at kept
    refine ⟨?_, by cases timer <;> exact nofun, guarded.alive⟩
    cases timer <;> simpa [Ril.finish, Mutex.behind] using kept

theorem Guarded.store : Guarded (step ril .store) := by
  rw [step]
  split
  case h_2 => exact guarded
  case h_1 timer storing =>
    have kept := guarded.kept
    rw [Ril.finish, storing] at kept
    exact kept.guarded rfl guarded.alive

end

theorem Guarded.keep (ril : Ril) (event : Event) (guarded : Guarded ril)
    (alone : Undisturbed ril event) : Guarded (step ril event) := by
  have alive := guarded.alive
  cases event with
  | test => exact guarded.test
  | cancel => exact guarded.cancel
  | store => exact guarded.store
  | grab calloc =>
    rw [step]
    split
    case isFalse => exact guarded
    case isTrue free =>
      have kept := guarded.free free
      cases calloc with
      | false => exact (kept.grab_fails (alone free)).guarded free alive
      | true => exact ⟨kept.grab alone, nofun, alive⟩
  | release =>
    rw [step]
    split
    case isFalse => exact guarded
    case isTrue free =>
      refine ⟨(guarded.free free).release free, ?_, ?_⟩
      all_goals
        unfold Ril.releaseWakeLock
        split
      · exact fun timer cancelling => nomatch free.symm.trans cancelling
      · exact nofun
      · exact alive
      · exact alive
  | fire timer =>
    rw [step]
    split
    case isTrue ready => exact ((guarded.free alone).fire ready.2).guarded alone alive
    case isFalse => exact guarded
  | timeOut =>
    rw [step]
    split
    case h_1 timer firing =>
      split
      case isFalse => exact guarded
      case isTrue free =>
        refine Kept.guarded ((guarded.free free).timeOut.goOn ?_ rfl nofun) free alive
        intro other same
        rw [Ril.timeOut, firing]
        exact same
    case h_2 timer firing =>
      -- a cancelled timer does not wait for the mutex
      have kept : Kept { ril.finish with firing := .returned timer } := by
        refine guarded.kept.goOn ?_ rfl nofun
        intro other same
        have fires : ril.finish.firing = ril.firing := by
          unfold Ril.finish
          split <;> rfl
        rw [fires, firing]
        exact same
      exact ⟨by rwa [finish_firing], guarded.pointer, alive⟩
    case h_3 => exact guarded
  | compare =>
    rw [step]
    split
    case h_2 => exact guarded
    case h_1 timer firing =>
      refine Kept.guarded ?_ alone alive
      split
      case isTrue last =>
        refine (guarded.free alone).goOn ?_ rfl ?_
        · intro other same
          rw [firing]
          exact same
        · intro other same
          cases same
          exact last
      case isFalse => exact (guarded.free alone).goOn nofun rfl nofun
  | clear =>
    rw [step]
    split
    case h_1 timer firing => exact ((guarded.free alone).clear firing).guarded alone alive
    case h_2 => exact guarded

theorem Guarded.accounted {ril : Ril} (guarded : Guarded ril) : Accounted ril :=
  ⟨guarded.alive, fun free => (guarded.free free).held⟩

theorem Guarded.givenUp (ril : Ril) (event : Event) (guarded : Guarded ril)
    (alone : Undisturbed ril event) : GivenUp ril event := by
  cases event with
  | grab calloc =>
    cases calloc with
    | false =>
      intro free
      exact List.eq_nil_of_length_eq_zero ((guarded.free free).count.trans (alone free))
    | true => trivial
  | timeOut =>
    intro free timer called grab member
    have kept := guarded.free free
    obtain ⟨uncancelled, last⟩ := kept.called timer called (List.ne_nil_of_mem member)
    have newest := kept.last timer last
    have older := kept.grabbed grab member
    exact ⟨by omega, uncancelled⟩
  | _ => trivial

/-- Over every interleaving whose steps are undisturbed, the kernel lock and the count agree, and
    no hold is lost to a timer that was cancelled or is older. -/
theorem wake_lock_accounted (events : List Event)
    (undisturbed : Meets step Undisturbed start events) :
    Visits step Accounted start events ∧ Meets step GivenUp start events :=
  ⟨visits_of_meets (fun _ guarded => guarded.accounted) Guarded.keep events start guarded_start
      undisturbed,
    meets_of_meets Guarded.keep Guarded.givenUp events start guarded_start undisturbed⟩

/-- The steps of a grab while there is no last timer, or while there is one. -/
def grabFirst : List Event := [.grab true, .test, .store]
def grabNext : List Event := [.grab true, .test, .cancel, .store]

/-- Two grabs, the timer of the second one, a grab and a release. -/
def overTimers : List Event :=
  grabFirst ++ grabNext ++ [.fire 0, .timeOut, .compare, .fire 1, .timeOut, .compare, .clear] ++
    grabFirst ++ [.release, .test, .cancel]

theorem accounted_over_timers : Visits step Accounted start overTimers :=
  (wake_lock_accounted overTimers (by decide)).1

/-- A timer is found to be the last one while a grab stores another, which is then forgotten. -/
def forgotten : List Event :=
  grabFirst ++ [.release, .test, .cancel, .fire 0, .timeOut, .grab true, .test, .cancel, .compare,
    .store, .clear] ++ grabFirst ++ [.fire 1]

/-- No memory for the timer of a second grab: the first one loses the lock. A timer that read its
    parameter before a grab cancelled it takes the hold of that grab; so does one that is
    forgotten. -/
theorem wake_lock_lost :
    ¬ Accounted ((grabFirst ++ [Event.grab false]).foldl step start) ∧
    ¬ GivenUp ((grabFirst ++ [Event.fire 0] ++ grabNext).foldl step start) .timeOut ∧
    ¬ GivenUp (forgotten.foldl step start) .timeOut := by
  refine ⟨fun accounted => ?_, fun givenUp => ?_, fun givenUp => ?_⟩
  · cases (accounted.2 rfl).mpr (by decide)
  · exact absurd (givenUp rfl 0 rfl 1 (by decide)).1 (by decide)
  · exact absurd (givenUp rfl 1 rfl 2 (by decide)).1 (by decide)

end WakeLock
