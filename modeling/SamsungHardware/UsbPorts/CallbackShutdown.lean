import SamsungHardware.Library.StepRuns

/- The callback of Usb.cpp: `setCallback` and `queryPortStatus`, which any binder thread may call, and
   the worker thread that `setCallback` starts and ends. Both take `mLock`. A step is what one thread
   does between two accesses to the lock, the flag `destroyThread` or the other thread. The role
   switch behind a query and the notice of a partner do not touch them and are left out. -/
namespace CallbackShutdown
open StepRuns Function

def ueventMsgLen : Int := 2048

structure Uevent where
  n : Int
  strings : List (List Char)

def partnerAdded (cp : List Char) : Bool :=
  ['a', 'd', 'd'].isPrefixOf cp && ['-', 'p', 'a', 'r', 't', 'n', 'e', 'r'].isSuffixOf (cp.drop 3)

def portChanged (cp : List Char) : Bool :=
  ['D', 'E', 'V', 'T', 'Y', 'P', 'E', '=', 't', 'y', 'p', 'e', 'c', '_'].isPrefixOf cp ||
    ['C', 'C', 'I', 'C', '=', 'W', 'A', 'T', 'E', 'R'].isPrefixOf cp ||
    ['C', 'C', 'I', 'C', '=', 'D', 'R', 'Y'].isPrefixOf cp

/-- The loop of `uevent_event` comes to a call of `queryVersionHelper`. -/
def scan : List (List Char) → Bool
  | [] => false
  | cp :: rest =>
    if cp.isEmpty then false
    else if partnerAdded cp then scan rest
    else if portChanged cp then true
    else scan rest

def Uevent.queries (uevent : Uevent) : Bool :=
  if uevent.n ≤ 0 then false
  else if uevent.n ≥ ueventMsgLen then false
  else scan uevent.strings

/-- A call of a binder thread; `queryPortStatus` takes the lock twice. -/
inductive Call where
  | setCallback (callback : Bool)
  | queryPortStatus
  | notifyQueryPortStatus
  deriving DecidableEq, Repr

/-- Where a binder thread is. It holds `mLock` from `inside` on. -/
inductive Caller where
  | idle
  | locking (call : Call)
  | inside (call : Call)
  | killing
  | joining
  | creating
  deriving DecidableEq, Repr

inductive Worker where
  | none | starting | testing | polling | receiving | locking | inside | exited
  deriving DecidableEq, Repr

inductive Holder where
  | caller (thread : Nat)
  | worker
  deriving DecidableEq, Repr

structure Usb where
  mLock : Option Holder
  (mCallback destroyThread : Bool)
  callers : Nat → Caller
  worker : Worker
  signalled : Bool

def Usb.start : Usb := ⟨none, false, false, fun _ => .idle, .none, false⟩

def Usb.move (usb : Usb) (thread : Nat) (caller : Caller) : Usb :=
  { usb with callers := update usb.callers thread caller }

def Usb.leave (usb : Usb) (thread : Nat) : Usb := { usb.move thread .idle with mLock := none }

def Worker.alive : Worker → Bool
  | .none | .exited => false
  | _ => true

/-- `setCallback` with the lock, up to the call that ends or starts the worker. -/
def Usb.setCallback (usb : Usb) (thread : Nat) (callback : Bool) : Usb :=
  if usb.mCallback = callback then { usb with mCallback := callback }.leave thread
  else if callback then
    { usb with mCallback := callback, destroyThread := false }.move thread .creating
  else { usb with mCallback := callback }.move thread .killing

section

inductive Event where
  | call (thread : Nat) (call : Call)
  | lock (thread : Nat)
  | body (thread : Nat)
  | kill (thread : Nat) (sent : Bool)
  | join (thread : Nat)
  | create (thread : Nat) (created : Bool)
  | opened (success : Bool)
  | test
  | ready
  | epollFailed
  | receive (uevent : Uevent)
  | workerLock
  | workerUnlock
  | deliver (interrupts : Bool)

variable (usb : Usb)

def Usb.body (thread : Nat) : Usb :=
  match usb.callers thread with
  | .inside (.setCallback callback) => usb.setCallback thread callback
  | .inside .queryPortStatus => { usb.move thread (.locking .notifyQueryPortStatus) with mLock := none }
  | .inside .notifyQueryPortStatus => usb.leave thread
  | _ => usb

/-- `pthread_kill` finds every thread that has not exited. -/
def Usb.kill (thread : Nat) (sent : Bool) : Usb :=
  if usb.callers thread = .killing then
    if usb.worker.alive then { usb.move thread .joining with signalled := true }
    else if sent then usb.move thread .joining
    else usb.leave thread
  else usb

/-- SIGUSR1 ends a wait in `epoll_wait`, unless it comes before the wait. -/
def Usb.deliver (interrupts : Bool) : Usb :=
  if usb.signalled ∧ usb.worker.alive then
    { usb with
      signalled := false
      destroyThread := true
      worker := if usb.worker = .polling ∧ interrupts then .testing else usb.worker }
  else usb

/-- What cannot happen now changes nothing. -/
def step : Event → Usb
  | .call thread call =>
    if usb.callers thread = .idle then usb.move thread (.locking call) else usb
  | .lock thread =>
    match usb.callers thread with
    | .locking call =>
      if usb.mLock = none then
        { usb.move thread (.inside call) with mLock := some (.caller thread) }
      else usb
    | _ => usb
  | .body thread => usb.body thread
  | .kill thread sent => usb.kill thread sent
  | .join thread =>
    if usb.callers thread = .joining ∧ usb.worker = .exited then
      { usb.leave thread with worker := .none }
    else usb
  | .create thread created =>
    if usb.callers thread = .creating then
      if created then { usb.leave thread with worker := .starting, signalled := false }
      else { usb.leave thread with mCallback := false }
    else usb
  | .opened success =>
    if usb.worker = .starting then
      { usb with worker := if success then .testing else .exited }
    else usb
  | .test =>
    if usb.worker = .testing then
      { usb with worker := if usb.destroyThread then .exited else .polling }
    else usb
  | .ready => if usb.worker = .polling then { usb with worker := .receiving } else usb
  | .epollFailed => if usb.worker = .polling then { usb with worker := .exited } else usb
  | .receive uevent =>
    if usb.worker = .receiving then
      { usb with worker := if uevent.queries then .locking else .testing }
    else usb
  | .workerLock =>
    if usb.worker = .locking ∧ usb.mLock = none then
      { usb with worker := .inside, mLock := some .worker }
    else usb
  | .workerUnlock =>
    if usb.worker = .inside then { usb with worker := .testing, mLock := none } else usb
  | .deliver interrupts => usb.deliver interrupts

/-- `setCallback` waits for the worker with the lock that the worker waits for. -/
def Deadlocked : Prop :=
  ∃ thread, usb.callers thread = .joining ∧ usb.mLock = some (.caller thread) ∧
    usb.worker = .locking

/-- No message about a port is received while a thread waits for the worker to end, and none is being
    handled when a thread begins to wait. -/
def Apart : Event → Prop
  | .receive uevent => usb.worker = .receiving → uevent.queries = true →
    ∀ thread, usb.callers thread ≠ .joining
  | .kill thread _ => usb.callers thread = .killing → usb.worker ≠ .locking
  | _ => True

end

section

def Caller.holds : Caller → Bool
  | .idle | .locking _ => false
  | _ => true

def Caller.ends : Caller → Bool
  | .killing | .joining => true
  | _ => false

/-- The lock has one holder, and a new worker is created only when the old one has ended. -/
structure Kept (usb : Usb) : Prop where
  lock : ∀ thread, (usb.callers thread).holds = true → usb.mLock = some (.caller thread)
  workerLock : usb.worker = .inside → usb.mLock = some .worker
  ended : usb.worker.alive = true → usb.mCallback = true ∨ ∃ thread, (usb.callers thread).ends = true
  creating : ∀ thread, usb.callers thread = .creating →
    usb.worker.alive = false ∧ usb.mCallback = true

variable {usb : Usb} {thread other : Nat}
  {caller : Caller} {mCallback destroyThread signalled : Bool} {worker : Worker}

theorem Caller.holds_of_ends (ends : caller.ends = true) : caller.holds = true := by
  cases caller <;> first | rfl | cases ends

variable (kept : Kept usb)
include kept

theorem Kept.same_thread (first : (usb.callers thread).holds = true)
    (second : (usb.callers other).holds = true) : other = thread := by
  have same := (kept.lock thread first).symm.trans (kept.lock other second)
  cases same
  rfl

section
variable (holds : (usb.callers thread).holds = true)
include holds

theorem Kept.set_of_alive (stays : (usb.callers thread).ends = false)
    (alive : usb.worker.alive = true) : usb.mCallback = true := by
  rcases kept.ended alive with set | ⟨other, ends⟩
  · exact set
  · rw [kept.same_thread holds (Caller.holds_of_ends ends), stays] at ends
    cases ends

theorem Kept.not_inside : usb.worker ≠ .inside := by
  intro inside
  have same := (kept.lock thread holds).symm.trans (kept.workerLock inside)
  cases same

theorem Kept.release (out : caller.holds = false) (outside : worker ≠ .inside)
    (ended : worker.alive = true → mCallback = true) :
    Kept ⟨none, mCallback, destroyThread, update usb.callers thread caller, worker,
      signalled⟩ := by
  have none_holds : ∀ other,
      (update usb.callers thread caller other).holds = false := by
    intro other
    by_cases same : other = thread
    · rw [same, update_self, out]
    · rw [update_of_ne same, Bool.eq_false_iff]
      intro others
      exact same (kept.same_thread holds others)
  constructor
  · intro other others
    rw [none_holds other] at others
    cases others
  · intro inside
    exact absurd inside outside
  · intro alive
    exact Or.inl (ended alive)
  · intro other creating
    have others := none_holds other
    dsimp only at creating
    rw [creating] at others
    cases others

theorem Kept.proceed (caller : Caller)
    (ended : usb.worker.alive = true → mCallback = true ∨ caller.ends = true)
    (creating : caller = .creating → usb.worker.alive = false ∧ mCallback = true) :
    Kept ⟨usb.mLock, mCallback, destroyThread, update usb.callers thread caller, usb.worker,
      signalled⟩ := by
  have here : update usb.callers thread caller thread = caller := update_self _ _ _
  constructor
  · intro other others
    by_cases same : other = thread
    · rw [same]
      exact kept.lock thread holds
    · dsimp only at others
      rw [update_of_ne same] at others
      exact kept.lock other others
  · exact kept.workerLock
  · intro alive
    rcases ended alive with set | ends
    · exact Or.inl set
    · refine Or.inr ⟨thread, ?_⟩
      dsimp only
      rw [here]
      exact ends
  · intro other found
    by_cases same : other = thread
    · dsimp only at found
      rw [same, here] at found
      exact creating found
    · dsimp only at found
      rw [update_of_ne same] at found
      have others : (usb.callers other).holds = true := by rw [found]; rfl
      exact absurd (kept.same_thread holds others) same

end

theorem Kept.nobody (free : usb.mLock = none) (other : Nat) :
    (usb.callers other).holds = false := by
  rw [Bool.eq_false_iff]
  intro holds
  rw [kept.lock other holds] at free
  cases free

theorem Kept.set_of_free (free : usb.mLock = none) (alive : usb.worker.alive = true) :
    usb.mCallback = true := by
  rcases kept.ended alive with set | ⟨other, ends⟩
  · exact set
  · have out := kept.nobody free other
    rw [Caller.holds_of_ends ends] at out
    cases out

theorem Kept.acquire (free : usb.mLock = none) (thread : Nat) (call : Call) :
    Kept { usb.move thread (.inside call) with mLock := some (.caller thread) } := by
  constructor
  · intro other holds
    by_cases same : other = thread
    · rw [same]
    · dsimp only [Usb.move] at holds
      rw [update_of_ne same, kept.nobody free other] at holds
      cases holds
  · intro inside
    have taken := kept.workerLock inside
    rw [free] at taken
    cases taken
  · intro alive
    exact Or.inl (kept.set_of_free free alive)
  · intro other creating
    dsimp only [Usb.move] at creating
    by_cases same : other = thread
    · rw [same, update_self] at creating
      cases creating
    · rw [update_of_ne same] at creating
      exact kept.creating other creating

theorem Kept.outside (out : (usb.callers thread).holds = false) (still : caller.holds = false) :
    Kept (usb.move thread caller) := by
  have others : ∀ other, (update usb.callers thread caller other).holds = true →
      update usb.callers thread caller other = usb.callers other := by
    intro other holds
    by_cases same : other = thread
    · rw [same, update_self, still] at holds
      cases holds
    · rw [update_of_ne same]
  constructor
  · intro other holds
    have same := others other holds
    apply kept.lock other
    rw [← same]
    exact holds
  · exact kept.workerLock
  · intro alive
    rcases kept.ended alive with set | ⟨other, ends⟩
    · exact Or.inl set
    · refine Or.inr ⟨other, ?_⟩
      have apart : other ≠ thread := by
        rintro rfl
        rw [Caller.holds_of_ends ends] at out
        cases out
      dsimp only [Usb.move]
      rw [update_of_ne apart]
      exact ends
  · intro other creating
    apply kept.creating other
    have holds : (update usb.callers thread caller other).holds = true := by
      dsimp only [Usb.move] at creating
      rw [creating]
      rfl
    rw [← others other holds]
    exact creating

theorem Kept.work (still : worker ≠ .inside) (alive : worker.alive = true → usb.worker.alive = true)
    {destroyThread signalled : Bool} :
    Kept { usb with worker := worker, destroyThread := destroyThread, signalled := signalled } := by
  constructor
  · exact kept.lock
  · intro inside
    exact absurd inside still
  · intro living
    exact kept.ended (alive living)
  · intro other creating
    obtain ⟨dead, set⟩ := kept.creating other creating
    refine ⟨?_, set⟩
    rw [Bool.eq_false_iff]
    intro living
    rw [alive living] at dead
    cases dead

theorem Kept.not_creating (alive : usb.worker.alive = true) : usb.callers thread ≠ .creating := by
  intro creating
  have dead := (kept.creating thread creating).1
  rw [alive] at dead
  cases dead

theorem Kept.workerLocks (waiting : usb.worker = .locking) (free : usb.mLock = none) :
    Kept { usb with worker := .inside, mLock := some .worker } := by
  have alive : usb.worker.alive = true := by rw [waiting]; rfl
  constructor
  · intro thread holds
    have out := kept.nobody free thread
    rw [holds] at out
    cases out
  · intro _
    rfl
  · intro _
    exact Or.inl (kept.set_of_free free alive)
  · intro thread creating
    exact absurd creating (kept.not_creating alive)

theorem Kept.workerUnlocks (inside : usb.worker = .inside) :
    Kept { usb with worker := .testing, mLock := none } := by
  have alive : usb.worker.alive = true := by rw [inside]; rfl
  constructor
  · intro thread holds
    exact absurd inside (kept.not_inside holds)
  · intro again
    cases again
  · intro _
    exact kept.ended alive
  · intro thread creating
    exact absurd creating (kept.not_creating alive)

end

variable {usb : Usb}

theorem kept_start : Kept Usb.start := by
  constructor
  · intro thread holds
    cases holds
  · intro inside
    cases inside
  · intro alive
    cases alive
  · intro thread creating
    cases creating

variable {thread : Nat} {event : Event}

theorem setCallback_kept {callback : Bool} (kept : Kept usb)
    (here : usb.callers thread = .inside (.setCallback callback)) :
    Kept (usb.setCallback thread callback) := by
  have holds : (usb.callers thread).holds = true := by rw [here]; rfl
  have ended := kept.set_of_alive holds (by rw [here]; rfl)
  unfold Usb.setCallback
  split_ifs with same set
  · refine kept.release holds rfl (kept.not_inside holds) ?_
    exact fun alive => same.symm.trans (ended alive)
  · refine kept.proceed holds .creating (fun _ => Or.inl set) ?_
    intro _
    refine ⟨?_, set⟩
    rw [Bool.eq_false_iff]
    exact fun alive => same ((ended alive).trans set.symm)
  · exact kept.proceed holds .killing (fun _ => Or.inr rfl) (fun other => by cases other)

theorem body_kept (kept : Kept usb) (thread : Nat) : Kept (usb.body thread) := by
  unfold Usb.body
  cases here : usb.callers thread with
  | inside call =>
    have holds : (usb.callers thread).holds = true := by rw [here]; rfl
    have ended := kept.set_of_alive holds (by rw [here]; rfl)
    cases call with
    | setCallback callback => exact setCallback_kept kept here
    | queryPortStatus => exact kept.release holds rfl (kept.not_inside holds) ended
    | notifyQueryPortStatus => exact kept.release holds rfl (kept.not_inside holds) ended
  | _ => exact kept

theorem kill_kept (kept : Kept usb) (thread : Nat) (sent : Bool) : Kept (usb.kill thread sent) := by
  unfold Usb.kill
  by_cases here : usb.callers thread = .killing
  · have holds : (usb.callers thread).holds = true := by rw [here]; rfl
    rw [if_pos here]
    split_ifs with alive
    · exact kept.proceed holds .joining (fun _ => Or.inr rfl) (fun other => by cases other)
    · exact kept.proceed holds .joining (fun _ => Or.inr rfl) (fun other => by cases other)
    · exact kept.release holds rfl (kept.not_inside holds) fun living => absurd living alive
  · rw [if_neg here]
    exact kept

theorem Kept.guarded {p : Prop} [Decidable p] {next : Usb} (kept : Kept usb)
    (taken : p → Kept next) : Kept (if p then next else usb) := by
  split_ifs with here
  · exact taken here
  · exact kept

theorem step_kept (kept : Kept usb) (event : Event) : Kept (step usb event) := by
  have works {worker next : Worker} (outside : next ≠ .inside) (alive : worker.alive = true) :
      Kept (if usb.worker = worker then { usb with worker := next } else usb) :=
    kept.guarded fun here => kept.work outside fun _ => here ▸ alive
  cases event with
  | call thread call =>
    refine kept.guarded fun idle => kept.outside ?_ rfl
    rw [idle]
    rfl
  | lock thread =>
    rw [step]
    split
    · rename_i call here
      exact kept.guarded fun free => kept.acquire free thread call
    · exact kept
  | body thread => exact body_kept kept thread
  | kill thread sent => exact kill_kept kept thread sent
  | join thread =>
    refine kept.guarded fun here => ?_
    have holds : (usb.callers thread).holds = true := by rw [here.1]; rfl
    exact kept.release holds rfl (by decide) (fun alive => by cases alive)
  | create thread created =>
    refine kept.guarded fun here => ?_
    have holds : (usb.callers thread).holds = true := by rw [here]; rfl
    split_ifs
    · exact kept.release holds rfl (by decide) fun _ => (kept.creating thread here).2
    · have dead := (kept.creating thread here).1
      refine kept.release holds rfl (kept.not_inside holds) ?_
      intro alive
      cases dead.symm.trans alive
  | opened success => exact works (by cases success <;> decide) rfl
  | test => exact works (by split_ifs <;> decide) rfl
  | ready => exact works (by decide) rfl
  | epollFailed => exact works (by decide) rfl
  | receive uevent => exact works (by split_ifs <;> decide) rfl
  | workerLock => exact kept.guarded fun here => kept.workerLocks here.1 here.2
  | workerUnlock => exact kept.guarded kept.workerUnlocks
  | deliver interrupts =>
    refine kept.guarded fun here => ?_
    split_ifs
    · exact kept.work (by decide) (fun _ => here.2)
    · exact { kept with }

theorem one_worker (events : List Event) :
    Visits step (fun usb => ∀ thread, usb.callers thread = .creating → usb.worker.alive = false)
      Usb.start events := by
  have every : Meets step (fun _ _ => True) Usb.start events :=
    meets_of_forall events (fun _ _ _ => trivial) _
  have keep : ∀ usb event, Kept usb → True → Kept (step usb event) :=
    fun _ event kept _ => step_kept kept event
  exact visits_of_meets (fun _ kept thread creating => (kept.creating thread creating).1) keep events
    _ kept_start every

theorem move_self (thread : Nat) (caller : Caller) : (usb.move thread caller).callers thread = caller :=
  update_self _ _ _

theorem move_other {thread other : Nat} (apart : other ≠ thread) (caller : Caller) :
    (usb.move thread caller).callers other = usb.callers other :=
  update_of_ne apart _ _

theorem joins_before {thread other : Nat} {caller : Caller} (out : caller ≠ .joining)
    (joins : (usb.move thread caller).callers other = .joining) : usb.callers other = .joining := by
  by_cases same : other = thread
  · rw [same, move_self] at joins
    exact absurd joins out
  · rw [move_other same] at joins
    exact joins

theorem step_joins (joins : (step usb event).callers thread = .joining) :
    usb.callers thread = .joining ∨ ∃ sent, event = .kill thread sent ∧
      usb.callers thread = .killing := by
  cases event with
  | call other call =>
    rw [step] at joins
    split_ifs at joins
    · exact Or.inl (joins_before (by simp) joins)
    · exact Or.inl joins
  | lock other =>
    rw [step] at joins
    split at joins
    · split_ifs at joins
      · exact Or.inl (joins_before (by simp) joins)
      · exact Or.inl joins
    · exact Or.inl joins
  | body other =>
    rw [step, Usb.body] at joins
    split at joins
    · unfold Usb.setCallback at joins
      split_ifs at joins
      · exact Or.inl (joins_before (by decide) joins)
      · exact Or.inl (joins_before (by decide) joins)
      · exact Or.inl (joins_before (by decide) joins)
    · exact Or.inl (joins_before (by decide) joins)
    · exact Or.inl (joins_before (by decide) joins)
    · exact Or.inl joins
  | kill other sent =>
    rw [step, Usb.kill] at joins
    by_cases same : thread = other
    · subst same
      split_ifs at joins with here
      · exact Or.inr ⟨sent, rfl, here⟩
      · exact Or.inr ⟨sent, rfl, here⟩
      · exact Or.inr ⟨sent, rfl, here⟩
      · exact Or.inl joins
    · split_ifs at joins with here
      · exact Or.inl ((move_other same _).symm.trans joins)
      · exact Or.inl ((move_other same _).symm.trans joins)
      · exact Or.inl ((move_other same _).symm.trans joins)
      · exact Or.inl joins
  | join other =>
    rw [step] at joins
    split_ifs at joins
    · exact Or.inl (joins_before (by decide) joins)
    · exact Or.inl joins
  | create other created =>
    rw [step] at joins
    split_ifs at joins
    · exact Or.inl (joins_before (by decide) joins)
    · exact Or.inl (joins_before (by decide) joins)
    · exact Or.inl joins
  | deliver interrupts =>
    rw [step, Usb.deliver] at joins
    split_ifs at joins
    · exact Or.inl joins
    · exact Or.inl joins
    · exact Or.inl joins
  | _ =>
    rw [step] at joins
    split_ifs at joins <;> exact Or.inl joins

theorem step_waits (waits : (step usb event).worker = .locking) :
    usb.worker = .locking ∨ ∃ uevent, event = .receive uevent ∧ usb.worker = .receiving ∧
      uevent.queries = true := by
  cases event with
  | call thread call =>
    rw [step] at waits
    split_ifs at waits <;> exact Or.inl waits
  | lock thread =>
    rw [step] at waits
    split at waits
    · split_ifs at waits <;> exact Or.inl waits
    · exact Or.inl waits
  | body thread =>
    rw [step, Usb.body] at waits
    split at waits
    · unfold Usb.setCallback at waits
      split_ifs at waits <;> exact Or.inl waits
    · exact Or.inl waits
    · exact Or.inl waits
    · exact Or.inl waits
  | kill thread sent =>
    rw [step, Usb.kill] at waits
    split_ifs at waits <;> exact Or.inl waits
  | receive uevent =>
    rw [step] at waits
    split_ifs at waits with here queries
    · exact Or.inr ⟨uevent, rfl, here, queries⟩
    · exact Or.inl waits
  | deliver interrupts =>
    rw [step, Usb.deliver] at waits
    split_ifs at waits
    · exact Or.inl waits
    · exact Or.inl waits
  | _ =>
    rw [step] at waits
    split_ifs at waits <;> exact Or.inl waits

theorem step_apart (kept : Kept usb) (free : ¬ Deadlocked usb) (apart : Apart usb event) :
    ¬ Deadlocked (step usb event) := by
  rintro ⟨thread, joins, _, waits⟩
  rcases step_joins joins with joined | ⟨sent, rfl, killing⟩
  · rcases step_waits waits with waited | ⟨uevent, rfl, receiving, queries⟩
    · exact free ⟨thread, joined, kept.lock thread (by rw [joined]; rfl), waited⟩
    · exact apart receiving queries thread joined
  · rcases step_waits waits with waited | ⟨uevent, other, _⟩
    · exact apart killing waited
    · cases other

theorem step_collides (kept : Kept usb) (collides : ¬ Apart usb event) :
    Deadlocked (step usb event) := by
  cases event with
  | receive uevent =>
    obtain ⟨here, rest⟩ := Classical.not_imp.mp collides
    obtain ⟨queries, some_thread⟩ := Classical.not_imp.mp rest
    obtain ⟨thread, joining⟩ := not_forall.mp some_thread
    have joins := not_not.mp joining
    rw [step, if_pos here, queries]
    exact ⟨thread, joins, kept.lock thread (by rw [joins]; rfl), rfl⟩
  | kill thread sent =>
    obtain ⟨here, waiting⟩ := Classical.not_imp.mp collides
    have locking := not_not.mp waiting
    have alive : usb.worker.alive = true := by rw [locking]; rfl
    have holds : (usb.callers thread).holds = true := by rw [here]; rfl
    rw [step, Usb.kill, if_pos here, if_pos alive]
    exact ⟨thread, update_self _ _ _, kept.lock thread holds, locking⟩
  | _ => exact absurd trivial collides

/-- In every run of any calls, messages and signals: no state is a deadlock if and only if no step
    brings a thread that waits for the worker together with a worker that waits for the lock. -/
theorem deadlock_free_iff (events : List Event) :
    Visits step (fun usb => ¬ Deadlocked usb) Usb.start events ↔
      Meets step Apart Usb.start events := by
  have start : Kept Usb.start ∧ ¬ Deadlocked Usb.start := by
    refine ⟨kept_start, ?_⟩
    rintro ⟨thread, joins, _⟩
    cases joins
  have holds : ∀ usb, Kept usb ∧ ¬ Deadlocked usb → ¬ Deadlocked usb := fun _ both => both.2
  have keep : ∀ usb event, Kept usb ∧ ¬ Deadlocked usb → Apart usb event →
      Kept (step usb event) ∧ ¬ Deadlocked (step usb event) :=
    fun _ event both apart => ⟨step_kept both.1 event, step_apart both.1 both.2 apart⟩
  have fails : ∀ usb event, Kept usb ∧ ¬ Deadlocked usb → ¬ Apart usb event →
      ¬ ¬ Deadlocked (step usb event) :=
    fun _ _ both collides => not_not_intro (step_collides both.1 collides)
  exact visits_iff_meets holds keep fails events _ start

def shutdown : List Event :=
  [.call 0 (.setCallback true), .lock 0, .body 0, .create 0 true, .opened true, .test, .ready,
    .receive ⟨20, ["DEVTYPE=typec_port".toList]⟩, .call 0 (.setCallback false), .lock 0, .body 0,
    .kill 0 true]

theorem shutdown_deadlocks : Deadlocked (shutdown.foldl step Usb.start) :=
  ⟨0, by decide, by decide, by decide⟩

theorem step_deadlocked (kept : Kept usb) (dead : Deadlocked usb) (event : Event) :
    Deadlocked (step usb event) := by
  obtain ⟨thread, joins, locked, waits⟩ := dead
  have holds : (usb.callers thread).holds = true := by rw [joins]; rfl
  have only : ∀ other, (usb.callers other).holds = true → usb.callers other = .joining := by
    intro other others
    rw [kept.same_thread holds others]
    exact joins
  have still : Deadlocked usb := ⟨thread, joins, locked, waits⟩
  cases event with
  | call other call =>
    rw [step]
    split_ifs with idle
    · have apart : thread ≠ other := by
        rintro rfl
        cases joins.symm.trans idle
      exact ⟨thread, (move_other apart _).trans joins, locked, waits⟩
    · exact still
  | lock other =>
    have taken : usb.mLock ≠ none := by
      rw [locked]
      exact Option.some_ne_none _
    rw [step]
    split
    · rw [if_neg taken]
      exact still
    · exact still
  | body other =>
    rw [step, Usb.body]
    cases here : usb.callers other with
    | inside call => cases here.symm.trans (only other (by rw [here]; rfl))
    | _ => exact still
  | kill other sent =>
    rw [step, Usb.kill]
    split_ifs with here
    · cases here.symm.trans (only other (by rw [here]; rfl))
    · cases here.symm.trans (only other (by rw [here]; rfl))
    · cases here.symm.trans (only other (by rw [here]; rfl))
    · exact still
  | create other created =>
    rw [step]
    split_ifs with here
    · cases here.symm.trans (only other (by rw [here]; rfl))
    · cases here.symm.trans (only other (by rw [here]; rfl))
    · exact still
  | deliver interrupts =>
    rw [step, Usb.deliver]
    split_ifs with _ ends
    · cases waits.symm.trans ends.1
    · exact ⟨thread, joins, locked, waits⟩
    · exact still
  | _ =>
    rw [step, waits]
    simpa [locked] using still

/-- No step leaves a deadlock. -/
theorem deadlock_permanent (before after : List Event)
    (dead : Deadlocked (before.foldl step Usb.start)) :
    Visits step Deadlocked (before.foldl step Usb.start) after := by
  have kept : Kept (before.foldl step Usb.start) :=
    before.foldlRecOn step kept_start fun _ kept event _ => step_kept kept event
  have keep usb event (both : Kept usb ∧ Deadlocked usb) (_ : True) :=
    And.intro (step_kept both.1 event) (step_deadlocked both.1 both.2 event)
  exact visits_of_meets (fun _ both => both.2) keep after _ ⟨kept, dead⟩
    (meets_of_forall after (fun _ _ _ => trivial) _)

theorem shutdown_stays : Visits step Deadlocked (shutdown.foldl step Usb.start)
    [.deliver true, .join 0] :=
  deadlock_permanent shutdown _ ⟨0, by decide, by decide, by decide⟩

end CallbackShutdown
