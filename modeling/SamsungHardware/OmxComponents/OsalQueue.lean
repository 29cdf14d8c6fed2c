import SamsungHardware.Library.RingBuffer
import SamsungHardware.Library.StepRuns
import SamsungHardware.OmxComponents.ResourceManager

/- SEC_OSAL_Queue.c: a queue of pointers in a ring of linked nodes. The nodes are numbered in the
   order in which they are allocated, and a node that was cleared has the pointers `none`. The
   calls on a queue hold its mutex, so that they take effect one after another. -/
namespace OsalQueue
open ResourceManager RingBuffer StepRuns Option

def maxQueueElements : Nat := 10

structure QElem (α : Type) where
  data : Option α
  qNext : Option Nat
  deriving DecidableEq, Repr

structure Queue (α : Type) where
  elems : Nat → QElem α
  (first last : Option Nat)
  numElem : Int

variable {α : Type} (queue : Queue α)

def Queue.setElem (address : Nat) (elem : QElem α) : Queue α :=
  { queue with elems := Function.update queue.elems address elem }

/-- The loop that appends the other nodes. On a failed allocation all nodes are freed. -/
def appendElems (malloc : Nat → Bool) : Nat → Nat → Queue α → OmxError × Queue α
  | 0, currentqelem, queue =>
    (.errorNone, queue.setElem currentqelem
      { queue.elems currentqelem with qNext := queue.first })
  | count + 1, currentqelem, queue =>
    let newqelem := currentqelem + 1
    if malloc newqelem then
      let queue := queue.setElem newqelem ⟨none, none⟩
      let queue := queue.setElem currentqelem
        { queue.elems currentqelem with qNext := some newqelem }
      appendElems malloc count newqelem queue
    else (.insufficientResources, { queue with first := none })

def queueCreate (mutexCreate : OmxError) (malloc : Nat → Bool) : OmxError × Queue α :=
  if mutexCreate ≠ .errorNone then (mutexCreate, queue)
  else if malloc 0 = false then (.insufficientResources, { queue with first := none })
  else
    let queue := queue.setElem 0 ⟨none, none⟩
    appendElems malloc (maxQueueElements - 2) 0
      { queue with first := some 0, last := some 0, numElem := 0 }

/-- `SEC_OSAL_Queue`. Without a result a null pointer was followed. -/
def enqueue (data : α) : Option (Int × Queue α) :=
  queue.last.map fun last =>
    if (queue.elems last).data.isSome ∨ queue.numElem ≥ maxQueueElements then (-1, queue)
    else
      let queue := queue.setElem last { queue.elems last with data := some data }
      (0, { queue with last := (queue.elems last).qNext, numElem := queue.numElem + 1 })

def dequeue : Option (Option α × Queue α) :=
  queue.first.map fun first =>
    if (queue.elems first).data.isNone ∨ queue.numElem ≤ 0 then (none, queue)
    else
      let data := (queue.elems first).data
      let queue := queue.setElem first { queue.elems first with data := none }
      (data, { queue with first := (queue.elems first).qNext, numElem := queue.numElem - 1 })

def getElemNum : Int := queue.numElem

def setElemNum (elemNum : Int) : Queue α := { queue with numElem := elemNum }

def ringSize : Nat := maxQueueElements - 1

def Queue.slots (address : Nat) : Option α := (queue.elems address).data

def Queue.walk (queue : Queue α) : Nat → Option Nat → List α
  | 0, _ => []
  | _, none => []
  | count + 1, some address =>
    (queue.slots address).toList ++ queue.walk count (queue.elems address).qNext

def Queue.contents : List α := queue.walk ringSize queue.first

structure Ring (queue : Queue α) (held : List α) : Prop where
  links : ∀ i, i < ringSize → (queue.elems i).qNext = some ((i + 1) % ringSize)
  slots : ∃ first last, queue.first = some first ∧ queue.last = some last ∧
    Holds ringSize queue.slots first last held

structure Represents (queue : Queue α) (held : List α) : Prop where
  ring : Ring queue held
  count : queue.numElem = held.length

structure Chained (queue : Queue α) (current : Nat) : Prop where
  first : queue.first = some 0
  last : queue.last = some 0
  count : queue.numElem = 0
  empty : ∀ i, i ≤ current → (queue.elems i).data = none
  links : ∀ i, i < current → (queue.elems i).qNext = some (i + 1)

theorem Chained.next {queue : Queue α} {current : Nat} (chained : Chained queue current) :
    Chained ((queue.setElem (current + 1) ⟨none, none⟩).setElem current
      { (queue.setElem (current + 1) ⟨none, none⟩).elems current with
        qNext := some (current + 1) }) (current + 1) := by
  refine ⟨chained.first, chained.last, chained.count, ?_, ?_⟩
  · intro i inside
    rcases Nat.lt_or_eq_of_le inside with before | here
    · by_cases same : i = current
      · simp [Queue.setElem, same, chained.empty]
      · have apart : i ≠ current + 1 := Nat.ne_of_lt before
        simp [Queue.setElem, same, apart, chained.empty i (Nat.le_of_lt_succ before)]
    · simp [Queue.setElem, here]
  · intro i inside
    by_cases same : i = current
    · simp [Queue.setElem, same]
    · have apart : i ≠ current + 1 := Nat.ne_of_lt inside
      simp [Queue.setElem, same, apart, chained.links i (by omega)]

theorem appendElems_chained {malloc : Nat → Bool} (count current : Nat) (queue queue' : Queue α)
    (chained : Chained queue current)
    (created : appendElems malloc count current queue = (.errorNone, queue')) :
    ∃ before, Chained before (current + count) ∧
      queue' = before.setElem (current + count)
        { before.elems (current + count) with qNext := some 0 } := by
  induction count generalizing current queue with
  | zero =>
    rw [appendElems, Prod.mk.injEq, chained.first] at created
    exact ⟨queue, chained, created.2.symm⟩
  | succ count ih =>
    rw [appendElems] at created
    by_cases allocated : malloc (current + 1) = true
    · rw [if_pos allocated] at created
      obtain ⟨before, chained', same⟩ := ih _ _ chained.next created
      rw [Nat.add_right_comm] at chained' same
      exact ⟨before, chained', same⟩
    · rw [if_neg allocated, Prod.mk.injEq] at created
      cases created.1

theorem queueCreate_represents {memory queue : Queue α} {mutexCreate : OmxError}
    {malloc : Nat → Bool} (created : queueCreate memory mutexCreate malloc = (.errorNone, queue)) :
    Represents queue [] := by
  rw [queueCreate] at created
  by_cases mutex : mutexCreate ≠ .errorNone
  · rw [if_pos mutex, Prod.mk.injEq] at created
    exact absurd created.1 mutex
  rw [if_neg mutex] at created
  by_cases allocated : malloc 0 = false
  · rw [if_pos allocated, Prod.mk.injEq] at created
    cases created.1
  rw [if_neg allocated] at created
  have start : Chained { memory.setElem 0 ⟨none, none⟩ with
      first := some 0, last := some 0, numElem := 0 } 0 := by
    refine ⟨rfl, rfl, rfl, ?_, ?_⟩
    · intro i inside
      simp [Queue.setElem, Nat.le_zero.mp inside]
    · intro i inside
      cases inside
  obtain ⟨before, chained, same⟩ := appendElems_chained _ _ _ _ start created
  have elem (i : Nat) (inside : i < ringSize) : (queue.elems i).data = none ∧
      (queue.elems i).qNext = some ((i + 1) % ringSize) := by
    rw [same]
    by_cases closing : i = maxQueueElements - 2
    · have wraps : (maxQueueElements - 2 + 1) % ringSize = 0 := rfl
      simp [Queue.setElem, closing, chained.empty, wraps]
    · have within : i < maxQueueElements - 2 := by
        simp only [ringSize, maxQueueElements] at inside closing ⊢
        omega
      have wraps : (i + 1) % ringSize = i + 1 := Nat.mod_eq_of_lt (Nat.succ_lt_succ within)
      simp [Queue.setElem, closing, chained.empty i (Nat.le_of_lt within),
        chained.links i within, wraps]
  refine ⟨⟨fun i inside => (elem i inside).2, 0, 0, ?_, ?_, ?_⟩, ?_⟩
  · rw [same]
    exact chained.first
  · rw [same]
    exact chained.last
  · exact Holds.start (by decide) (fun i inside => (elem i inside).1)
  · rw [same]
    exact chained.count

section

variable {queue : Queue α} {held : List α}

section
variable (ring : Ring queue held)
include ring

theorem Ring.enqueue_full (full : held.length = ringSize) (data : α) :
    enqueue queue data = some (-1, queue) := by
  obtain ⟨first, last, first_eq, last_eq, holds⟩ := ring.slots
  have occupied : (queue.elems last).data.isSome = true := by
    rw [isSome_iff_ne_none]
    intro empty
    exact Nat.lt_irrefl _ (full ▸ holds.last_slot.mp empty)
  rw [enqueue, last_eq, map_some, if_pos (Or.inl occupied)]

omit ring in
theorem slots_setElem (place : Nat) (data : Option α) :
    (queue.setElem place { queue.elems place with data := data }).slots =
      Function.update queue.slots place data := by
  funext i
  by_cases same : i = place
  · simp [Queue.slots, Queue.setElem, same]
  · simp [Queue.slots, Queue.setElem, same]

theorem Ring.links_setElem (place : Nat) (data : Option α) (i : Nat) (inside : i < ringSize) :
    ((queue.setElem place { queue.elems place with data := data }).elems i).qNext =
      some ((i + 1) % ringSize) := by
  by_cases same : i = place
  · simp [Queue.setElem, same, ring.links place (same ▸ inside)]
  · simp [Queue.setElem, same, ring.links i inside]

theorem Ring.enqueue_space (space : held.length < ringSize)
    (counted : queue.numElem < maxQueueElements) (data : α) :
    ∃ queue', enqueue queue data = some (0, queue') ∧ Ring queue' (held ++ [data]) ∧
      queue'.numElem = queue.numElem + 1 := by
  obtain ⟨first, last, first_eq, last_eq, holds⟩ := ring.slots
  have empty : (queue.elems last).data = none := holds.last_slot.mpr space
  have accepted : ¬ ((queue.elems last).data.isSome = true ∨
      queue.numElem ≥ (maxQueueElements : Int)) := by
    rw [empty]
    rintro (occupied | many)
    · cases occupied
    · exact absurd counted (Int.not_lt.mpr many)
  refine ⟨_, by rw [enqueue, last_eq, map_some, if_neg accepted], ⟨?_, ?_⟩, rfl⟩
  · exact ring.links_setElem last _
  · refine ⟨first, (last + 1) % ringSize, first_eq, ?_, ?_⟩
    · simp [Queue.setElem, ring.links last holds.last_lt]
    · have pushed := holds.push space data
      rw [← slots_setElem] at pushed
      exact pushed

theorem Ring.dequeue_none (none_left : held = [] ∨ queue.numElem ≤ 0) :
    dequeue queue = some (none, queue) := by
  obtain ⟨first, last, first_eq, last_eq, holds⟩ := ring.slots
  have refused : (queue.elems first).data.isNone = true ∨ queue.numElem ≤ 0 := by
    rcases none_left with empty | count
    · left
      have here : (queue.elems first).data = held.head? := holds.first_slot
      rw [here, empty]
      rfl
    · exact Or.inr count
  rw [dequeue, first_eq, map_some, if_pos refused]

omit ring in
theorem Ring.dequeue_some {data : α} (ring : Ring queue (data :: held))
    (counted : 0 < queue.numElem) :
    ∃ queue', dequeue queue = some (some data, queue') ∧ Ring queue' held ∧
      queue'.numElem = queue.numElem - 1 := by
  obtain ⟨first, last, first_eq, last_eq, holds⟩ := ring.slots
  have here : (queue.elems first).data = some data := holds.first_slot
  have taken : ¬ ((queue.elems first).data.isNone = true ∨ queue.numElem ≤ 0) := by
    rw [here]
    rintro (empty | none_left)
    · cases empty
    · exact absurd counted (Int.not_lt.mpr none_left)
  refine ⟨_, by rw [dequeue, first_eq, map_some, if_neg taken, here], ⟨?_, ?_⟩, rfl⟩
  · exact ring.links_setElem first _
  · refine ⟨(first + 1) % ringSize, last, ?_, last_eq, ?_⟩
    · simp [Queue.setElem, ring.links first holds.first_lt]
    · have popped := holds.pop
      rw [← slots_setElem] at popped
      exact popped

theorem Ring.walk_eq (count : Nat) :
    ∀ first, first < ringSize → queue.walk count (some first) =
      (List.range count).filterMap fun j => queue.slots ((first + j) % ringSize) := by
  induction count with
  | zero =>
    intro first _
    rfl
  | succ count ih =>
    intro first inside
    have next : (first + 1) % ringSize < ringSize := Nat.mod_lt _ (by decide)
    rw [Queue.walk, ring.links first inside, ih _ next, List.range_succ_eq_map,
      List.filterMap_cons, List.filterMap_map, index_zero inside]
    simp only [Function.comp_def, index_succ]
    cases queue.slots first with
    | none => rfl
    | some value => rfl

theorem Ring.contents_eq : queue.contents = held := by
  obtain ⟨first, last, first_eq, last_eq, holds⟩ := ring.slots
  rw [Queue.contents, first_eq, ring.walk_eq ringSize first holds.first_lt]
  exact holds.once_around

end

theorem Represents.length_le (represents : Represents queue held) : held.length ≤ ringSize := by
  obtain ⟨first, last, first_eq, last_eq, holds⟩ := represents.ring.slots
  exact holds.room

theorem Represents.enqueue_space (represents : Represents queue held)
    (space : held.length < ringSize) (data : α) :
    ∃ queue', enqueue queue data = some (0, queue') ∧ Represents queue' (held ++ [data]) := by
  have counted : queue.numElem < maxQueueElements := by
    rw [represents.count]
    exact Int.ofNat_lt.mpr (Nat.lt_succ_of_lt space)
  obtain ⟨queue', done, ring, count⟩ := represents.ring.enqueue_space space counted data
  refine ⟨queue', done, ring, ?_⟩
  rw [count, represents.count, List.length_append]
  rfl

theorem Represents.dequeue_some {data : α} (represents : Represents queue (data :: held)) :
    ∃ queue', dequeue queue = some (some data, queue') ∧ Represents queue' held := by
  have counted : 0 < queue.numElem := by
    rw [represents.count, List.length_cons]
    omega
  obtain ⟨queue', done, ring, count⟩ := represents.ring.dequeue_some counted
  refine ⟨queue', done, ring, ?_⟩
  rw [count, represents.count, List.length_cons]
  omega

end

inductive Call (α : Type) where
  | queue (data : α)
  | dequeue
  deriving DecidableEq, Repr

structure Session (α : Type) where
  queue : Queue α
  (queued dequeued : List α)

def Session.start (queue : Queue α) : Session α := ⟨queue, [], []⟩

def Session.call (session : Session α) : Call α → Option (Session α)
  | .queue data => (enqueue session.queue data).map fun (ret, queue) =>
    { session with
      queue := queue
      queued := if ret = 0 then session.queued ++ [data] else session.queued }
  | .dequeue => (dequeue session.queue).map fun (data, queue) =>
    { session with queue := queue, dequeued := session.dequeued ++ data.toList }

def Session.Faithful (session : Session α) : Prop :=
  ∃ held, session.queued = session.dequeued ++ held ∧ Represents session.queue held

theorem Session.call_faithful (session : Session α) (call : Call α)
    (faithful : session.Faithful) :
    ∃ session', session.call call = some session' ∧ session'.Faithful := by
  obtain ⟨held, values, represents⟩ := faithful
  cases call with
  | queue data =>
    rcases Nat.lt_or_eq_of_le represents.length_le with space | full
    · obtain ⟨queue', done, represents'⟩ := represents.enqueue_space space data
      refine ⟨_, by rw [Session.call, done, map_some], held ++ [data], ?_, represents'⟩
      simp [values]
    · have refused := represents.ring.enqueue_full full data
      exact ⟨session, by simp [Session.call, refused], held, values, represents⟩
  | dequeue =>
    cases held with
    | nil =>
      have refused := represents.ring.dequeue_none (Or.inl rfl)
      exact ⟨session, by simp [Session.call, refused], [], values, represents⟩
    | cons data held =>
      obtain ⟨queue', done, represents'⟩ := represents.dequeue_some
      refine ⟨_, by rw [Session.call, done, map_some], held, ?_, represents'⟩
      simp [values]

/-- What a session shows of a bounded FIFO of `bound` places that holds the list. -/
structure Behaves (session : Session α) (bound : Nat) (held : List α) : Prop where
  values : session.queued = session.dequeued ++ held
  elemNum : getElemNum session.queue = session.queued.length - session.dequeued.length
  queue : ∀ data, ∃ ret queue', enqueue session.queue data = some (ret, queue') ∧
    (ret = 0 ∨ ret = -1) ∧ (ret = -1 ↔ held.length = bound) ∧ (ret = -1 → queue' = session.queue)
  dequeue : ∃ data queue', dequeue session.queue = some (data, queue') ∧ data = held.head? ∧
    (data = none → queue' = session.queue)

theorem Behaves.of_represents {session : Session α} {held : List α}
    (values : session.queued = session.dequeued ++ held)
    (represents : Represents session.queue held) : Behaves session ringSize held where
  values := values
  elemNum := by
    rw [getElemNum, represents.count, values, List.length_append]
    omega
  queue data := by
    rcases Nat.lt_or_eq_of_le represents.length_le with space | full
    · obtain ⟨queue', done, -⟩ := represents.enqueue_space space data
      exact ⟨0, queue', done, Or.inl rfl, by simp [Nat.ne_of_lt space], by simp⟩
    · exact ⟨-1, session.queue, represents.ring.enqueue_full full data, Or.inr rfl,
        by simp [full], fun _ => rfl⟩
  dequeue := by
    cases held with
    | nil => exact ⟨none, session.queue, represents.ring.dequeue_none (Or.inl rfl), rfl,
        fun _ => rfl⟩
    | cons data held =>
      obtain ⟨queue', done, -⟩ := represents.dequeue_some
      exact ⟨some data, queue', done, rfl, by simp⟩

/-- Every sequence of calls on a created queue behaves as a FIFO of nine places. -/
theorem queue_refines_fifo (memory queue : Queue α) (mutexCreate : OmxError) (malloc : Nat → Bool)
    (created : queueCreate memory mutexCreate malloc = (.errorNone, queue))
    (calls : List (Call α)) :
    ∃ session held, run Session.call (Session.start queue) calls = some session ∧
      Behaves session 9 held := by
  have start : (Session.start queue).Faithful := ⟨[], rfl, queueCreate_represents created⟩
  obtain ⟨session, runs, held, values, represents⟩ :=
    run_total (fun s call faithful => s.call_faithful call faithful) calls _ start
  exact ⟨session, held, runs, Behaves.of_represents values represents⟩

/-- A queue that could be created, and one call more than it has places. -/
theorem queue_refines_fifo_full : ∃ session held, run Session.call (Session.start
    (queueCreate ⟨fun _ => ⟨none, none⟩, none, none, 0⟩ .errorNone fun _ => true).2)
      (Call.dequeue :: (List.range 10).map Call.queue) = some session ∧ Behaves session 9 held :=
  queue_refines_fifo ⟨fun _ => ⟨none, none⟩, none, none, 0⟩ _ .errorNone (fun _ => true) rfl _

end OsalQueue
