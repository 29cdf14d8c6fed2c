import SamsungHardware.Library.Custody
import SamsungHardware.OmxComponents.OsalQueue

/- The way of buffer headers through one port, from SEC_OMX_Baseport.c and SEC_OMX_Vdec.c.
   Clients put messages into the queue of the port, the buffer-processing thread takes one at a
   time into `secDataBuffer`, and a flush empties both. The processing thread and the flush hold
   `bufferMutex` while they use `secDataBuffer`; clients hold no lock of the port. A step is what
   one of the threads does between two accesses to the queue or the semaphore, which are the data
   that a client shares; the callback that hands a header back ends a step too, since the client has
   the header from there on. -/
namespace BufferFlow
open ResourceManager OsalQueue StepRuns Custody List Option

variable {H : Type} [DecidableEq H]

/-- What the queue of a port points to: a message with its header, or the port itself. -/
inductive Entry (H : Type) where
  | message (pCmdData : H)
  | port
  deriving DecidableEq, Repr

inductive Callback where
  | emptyBufferDone | fillBufferDone | tunneledEmptyThisBuffer | tunneledFillThisBuffer
  deriving DecidableEq, Repr

structure Port (H : Type) where
  portIndex : Nat
  (tunneled bufferSupplier : Bool)
  /-- The entries below `nBufferCountActual`. -/
  bufferHeader : List (Option H)
  assignedBufferNum : Nat
  deriving DecidableEq, Repr

abbrev inputPortIndex : Nat := 0
abbrev outputPortIndex : Nat := 1

variable (port : Port H)

def Port.supplies : Bool := port.tunneled && port.bufferSupplier

def Port.callback : Callback :=
  if port.tunneled then
    if port.portIndex = inputPortIndex then .tunneledFillThisBuffer else .tunneledEmptyThisBuffer
  else if port.portIndex = outputPortIndex then .fillBufferDone else .emptyBufferDone

inductive FlushPoint where
  /-- `SEC_OSAL_GetElemNum(..) > 0` -/
  | testQueue
  /-- `SEC_OSAL_Get_SemaphoreCount` -/
  | testSemaphore
  | post
  | wait
  | dequeue
  /-- `dataValid == OMX_TRUE` -/
  | data
  /-- Behind the callback, `secDataBuffer` is reset. -/
  | reset
  /-- The loop that empties the semaphore, and the overwriting of the count. -/
  | drain | drainWait | clear
  /-- The loop of a buffer supplier, and the overwriting of its count. -/
  | refill | refillWait | compare | assign
  deriving DecidableEq, Repr

structure Flushed (H : Type) where
  ret : OmxError
  contents : List (Entry H)
  dataBuffer : Option H
  elemNum : Int
  deriving DecidableEq, Repr

structure Flow (H : Type) where
  bufferQ : Queue (Entry H)
  bufferSem : Nat
  /-- The header in `secDataBuffer`: `dataValid` and `bufferHeader` are written together. -/
  dataBuffer : Option H
  /-- The header in `secDataBuffer` has been handed back, and `secDataBuffer` is not yet reset. -/
  returning : Bool
  bIsPortFlushed : Bool
  /-- Headers of the calls that passed the checks and have not yet queued a message. -/
  calls : List H
  /-- Calls that have queued their message and not yet posted the semaphore. -/
  posts : Nat
  /-- The processing thread has passed the semaphore and not yet locked `bufferMutex`. -/
  waited : Bool
  flush : Option FlushPoint
  accepted : List H
  handedBack : List (Callback × H)
  flushes : List (Flushed H)

def Flow.start (queue : Queue (Entry H)) : Flow H where
  bufferQ := queue
  bufferSem := 0
  dataBuffer := none
  returning := false
  bIsPortFlushed := false
  calls := []
  posts := 0
  waited := false
  flush := none
  accepted := []
  handedBack := []
  flushes := []

def Entry.header? : Entry H → Option H
  | .message header => some header
  | .port => none

variable (flow : Flow H)

def Flow.held : List H :=
  flow.bufferQ.contents.filterMap Entry.header? ++ flow.dataBuffer.toList

def Flow.returned : List H := flow.handedBack.map Prod.snd

structure Call (H : Type) where
  /-- `none` for a null handle, else what `SEC_OMX_Check_SizeVersion` says of it. -/
  component : Option OmxError
  componentPrivate : Bool
  currentState : OmxState
  executingToIdle : Bool
  pBuffer : Option H
  bufferPortIndex : Nat
  bufferVersion : OmxError
  (enabled beingDisabled malloc : Bool)

/-- `SEC_OMX_EmptyThisBuffer` on the input port and `SEC_OMX_FillThisBuffer` on the output port,
    up to the message that is ready to be queued. -/
def thisBuffer (beingFlushed : Bool) (call : Call H) : Except OmxError H := do
  match call.component with
  | none => throw badParameter
  | some version => if version ≠ .errorNone then throw version
  if call.componentPrivate = false then throw badParameter
  if call.currentState = .invalid then throw .invalidState
  match call.pBuffer with
  | none => throw badParameter
  | some pBuffer =>
    if call.bufferPortIndex ≠ port.portIndex then throw badPortIndex
    if call.bufferVersion ≠ .errorNone then throw call.bufferVersion
    if call.currentState ≠ .idle ∧ call.currentState ≠ .executing ∧
        call.currentState ≠ .pause then
      throw incorrectStateOperation
    if call.enabled = false ∨ ((beingFlushed ∨ call.beingDisabled) ∧
        (port.tunneled = false ∨ port.bufferSupplier = false)) ∨
        (call.executingToIdle ∧ port.tunneled ∧ port.bufferSupplier = false) then
      throw incorrectStateOperation
    if some pBuffer ∈ port.bufferHeader then
      if call.malloc then return pBuffer else throw .insufficientResources
    else throw badParameter

/-- A client may hand over a header that it is not handing over already, and for which each
    acceptance has been answered. -/
def Flow.ClientHolds (header : H) : Prop :=
  header ∉ flow.calls ∧ flow.accepted.count header = flow.returned.count header

instance (flow : Flow H) (header : H) : Decidable (flow.ClientHolds header) :=
  inferInstanceAs (Decidable (_ ∧ _))

def Flow.check (call : Call H) : Option (Flow H) :=
  match thisBuffer port flow.bIsPortFlushed call with
  | .error _ => some flow
  | .ok header =>
    if flow.ClientHolds header then some { flow with calls := header :: flow.calls } else none

def Flow.queue (header : H) : Option (Flow H) :=
  if header ∈ flow.calls then
    (enqueue flow.bufferQ (.message header)).map fun (ret, bufferQ) =>
      if ret ≠ 0 then { flow with bufferQ := bufferQ, calls := flow.calls.erase header }
      else { flow with
        bufferQ := bufferQ
        calls := flow.calls.erase header
        posts := flow.posts + 1
        accepted := flow.accepted ++ [header] }
  else none

def Flow.post : Option (Flow H) :=
  if flow.posts = 0 then none
  else some { flow with posts := flow.posts - 1, bufferSem := flow.bufferSem + 1 }

/-- `SEC_InputBufferGetQueue` and `SEC_OutputBufferGetQueue` up to the lock. -/
def Flow.getQueueWait (currentState : OmxState) : Option (Flow H) :=
  if currentState ≠ .executing then some flow
  else if flow.waited ∨ flow.bufferSem = 0 then none
  else some { flow with bufferSem := flow.bufferSem - 1, waited := true }

/-- The rest of these functions, under the lock. Following a pointer to the port as a message
    has no defined result. -/
def Flow.getQueueTake : Option (OmxError × Flow H) :=
  if flow.waited = false ∨ flow.returning = true ∨ flow.flush ≠ none then none
  else
    let flow := { flow with waited := false }
    if flow.dataBuffer ≠ none then some (.errorNone, flow)
    else match dequeue flow.bufferQ with
      | none => none
      | some (none, _) => some (.undefined, flow)
      | some (some .port, _) => none
      | some (some (.message header), bufferQ) =>
        some (.errorNone, { flow with bufferQ := bufferQ, dataBuffer := some header })

/-- `SEC_InputBufferReturn` and `SEC_OutputBufferReturn` up to the callback, and the rest. -/
def Flow.bufferReturn : Flow H :=
  match flow.dataBuffer with
  | none => flow
  | some header => { flow with
      returning := true
      handedBack := flow.handedBack ++ [(port.callback, header)] }

def Flow.bufferReset : Flow H := { flow with dataBuffer := none, returning := false }

def Flow.leave (ret : OmxError) : Flow H :=
  { flow with
    flush := none
    bIsPortFlushed := false
    flushes := flow.flushes ++
      [⟨ret, flow.bufferQ.contents, flow.dataBuffer, getElemNum flow.bufferQ⟩] }

def Flow.semaphoreWait (next : FlushPoint) : Option (Flow H) :=
  if flow.bufferSem = 0 then none
  else some { flow with bufferSem := flow.bufferSem - 1, flush := some next }

def Flow.flushMessage : Option (Flow H) :=
  match dequeue flow.bufferQ with
  | none => none
  | some (none, _) => some { flow with flush := some .testQueue }
  | some (some .port, _) => none
  | some (some (.message header), bufferQ) =>
    if port.supplies then
      (enqueue bufferQ .port).map fun (_, bufferQ) =>
        { flow with bufferQ := bufferQ }.leave notImplemented
    else some { flow with
      bufferQ := bufferQ
      handedBack := flow.handedBack ++ [(port.callback, header)]
      flush := some .testQueue }

def Flow.flushData (malloc : Bool) (flow : Flow H) : Option (Flow H) :=
  if port.supplies then
    match flow.dataBuffer with
    | none => some { flow with flush := some .refill }
    | some header =>
      -- without memory for the message a null pointer is written through
      if malloc then (enqueue flow.bufferQ (.message header)).map fun (_, bufferQ) =>
        { flow with bufferQ := bufferQ, dataBuffer := none, flush := some .refill }
      else none
  else some { flow.bufferReturn port with
    flush := some (if flow.dataBuffer.isSome then .reset else .drain) }

def Flow.flushStep (malloc : Bool) (flow : Flow H) : Option (Flow H) :=
  match flow.flush with
  | none => if flow.returning then none else some { flow with flush := some .testQueue }
  | some .testQueue =>
    some { flow with flush := some (if 0 < getElemNum flow.bufferQ then .testSemaphore else .data) }
  | some .testSemaphore =>
    some { flow with flush := some (if flow.bufferSem = 0 then .post else .wait) }
  | some .post => some { flow with bufferSem := flow.bufferSem + 1, flush := some .wait }
  | some .wait => flow.semaphoreWait .dequeue
  | some .dequeue => flow.flushMessage port
  | some .data => flow.flushData port malloc
  | some .reset => some { flow.bufferReset with flush := some .drain }
  | some .drain => some { flow with flush := some (if flow.bufferSem = 0 then .clear else .drainWait) }
  | some .drainWait => flow.semaphoreWait .drain
  | some .clear => some ({ flow with bufferQ := setElemNum flow.bufferQ 0 }.leave .errorNone)
  | some .refill => some { flow with
      flush := some (if getElemNum flow.bufferQ < port.assignedBufferNum then .refillWait
        else .compare) }
  | some .refillWait => flow.semaphoreWait .refill
  | some .compare =>
    if getElemNum flow.bufferQ ≠ port.assignedBufferNum then some { flow with flush := some .assign }
    else some (flow.leave .errorNone)
  | some .assign =>
    some ({ flow with
      bufferQ := setElemNum flow.bufferQ port.assignedBufferNum }.leave .errorNone)

inductive Event (H : Type) where
  | check (call : Call H)
  | queue (header : H)
  | post
  | getQueueWait (currentState : OmxState)
  | getQueueTake
  | bufferReturn
  | bufferReset
  /-- The flush command marks the port before the command is handled. -/
  | commandFlush
  | flush (malloc : Bool)

def flowStep : Event H → Option (Flow H)
  | .check call => flow.check port call
  | .queue header => flow.queue header
  | .post => flow.post
  | .getQueueWait currentState => flow.getQueueWait currentState
  | .getQueueTake => flow.getQueueTake.map Prod.snd
  | .bufferReturn =>
    if flow.flush = none ∧ flow.returning = false then some (flow.bufferReturn port) else none
  | .bufferReset =>
    if flow.flush = none ∧ flow.returning = true then some flow.bufferReset else none
  | .commandFlush => some { flow with bIsPortFlushed := true }
  | .flush malloc => flow.flushStep port malloc

/-- Every acceptance of a header has been answered by one call that hands it back, except the
    last one while the header is in the port, in one message or in `secDataBuffer`. -/
def Flow.Conserved : Prop :=
  ∀ header, flow.accepted.count header = flow.held.count header + flow.returned.count header ∧
    flow.held.count header ≤ 1

/-- Every flush that succeeded on a port without a tunnel left nothing in it. -/
def Flow.FlushesClean : Prop :=
  ∀ flushed ∈ flow.flushes, flushed.ret = .errorNone → port.tunneled = false →
    flushed.contents = [] ∧ flushed.dataBuffer = none ∧ flushed.elemNum = 0

/-- The flush has seen the queue empty and has not yet overwritten its count. -/
def Flow.closing : Bool :=
  flow.flush ∈ [some .data, some .reset, some .drain, some .drainWait, some .clear]

/-- No message is queued into a closing flush, and the flush of a buffer supplier takes no
    message from the queue, has room for the header of `secDataBuffer` and need not correct the
    count. -/
def Careful : Event H → Prop
  | .queue _ => flow.closing → port.supplies
  | .flush _ => (flow.flush = some .dequeue → port.supplies = false) ∧
    (flow.flush = some .data → port.supplies → flow.dataBuffer ≠ none →
      flow.bufferQ.contents.length < ringSize) ∧
    (flow.flush = some .assign → getElemNum flow.bufferQ = port.assignedBufferNum)
  | _ => True

instance (port : Port H) (flow : Flow H) : (event : Event H) →
    Decidable (Careful port flow event)
  | .queue _ => inferInstanceAs (Decidable (_ → _))
  | .flush _ => inferInstanceAs (Decidable ((_ → _) ∧ (_ → _ → _ → _) ∧ (_ → _)))
  | .check _ | .post | .getQueueWait _ | .getQueueTake | .bufferReturn | .bufferReset
  | .commandFlush => isTrue trivial

variable {port : Port H} {flow flow' : Flow H} {queued : List H} {header : H}

section

/-- What the flush relies on where it is: behind its loop the queue is empty, and behind
    `secDataBuffer` that is empty too, unless the port supplies the buffers. -/
def Promise (port : Port H) (queued : List H) (data kept : Option H) : Option FlushPoint → Prop
  | some .data => port.supplies = false → queued = []
  | some .reset => port.supplies = false ∧ queued = [] ∧ kept = none
  | some .drain | some .drainWait | some .clear =>
    port.supplies = false ∧ queued = [] ∧ data = none
  | some .refill | some .refillWait | some .compare | some .assign => port.supplies = true
  | _ => True

/-- The header in `secDataBuffer`, unless it has been handed back. -/
def Flow.kept (flow : Flow H) : Option H := if flow.returning then none else flow.dataBuffer

structure Sound (port : Port H) (flow : Flow H) (queued : List H) : Prop where
  represents : Represents flow.bufferQ (queued.map Entry.message)
  balanced : Balanced flow.accepted flow.calls (queued ++ flow.kept.toList) flow.returned
  returning : flow.returning = true →
    flow.dataBuffer.isSome = true ∧ (flow.flush = none ∨ flow.flush = some .reset)
  promise : Promise port queued flow.dataBuffer flow.kept flow.flush
  clean : flow.FlushesClean port

omit [DecidableEq H] in
theorem header?_message (queued : List H) :
    (queued.map Entry.message).filterMap Entry.header? = queued := by
  induction queued with
  | nil => rfl
  | cons header rest ih =>
    rw [map_cons, filterMap_cons, ih]
    rfl

variable (sound : Sound port flow queued)
include sound

theorem Sound.held_eq : flow.held = queued ++ flow.dataBuffer.toList := by
  rw [Flow.held, sound.represents.ring.contents_eq, header?_message]

omit sound in
omit [DecidableEq H] in
theorem kept_idle (idle : flow.returning = false) : flow.kept = flow.dataBuffer := by
  rw [Flow.kept, idle]
  rfl

/-- Between the callback and the reset the header counts twice. -/
theorem Sound.conserved_iff : flow.Conserved ↔ flow.returning = false := by
  unfold Flow.Conserved
  rw [sound.held_eq]
  cases returning : flow.returning with
  | false =>
    refine iff_of_true (fun header => ?_) rfl
    rw [← kept_idle returning]
    have single := sound.balanced.single header
    exact ⟨sound.balanced.balance header, by omega⟩
  | true =>
    obtain ⟨header, data⟩ := isSome_iff_exists.mp (sound.returning returning).1
    refine iff_of_false (fun conserved => ?_) (by decide)
    have balance := sound.balanced.balance header
    rw [(conserved header).1, Flow.kept, returning, data] at balance
    simp at balance

theorem Sound.idle {point : FlushPoint} (here : flow.flush = some point) (other : point ≠ .reset) :
    flow.returning = false := by
  by_contra busy
  rcases (sound.returning (Bool.of_not_eq_false busy)).2 with outside | inside
  · cases here.symm.trans outside
  · exact other (some_inj.mp (here.symm.trans inside))

omit sound in
theorem Sound.start {queue : Queue (Entry H)} (represents : Represents queue []) :
    Sound port (Flow.start queue) [] where
  represents := represents
  balanced := Balanced.start
  returning := nofun
  promise := trivial
  clean flushed member := by cases member

theorem Sound.goTo (idle : flow.returning = false) (point : Option FlushPoint) (sem : Nat)
    (promise : Promise port queued flow.dataBuffer flow.kept point) :
    Sound port { flow with flush := point, bufferSem := sem } queued :=
  { sound with
    promise := promise
    returning := fun busy => nomatch idle.symm.trans busy }

theorem Sound.leave (ret : OmxError)
    (cleaned : ret = .errorNone → port.tunneled = false → flow.bufferQ.contents = [] ∧ flow.dataBuffer = none ∧ getElemNum flow.bufferQ = 0) :
    Sound port (flow.leave ret) queued where
  represents := sound.represents
  balanced := sound.balanced
  returning busy := ⟨(sound.returning busy).1, Or.inl rfl⟩
  promise := trivial
  clean flushed member := by
    rcases mem_append.mp member with before | last
    · exact sound.clean flushed before
    · rw [mem_singleton.mp last]
      exact cleaned

end

section

variable (sound : Sound port flow queued)
include sound

theorem Sound.check {call : Call H} (taken : flow.check port call = some flow') :
    Sound port flow' queued := by
  unfold Flow.check at taken
  split at taken
  · exact some_inj.mp taken ▸ sound
  case h_2 header _ =>
    by_cases holds : flow.ClientHolds header
    · rw [if_pos holds, some_inj] at taken
      subst taken
      exact { sound with balanced := sound.balanced.offer holds.1 holds.2 }
    · rw [if_neg holds] at taken
      cases taken

variable {data : Option H} {ret : OmxError} {malloc : Bool}

omit sound in
omit [DecidableEq H] in
theorem Promise.queue {kept : Option H} (promise : Promise port queued data kept flow.flush)
    (careful : flow.closing → port.supplies) :
    Promise port (queued ++ [header]) data kept flow.flush := by
  unfold Flow.closing at careful
  cases point : flow.flush with
  | none => trivial
  | some point' =>
    rw [point] at promise careful
    cases point' with
    | data =>
      intro others
      rw [careful (by decide)] at others
      cases others
    | reset | drain | drainWait | clear =>
      have others := promise.1
      rw [careful (by decide)] at others
      cases others
    | refill | refillWait | compare | assign => exact promise
    | testQueue | testSemaphore | post | wait | dequeue => trivial

theorem Sound.queue (careful : flow.closing → port.supplies)
    (taken : flow.queue header = some flow') : ∃ queued', Sound port flow' queued' := by
  unfold Flow.queue at taken
  by_cases member : header ∈ flow.calls
  swap
  · rw [if_neg member] at taken
    cases taken
  rw [if_pos member] at taken
  rcases Nat.lt_or_eq_of_le sound.represents.length_le with space | full
  · obtain ⟨bufferQ, done, represents⟩ :=
      sound.represents.enqueue_space space (Entry.message header)
    rw [done, map_some, some_inj] at taken
    subst taken
    have inserted : ((queued ++ [header]) ++ flow.kept.toList).Perm
        (header :: (queued ++ flow.kept.toList)) := by
      rw [append_assoc]
      exact perm_middle
    refine ⟨queued ++ [header], ?_, sound.balanced.accept member inserted, sound.returning, ?_,
      sound.clean⟩
    · rw [map_append]
      exact represents
    · exact sound.promise.queue careful
  · rw [sound.represents.ring.enqueue_full full, map_some, some_inj] at taken
    subst taken
    exact ⟨queued, { sound with balanced := sound.balanced.refuse }⟩

omit sound in
omit [DecidableEq H] in
theorem getQueueTake_cases (taken : flow.getQueueTake = some (ret, flow')) :
    flow' = { flow with waited := false } ∨
      (flow.returning = false ∧ flow.flush = none ∧ flow.dataBuffer = none ∧ ∃ header bufferQ,
        dequeue flow.bufferQ = some (some (.message header), bufferQ) ∧
        flow' = { flow with waited := false, bufferQ := bufferQ, dataBuffer := some header }) := by
  dsimp only [Flow.getQueueTake] at taken
  by_cases blocked : flow.waited = false ∨ flow.returning = true ∨ flow.flush ≠ none
  · rw [if_pos blocked] at taken
    cases taken
  rw [if_neg blocked] at taken
  push Not at blocked
  obtain ⟨-, settled, idle⟩ := blocked
  by_cases busy : flow.dataBuffer ≠ none
  · rw [if_pos busy] at taken
    cases taken
    exact Or.inl rfl
  rw [if_neg busy] at taken
  split at taken
  · cases taken
  · cases taken
    exact Or.inl rfl
  · cases taken
  case h_4 header bufferQ dequeued =>
    cases taken
    exact Or.inr ⟨Bool.of_not_eq_true settled, idle, not_not.mp busy, header, bufferQ, dequeued, rfl⟩

theorem Sound.getQueueTake (taken : flow.getQueueTake = some (ret, flow')) :
    ∃ queued', Sound port flow' queued' := by
  rcases getQueueTake_cases taken with same | ⟨settled, idle, data, header, bufferQ, dequeued, same⟩
  · subst same
    exact ⟨queued, { sound with }⟩
  subst same
  cases queued with
  | nil =>
    rw [sound.represents.ring.dequeue_none (Or.inl rfl)] at dequeued
    cases dequeued
  | cons front rest =>
    obtain ⟨bufferQ', done, represents⟩ := sound.represents.dequeue_some
    rw [done] at dequeued
    cases dequeued
    have moved : (rest ++ [header]).Perm (header :: rest ++ flow.kept.toList) := by
      rw [kept_idle settled, data, toList_none, append_nil]
      exact perm_append_singleton header rest
    have balanced := sound.balanced.move moved
    refine ⟨rest, represents, ?_, (fun busy => nomatch settled.symm.trans busy), ?_, sound.clean⟩
    · simpa [Flow.kept, Flow.returned, settled] using balanced
    · rw [idle]
      trivial

/-- Behind the callback the flush has another point to go to, the processing thread has none. -/
theorem Sound.bufferReturn (idle : flow.returning = false) (held : flow.dataBuffer = some header)
    {point : Option FlushPoint} (inside : point = none ∨ point = some .reset)
    (promise : Promise port queued (some header) none point) :
    Sound port { flow.bufferReturn port with flush := point } queued := by
  have removed : (queued ++ flow.kept.toList).Perm (header :: (queued ++ [])) := by
    rw [kept_idle idle, held, append_nil]
    exact perm_append_singleton header queued
  have given := sound.balanced.giveBack removed
  simp only [Flow.bufferReturn, held]
  refine ⟨sound.represents, ?_, fun _ => ⟨rfl, inside⟩, promise, sound.clean⟩
  simpa [Flow.returned, Flow.kept] using given

theorem Sound.bufferReset (gone : flow.kept = none) {point : Option FlushPoint}
    (promise : Promise port queued none none point) :
    Sound port { flow.bufferReset with flush := point } queued := by
  have balanced := sound.balanced
  rw [gone] at balanced
  exact ⟨sound.represents, balanced, nofun, promise, sound.clean⟩

theorem Sound.semaphoreWait (idle : flow.returning = false) (point : FlushPoint)
    (promise : Promise port queued flow.dataBuffer flow.kept (some point))
    (taken : flow.semaphoreWait point = some flow') : Sound port flow' queued := by
  unfold Flow.semaphoreWait at taken
  by_cases zero : flow.bufferSem = 0
  · rw [if_pos zero] at taken
    cases taken
  · rw [if_neg zero] at taken
    cases taken
    exact sound.goTo idle (some point) (flow.bufferSem - 1) promise

theorem Sound.flushMessage (idle : flow.returning = false) (others : port.supplies = false)
    (taken : flow.flushMessage port = some flow') : ∃ queued', Sound port flow' queued' := by
  unfold Flow.flushMessage at taken
  cases queued with
  | nil =>
    rw [sound.represents.ring.dequeue_none (Or.inl rfl)] at taken
    cases taken
    exact ⟨[], sound.goTo idle (some .testQueue) flow.bufferSem trivial⟩
  | cons header rest =>
    obtain ⟨bufferQ, done, represents⟩ := sound.represents.dequeue_some
    rw [done] at taken
    simp only [others, Bool.false_eq_true, if_false, some_inj] at taken
    subst taken
    have given := sound.balanced.giveBack (List.Perm.refl _)
    refine ⟨rest, represents, ?_, (fun busy => nomatch idle.symm.trans busy), trivial, sound.clean⟩
    simp only [Flow.returned, map_append, map_cons, map_nil] at given ⊢
    exact given

theorem Sound.flushData_supplier (idle : flow.returning = false) (supplies : port.supplies = true)
    (room : flow.dataBuffer ≠ none → flow.bufferQ.contents.length < ringSize)
    (taken : flow.flushData port malloc = some flow') : ∃ queued', Sound port flow' queued' := by
  rw [Flow.flushData, if_pos supplies] at taken
  cases data : flow.dataBuffer with
  | none =>
    rw [data] at taken
    cases taken
    have still := sound.goTo idle (some .refill) flow.bufferSem supplies
    rw [data] at still
    exact ⟨queued, still⟩
  | some header =>
    rw [data] at taken
    cases malloc with
    | false => cases taken
    | true =>
      have space := room (by rw [data]; exact some_ne_none header)
      rw [sound.represents.ring.contents_eq] at space
      obtain ⟨bufferQ, done, represents⟩ :=
        sound.represents.enqueue_space space (Entry.message header)
      simp only [if_true, done, map_some, some_inj] at taken
      subst taken
      have moved : (queued ++ [header] ++ []).Perm (queued ++ flow.kept.toList) := by
        rw [kept_idle idle, data, append_nil]
        exact List.Perm.refl _
      have balanced := sound.balanced.move moved
      refine ⟨queued ++ [header], ?_, ?_, (fun busy => nomatch idle.symm.trans busy), supplies,
        sound.clean⟩
      · rw [map_append]
        exact represents
      · simpa [Flow.kept, Flow.returned, idle] using balanced

theorem Sound.flushData (point : flow.flush = some .data)
    (room : port.supplies = true → flow.dataBuffer ≠ none → flow.bufferQ.contents.length < ringSize)
    (taken : flow.flushData port malloc = some flow') : ∃ queued', Sound port flow' queued' := by
  have idle := sound.idle point (by decide)
  cases supplies : port.supplies with
  | true => exact sound.flushData_supplier idle supplies (room supplies) taken
  | false =>
    rw [Flow.flushData, supplies] at taken
    cases taken
    have promise := sound.promise
    rw [point] at promise
    have empty : queued = [] := promise supplies
    cases data : flow.dataBuffer with
    | none =>
      have still := sound.goTo idle (some .drain) flow.bufferSem ⟨supplies, empty, data⟩
      exact ⟨queued, by simpa [Flow.bufferReturn, data] using still⟩
    | some header =>
      exact ⟨queued, sound.bufferReturn idle data (Or.inr rfl) ⟨supplies, empty, rfl⟩⟩

theorem Sound.setElemNum {elemNum : Int} (same : getElemNum flow.bufferQ = elemNum) :
    Sound port { flow with bufferQ := setElemNum flow.bufferQ elemNum } queued := by
  have unchanged : OsalQueue.setElemNum flow.bufferQ elemNum = flow.bufferQ := by
    rw [← same]
    rfl
  rw [unchanged]
  exact sound

theorem Sound.clear (point : flow.flush = some .clear) :
    Sound port ({ flow with bufferQ := OsalQueue.setElemNum flow.bufferQ 0 }.leave .errorNone)
      queued := by
  have promise := sound.promise
  rw [point] at promise
  obtain ⟨-, empty, vacant⟩ := promise
  subst empty
  have count : getElemNum flow.bufferQ = 0 := sound.represents.count
  have kept := sound.setElemNum count
  exact kept.leave .errorNone fun _ _ => ⟨kept.represents.ring.contents_eq, vacant, rfl⟩

omit sound in
omit [DecidableEq H] in
theorem supplies_tunneled (supplies : port.supplies = true) : port.tunneled ≠ false := by
  intro direct
  rw [Port.supplies, direct] at supplies
  cases supplies

theorem Sound.testQueue :
    Promise port queued flow.dataBuffer flow.kept
      (some (if 0 < getElemNum flow.bufferQ then .testSemaphore else .data)) := by
  by_cases some_left : 0 < getElemNum flow.bufferQ
  · rw [if_pos some_left]
    trivial
  · rw [if_neg some_left]
    intro _
    have count : getElemNum flow.bufferQ = ((queued.map Entry.message).length : Int) :=
      sound.represents.count
    rw [length_map] at count
    apply eq_nil_of_length_eq_zero
    omega

theorem Sound.flushStep (careful : Careful port flow (.flush malloc))
    (taken : flow.flushStep port malloc = some flow') : ∃ queued', Sound port flow' queued' := by
  obtain ⟨noMessage, room, counted⟩ := careful
  have promise := sound.promise
  unfold Flow.flushStep at taken
  cases point : flow.flush with
  | none =>
    rw [point] at taken
    dsimp only at taken
    split at taken
    case isTrue => cases taken
    case isFalse idle =>
      cases taken
      exact ⟨queued, sound.goTo (Bool.of_not_eq_true idle) (some .testQueue) flow.bufferSem trivial⟩
  | some point' =>
    have idle := sound.idle point
    rw [point] at taken promise
    cases point' with
    | reset =>
      cases taken
      obtain ⟨others, empty, gone⟩ := promise
      exact ⟨queued, sound.bufferReset gone ⟨others, empty, rfl⟩⟩
    | testQueue =>
      cases taken
      exact ⟨queued, sound.goTo (idle nofun) _ flow.bufferSem sound.testQueue⟩
    | testSemaphore =>
      cases taken
      refine ⟨queued, sound.goTo (idle nofun) _ flow.bufferSem ?_⟩
      split
      · trivial
      · trivial
    | post =>
      cases taken
      exact ⟨queued, sound.goTo (idle nofun) (some .wait) (flow.bufferSem + 1) trivial⟩
    | wait => exact ⟨queued, sound.semaphoreWait (idle nofun) .dequeue trivial taken⟩
    | dequeue => exact sound.flushMessage (idle nofun) (noMessage point) taken
    | data => exact sound.flushData point (room point) taken
    | drain =>
      cases taken
      refine ⟨queued, sound.goTo (idle nofun) _ flow.bufferSem ?_⟩
      split
      · exact promise
      · exact promise
    | drainWait => exact ⟨queued, sound.semaphoreWait (idle nofun) .drain promise taken⟩
    | clear =>
      cases taken
      exact ⟨queued, sound.clear point⟩
    | refill =>
      cases taken
      refine ⟨queued, sound.goTo (idle nofun) _ flow.bufferSem ?_⟩
      split
      · exact promise
      · exact promise
    | refillWait => exact ⟨queued, sound.semaphoreWait (idle nofun) .refill promise taken⟩
    | compare =>
      have tunnel := supplies_tunneled promise
      dsimp only at taken
      split at taken
      · cases taken
        exact ⟨queued, sound.goTo (idle nofun) (some .assign) flow.bufferSem promise⟩
      · cases taken
        exact ⟨queued, sound.leave .errorNone fun _ direct => absurd direct tunnel⟩
    | assign =>
      have tunnel := supplies_tunneled promise
      cases taken
      exact ⟨queued, (sound.setElemNum (counted point)).leave .errorNone
        fun _ direct => absurd direct tunnel⟩

theorem Sound.step {event : Event H} (careful : Careful port flow event)
    (taken : flowStep port flow event = some flow') : ∃ queued', Sound port flow' queued' := by
  cases event with
  | check call => exact ⟨queued, sound.check taken⟩
  | queue header => exact sound.queue careful taken
  | post =>
    simp only [flowStep, Flow.post] at taken
    split at taken
    · cases taken
    · cases taken
      exact ⟨queued, { sound with }⟩
  | getQueueWait currentState =>
    simp only [flowStep, Flow.getQueueWait] at taken
    split at taken
    · cases taken
      exact ⟨queued, sound⟩
    · split at taken
      · cases taken
      · cases taken
        exact ⟨queued, { sound with }⟩
  | getQueueTake =>
    obtain ⟨⟨ret, after⟩, done, rfl⟩ := map_eq_some_iff.mp taken
    exact sound.getQueueTake done
  | bufferReturn =>
    simp only [flowStep] at taken
    split at taken
    case isFalse => cases taken
    case isTrue idle =>
      cases taken
      cases data : flow.dataBuffer with
      | none => exact ⟨queued, by simpa [Flow.bufferReturn, data] using sound⟩
      | some header =>
        have returned := sound.bufferReturn idle.2 data (Or.inl idle.1) (by rw [idle.1]; trivial)
        simp only [Flow.bufferReturn, data] at returned ⊢
        exact ⟨queued, returned⟩
  | bufferReset =>
    simp only [flowStep] at taken
    split at taken
    case isFalse => cases taken
    case isTrue busy =>
      cases taken
      have gone : flow.kept = none := by rw [Flow.kept, busy.2]; rfl
      exact ⟨queued, sound.bufferReset gone (by rw [busy.1]; trivial)⟩
  | commandFlush =>
    cases taken
    exact ⟨queued, { sound with }⟩
  | flush malloc => exact sound.flushStep careful taken

end

def plainCall (port : Port H) (header : H) : Call H where
  component := some .errorNone
  componentPrivate := true
  currentState := .executing
  executingToIdle := false
  pBuffer := some header
  bufferPortIndex := port.portIndex
  bufferVersion := .errorNone
  enabled := true
  beingDisabled := false
  malloc := true

def inputPort : Port Nat := ⟨inputPortIndex, false, false, [some 5, some 6], 2⟩

def supplierPort : Port Nat := ⟨inputPortIndex, true, true, [some 5, some 6], 2⟩

def freshQueue : Queue (Entry Nat) :=
  (queueCreate ⟨fun _ => ⟨none, none⟩, none, none, 0⟩ .errorNone fun _ => true).2

def quietRun : List (Event Nat) :=
  [.check (plainCall inputPort 5), .queue 5, .post, .getQueueWait .executing, .getQueueTake,
    .check (plainCall inputPort 6), .queue 6, .bufferReturn, .bufferReset, .post, .commandFlush] ++
  List.replicate 9 (.flush true)

def racingRun : List (Event Nat) :=
  [.check (plainCall inputPort 5), .commandFlush, .flush true, .flush true, .flush true,
    .flush true, .queue 5, .flush true, .post]

def supplierRun : List (Event Nat) :=
  [.check (plainCall supplierPort 5), .queue 5, .post, .commandFlush] ++
  List.replicate 5 (.flush true)

def returnRun : List (Event Nat) :=
  [.check (plainCall inputPort 5), .queue 5, .post, .getQueueWait .executing, .getQueueTake,
    .bufferReturn]

/-- In every run of careful steps from a fresh port no header is lost, none is held twice except
    between the callback that hands it back and the reset of `secDataBuffer`, and a flush of a port
    without a tunnel leaves the queue empty. -/
theorem headers_conserved (port : Port H) (memory queue : Queue (Entry H))
    (mutexCreate : OmxError) (malloc : Nat → Bool)
    (created : queueCreate memory mutexCreate malloc = (.errorNone, queue))
    (events : List (Event H)) (flow : Flow H)
    (runs : RunsTo (flowStep port) (Careful port) (Flow.start queue) events flow) :
    (flow.Conserved ↔ flow.returning = false) ∧ flow.FlushesClean port := by
  have reached : ∃ queued, Sound port flow queued := by
    apply runs.preserves ⟨[], Sound.start (queueCreate_represents created)⟩
    intro before event after careful inside taken
    obtain ⟨queued, sound⟩ := inside
    exact sound.step careful taken
  obtain ⟨queued, sound⟩ := reached
  exact ⟨sound.conserved_iff, sound.clean⟩

theorem headers_conserved_quiet : ∃ flow,
    RunsTo (flowStep inputPort) (Careful inputPort) (Flow.start freshQueue) quietRun flow ∧
      flow.Conserved ∧ flow.FlushesClean inputPort ∧ flow.returned = [5, 6] := by
  have ends : (runWithin (flowStep inputPort) (Careful inputPort) (Flow.start freshQueue)
      quietRun).map (fun flow => (flow.returned, flow.returning)) = some ([5, 6], false) := by
    decide +kernel
  obtain ⟨flow, done, same⟩ := map_eq_some_iff.mp ends
  simp only [Prod.mk.injEq] at same
  have runs := RunsTo.of_runWithin quietRun _ done
  have proved := headers_conserved inputPort _ freshQueue .errorNone (fun _ => true) rfl quietRun
    flow runs
  exact ⟨flow, runs, proved.1.mpr same.2, proved.2, same.1⟩

theorem not_conserved {port : Port Nat} {events : List (Event Nat)}
    {accepted held returned : List Nat}
    (ends : (run (flowStep port) (Flow.start freshQueue) events).map
      (fun flow => (flow.accepted, flow.held, flow.returned)) = some (accepted, held, returned))
    (differ : accepted.count 5 ≠ held.count 5 + returned.count 5) :
    ∃ flow, run (flowStep port) (Flow.start freshQueue) events = some flow ∧ ¬ flow.Conserved := by
  obtain ⟨flow, done, same⟩ := map_eq_some_iff.mp ends
  simp only [Prod.mk.injEq] at same
  obtain ⟨rfl, rfl, rfl⟩ := same
  exact ⟨flow, done, fun conserved => differ (conserved 5).1⟩

/-- The header of the racing call stays in a queue that says it is empty, the buffer supplier has
    neither queued nor handed back the header that it accepted, and a header that is handed back is
    still in `secDataBuffer`. -/
theorem flush_loses_headers :
    (∃ flow, run (flowStep inputPort) (Flow.start freshQueue) racingRun = some flow ∧
      ¬ flow.FlushesClean inputPort ∧ flow.bufferQ.contents = [.message 5] ∧
      getElemNum flow.bufferQ = 0) ∧
    (∃ flow, run (flowStep supplierPort) (Flow.start freshQueue) supplierRun = some flow ∧
      ¬ flow.Conserved) ∧
    ∃ flow, run (flowStep inputPort) (Flow.start freshQueue) returnRun = some flow ∧
      ¬ flow.Conserved := by
  refine ⟨?_, @not_conserved _ _ [5] [] [] (by decide +kernel) (by decide),
    @not_conserved _ _ [5] [5] [5] (by decide +kernel) (by decide)⟩
  have ends : (run (flowStep inputPort) (Flow.start freshQueue) racingRun).map
      (fun flow => (flow.bufferQ.contents, flow.bufferQ.numElem, flow.flushes)) =
      some ([.message 5], 0, [⟨.errorNone, [.message 5], none, 0⟩]) := by decide +kernel
  obtain ⟨flow, done, same⟩ := map_eq_some_iff.mp ends
  simp only [Prod.mk.injEq] at same
  obtain ⟨contents, count, flushes⟩ := same
  refine ⟨flow, done, ?_, contents, count⟩
  intro clean
  have left := clean ⟨.errorNone, [.message 5], none, 0⟩ (by simp [flushes]) rfl rfl
  cases left.1

end BufferFlow
