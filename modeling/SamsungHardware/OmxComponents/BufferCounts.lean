import SamsungHardware.OmxComponents.BufferFlow
import SamsungHardware.OmxComponents.PortBuffers

/- The number of buffers of a port, from SEC_OMX_Basecomponent.c, SEC_OMX_H264dec.c, SEC_OMX_Vdec.c
   and SEC_OMX_Baseport.c. SEC_OMX_SetParameter takes the number from the client,
   SEC_OMX_UseBuffer and SEC_OMX_AllocateBuffer search that many entries of two arrays for a free
   one, and SEC_OMX_EmptyThisBuffer and SEC_OMX_FillThisBuffer search them for a header and queue
   a message with it. A table of more entries than the arrays have says which entries the searches
   get to; what is behind the arrays is not in the model. -/
namespace BufferCounts
open Nat hiding ne_of_lt
open ResourceManager OsalQueue PortBuffers BufferFlow StepRuns Option List

abbrev unsupportedSetting : OmxError := .other 0x80001019

def maxBufferNum : Nat := 20

section

structure PortDefinition where
  (nPortIndex nBufferCountActual nBufferCountMin : Nat)
  bEnabled : Bool
  deriving DecidableEq, Repr

structure Component where
  currentState : OmxState
  /-- One definition for each of the `nPorts` ports. -/
  ports : List PortDefinition
  /-- The colour format of the output port is one that the decoders know the buffer size of. -/
  outputFormatKnown : Bool
  deriving DecidableEq, Repr

structure Setter where
  /-- `none` for a null handle, else what `SEC_OMX_Check_SizeVersion` says of it. -/
  component : Option OmxError
  componentPrivate : Bool
  /-- What `SEC_OMX_Check_SizeVersion` says of the port definition. -/
  definitionVersion : OmxError
  deriving DecidableEq, Repr

/-- The case `OMX_IndexParamPortDefinition` up to the copy, which takes the whole definition. -/
def setPortDefinition (setter : Setter) (component : Component) (definition : PortDefinition) :
    OmxError × Component :=
  match component.ports[definition.nPortIndex]? with
  | none => (badPortIndex, component)
  | some port =>
    if setter.definitionVersion ≠ .errorNone then (setter.definitionVersion, component)
    else if component.currentState ≠ .loaded ∧ component.currentState ≠ .waitForResources ∧
        port.bEnabled then
      (incorrectStateOperation, component)
    else if definition.nBufferCountActual < port.nBufferCountMin then (badParameter, component)
    else (.errorNone, { component with
      ports := component.ports.set definition.nPortIndex definition })

def Setter.check (setter : Setter) : OmxError :=
  match setter.component with
  | none => badParameter
  | some version =>
    if version ≠ .errorNone then version
    else if setter.componentPrivate = false then badParameter
    else .errorNone

def setParameter (setter : Setter) (component : Component) (parameter : Option PortDefinition) :
    OmxError × Component :=
  if setter.check ≠ .errorNone then (setter.check, component)
  else match parameter with
    | none => (badParameter, component)
    | some definition =>
      if component.currentState = .invalid then (.invalidState, component)
      else setPortDefinition setter component definition

/-- `SEC_MFC_H264Dec_SetParameter`, and those of the other decoders: the copy stays when the buffer
    size of the output port cannot be told. -/
def decoderSetParameter (setter : Setter) (component : Component) :
    Option PortDefinition → OmxError × Component
  | none => (badParameter, component)
  | some definition =>
    if setter.check ≠ .errorNone then (setter.check, component)
    else if component.currentState = .invalid then (.invalidState, component)
    else
      let done := setPortDefinition setter component definition
      if done.1 = .errorNone ∧ definition.nPortIndex = inputPortIndex ∧
          component.outputFormatKnown = false then (unsupportedSetting, done.2)
      else done

inductive Layer where
  | base | decoder
  deriving DecidableEq, Repr

def Layer.setParameter : Layer → Setter → Component → Option PortDefinition → OmxError × Component
  | .base => BufferCounts.setParameter
  | .decoder => decoderSetParameter

variable {setter : Setter} {component : Component} {definition : PortDefinition}

theorem setPortDefinition_accepted
    (accepted : (setPortDefinition setter component definition).1 = .errorNone) :
    (setPortDefinition setter component definition).2.ports[definition.nPortIndex]? =
      some definition := by
  unfold setPortDefinition at accepted ⊢
  cases found : component.ports[definition.nPortIndex]? with
  | none =>
    rw [found] at accepted
    cases accepted
  | some port =>
    have inside := (List.getElem?_eq_some_iff.mp found).1
    rw [found] at accepted
    dsimp only at accepted ⊢
    split_ifs at accepted ⊢ with version
    · exact absurd accepted version
    · exact getElem?_set_self inside

theorem setParameter_accepted {layer : Layer}
    (accepted : (layer.setParameter setter component (some definition)).1 = .errorNone) :
    (layer.setParameter setter component (some definition)).2.ports[definition.nPortIndex]? =
      some definition := by
  cases layer with
  | base =>
    dsimp only [Layer.setParameter, setParameter] at accepted ⊢
    split_ifs at accepted ⊢ with failed
    · exact absurd accepted failed
    · exact setPortDefinition_accepted accepted
  | decoder =>
    dsimp only [Layer.setParameter, decoderSetParameter] at accepted ⊢
    split_ifs at accepted ⊢ with failed
    · exact absurd accepted failed
    · exact setPortDefinition_accepted accepted

end

variable {H B : Type} {n : Nat}

section

variable [DecidableEq H] [DecidableEq B]

structure Usage (H B : Type) (n : Nat) where
  buffers : PortTable H B n
  flow : Flow H

def Usage.start (n : Nat) (memory : H → Option B) (queue : Queue (Entry H)) : Usage H B n :=
  ⟨PortTable.fresh n memory, Flow.start queue⟩

inductive Event (H B : Type) where
  | register (call : PortBuffers.Call H B)
  | flow (event : BufferFlow.Event H)

def Usage.port (usage : Usage H B n) (port : Port H) : Port H :=
  { port with
    bufferHeader := usage.buffers.table.slots.map Slot.bufferHeader
    assignedBufferNum := usage.buffers.assignedBufferNum.toNat }

def registrar : PortBuffers.Call H B → Option Caller
  | .useBuffer caller _ _ | .allocateBuffer caller _ _ => some caller
  | .freeBuffer _ _ _ => none

def Usage.allows (port : Port H) (usage : Usage H B n) : Event H B → Bool
  | .register call => (registrar call).any fun caller => caller.tunneledSupplier == port.supplies
  | .flow (.check call) => call.pBuffer.any usage.buffers.registered
  | .flow .commandFlush | .flow (.flush _) => false
  | .flow _ => true

def Usage.step (port : Port H) (usage : Usage H B n) (event : Event H B) : Option (Usage H B n) :=
  if usage.allows port event then
    match event with
    | .register call => (usage.buffers.step call).map fun buffers => { usage with buffers := buffers }
    | .flow event =>
      (flowStep (usage.port port) usage.flow event).map fun flow => { usage with flow := flow }
  else none

def searched (holds : Slot H → Bool) (slots : List (Slot H)) : Nat :=
  min (slots.findIdx holds + 1) slots.length

def reachesSearch (port : Port H) (beingFlushed : Bool) (call : BufferFlow.Call H) : Bool :=
  (thisBuffer { port with bufferHeader := [call.pBuffer] } beingFlushed
    { call with malloc := true }).isOk

def Usage.slotsRead (port : Port H) (usage : Usage H B n) : Event H B → Nat
  | .register (.useBuffer caller header _) =>
    if useBufferCheck caller = .errorNone ∧ header.isSome then
      searched (fun slot => !slot.used) usage.buffers.table.slots
    else 0
  | .register (.allocateBuffer caller buffer header) =>
    if allocateBufferCheck caller = .errorNone ∧ buffer.isSome ∧ header.isSome then
      searched (fun slot => !slot.used) usage.buffers.table.slots
    else 0
  | .flow (.check call) =>
    if reachesSearch (usage.port port) usage.flow.bIsPortFlushed call then
      searched (fun slot => slot.bufferHeader = call.pBuffer) usage.buffers.table.slots
    else 0
  | _ => 0

theorem Usage.step_flow {port : Port H} {usage : Usage H B n} {event : BufferFlow.Event H}
    {flow : Flow H} (allowed : usage.allows port (.flow event) = true)
    (taken : flowStep (usage.port port) usage.flow event = some flow) :
    usage.step port (.flow event) = some { usage with flow := flow } := by
  rw [Usage.step, if_pos allowed]
  exact congrArg (Option.map _) taken

def Inside (port : Port H) (before : Usage H B n) (event : Event H B) (_ : Usage H B n) : Prop :=
  before.slotsRead port event ≤ maxBufferNum

def HasPlace (before : Usage H B n) : Event H B → Usage H B n → Prop
  | .flow (.queue header), _ =>
    (enqueue before.flow.bufferQ (.message header)).map Prod.fst = some 0
  | _, _ => True

end

section

variable [DecidableEq H] {buffers : PortTable H B n} {header other : H}

theorem assign_slots {i : Nat}
    (found : buffers.table.slots.findIdx? (fun slot => !slot.used) = some i)
    (header : H) (pBuffer : Option B) (state : BufferState) :
    (buffers.assign header pBuffer state).table.slots =
      buffers.table.slots.set i ⟨some header, state⟩ := by
  unfold PortTable.assign
  rw [found]
  dsimp only
  split
  · rfl
  · rfl

omit [DecidableEq H] in
theorem searched_le (holds : Slot H → Bool) (buffers : PortTable H B n) :
    searched holds buffers.table.slots ≤ n := by
  have size := buffers.table.size
  unfold searched
  omega

theorem Usage.slotsRead_le (port : Port H) (usage : Usage H B n) (event : Event H B) :
    usage.slotsRead port event ≤ n := by
  unfold Usage.slotsRead
  split
  case h_4 => exact zero_le n
  all_goals
    split
    · exact searched_le _ usage.buffers
    · exact zero_le n

theorem registered_assign (known : buffers.registered other = true) (pBuffer : Option B)
    (state : BufferState) : (buffers.assign header pBuffer state).registered other = true := by
  rcases assign_cases buffers header pBuffer state with same | ⟨i, free, there, unused, slots, -⟩
  · rw [same]
    exact known
  obtain ⟨slot, member, holds⟩ := any_eq_true.mp known
  obtain ⟨j, inside, rfl⟩ := mem_iff_getElem.mp member
  obtain ⟨used, own⟩ := Bool.and_eq_true_iff.mp holds
  have apart : i ≠ j := by
    intro same
    subst same
    rw [getElem?_eq_getElem inside, some_inj] at there
    rw [there, unused] at used
    cases used
  apply any_eq_true.mpr
  refine ⟨_, ?_, holds⟩
  rw [slots]
  apply mem_of_getElem? (i := j)
  rw [getElem?_set_ne apart, getElem?_eq_getElem inside]

variable [DecidableEq B]

theorem registered_step {call : PortBuffers.Call H B} {after : PortTable H B n} {caller : Caller}
    (registers : registrar call = some caller) (known : buffers.registered other = true)
    (taken : buffers.step call = some after) :
    after.registered other = true := by
  cases call with
  | useBuffer caller header pBuffer =>
    simp only [PortTable.step] at taken
    split at taken
    · cases taken
    cases taken
    unfold PortTable.useBuffer
    split
    · exact known
    cases header with
    | none => exact known
    | some header => exact registered_assign known pBuffer _
  | allocateBuffer caller buffer header =>
    simp only [PortTable.step] at taken
    split at taken
    · cases taken
    cases taken
    unfold PortTable.allocateBuffer
    split
    · exact known
    cases buffer with
    | none => exact known
    | some buffer =>
      cases header with
      | none => exact known
      | some header => exact registered_assign known (some buffer) _
  | freeBuffer caller pBufferHdr stray => cases registers

omit [DecidableEq B] in
theorem length_le_of_registered {headers : List H} (distinct : headers.Nodup)
    (known : ∀ header ∈ headers, buffers.registered header = true) : headers.length ≤ n := by
  have subset : headers ⊆ buffers.table.slots.filterMap Slot.bufferHeader := by
    intro header member
    obtain ⟨slot, inside, holds⟩ := any_eq_true.mp (known header member)
    have own : slot.bufferHeader = some header :=
      of_decide_eq_true (Bool.and_eq_true_iff.mp holds).2
    exact mem_filterMap.mpr ⟨slot, inside, own⟩
  calc headers.length
      ≤ (buffers.table.slots.filterMap Slot.bufferHeader).length :=
        (subperm_of_subset distinct subset).length_le
    _ ≤ buffers.table.slots.length := length_filterMap_le _ _
    _ = n := buffers.table.size

end

section

variable [DecidableEq H] [DecidableEq B] {port : Port H} {usage usage' : Usage H B n} {header : H}

/-- The queue is in order, no flush is going on, all headers that clients handed over are
    registered, and a port that supplies the buffers has none registered. -/
structure Kept (port : Port H) (usage : Usage H B n) : Prop where
  sound : ∃ queued, Sound port usage.flow queued
  quiet : usage.flow.flush = none
  calls : ∀ header ∈ usage.flow.calls, usage.buffers.registered header = true
  accepted : ∀ header ∈ usage.flow.accepted, usage.buffers.registered header = true
  supplier : port.supplies = true → ∀ header, usage.buffers.registered header = false

omit [DecidableEq B] in
theorem Kept.start {queue : Queue (Entry H)} (represents : Represents queue [])
    (memory : H → Option B) : Kept port (Usage.start n memory queue) where
  sound := ⟨[], Sound.start represents⟩
  quiet := rfl
  calls _ member := by cases member
  accepted _ member := by cases member
  supplier _ header := by
    apply any_eq_false.mpr
    intro slot member
    rw [eq_of_mem_replicate member]
    simp [Slot.free, Slot.used]

variable {flow : Flow H} {queued : List H} {call : BufferFlow.Call H} {event : BufferFlow.Event H}
  {caller : Caller}

omit [DecidableEq B] in
theorem sound_port (usage : Usage H B n) :
    Sound (usage.port port) flow queued ↔ Sound port flow queued := by
  constructor
  · intro sound
    exact { sound with }
  · intro sound
    exact { sound with }

theorem of_guard {α : Type} {failed : Prop} [Decidable failed] {error : OmxError}
    {rest : Except OmxError α} {value : α}
    (done : (if failed then (throw error >>= fun _ : PUnit => rest) else rest) = .ok value) :
    rest = .ok value := by
  by_cases fails : failed
  · rw [if_pos fails] at done
    cases done
  · rw [if_neg fails] at done
    exact done

theorem thisBuffer_ok {beingFlushed : Bool} (done : thisBuffer port beingFlushed call = .ok header) :
    call.pBuffer = some header := by
  unfold thisBuffer at done
  cases version : call.component with
  | none =>
    rw [version] at done
    cases done
  | some version' =>
    cases given : call.pBuffer with
    | none =>
      rw [version, given] at done
      have missing := of_guard (of_guard (of_guard done))
      cases missing
    | some pBuffer =>
      rw [version, given] at done
      -- four more checks stand behind the null pointer
      have passed := of_guard (of_guard (of_guard done))
      have found := of_guard (of_guard (of_guard (of_guard passed)))
      split at found
      case isFalse => cases found
      split at found
      · cases found
        rfl
      · cases found

theorem check_cases {flow flow' : Flow H} (taken : flow.check port call = some flow') :
    flow' = flow ∨ ∃ header, call.pBuffer = some header ∧ flow.ClientHolds header ∧
      flow' = { flow with calls := header :: flow.calls } := by
  unfold Flow.check at taken
  cases done : thisBuffer port flow.bIsPortFlushed call with
  | error _ =>
    rw [done] at taken
    cases taken
    exact Or.inl rfl
  | ok header =>
    rw [done] at taken
    by_cases holds : flow.ClientHolds header
    · simp only [if_pos holds, some_inj] at taken
      exact Or.inr ⟨header, thisBuffer_ok done, holds, taken.symm⟩
    · simp only [if_neg holds] at taken
      cases taken

theorem queue_frame {flow flow' : Flow H} (taken : flow.queue header = some flow') :
    header ∈ flow.calls ∧ flow'.flush = flow.flush ∧ flow'.calls ⊆ flow.calls ∧
      flow'.accepted ⊆ flow.accepted ++ [header] := by
  unfold Flow.queue at taken
  split_ifs at taken with member
  obtain ⟨⟨ret, bufferQ⟩, done, result⟩ := map_eq_some_iff.mp taken
  dsimp only at result
  split_ifs at result
  · cases result
    exact ⟨member, rfl, erase_subset, subset_append_left _ _⟩
  · cases result
    exact ⟨member, rfl, erase_subset, List.Subset.refl _⟩

structure Records (known : H → Prop) (flow flow' : Flow H) : Prop where
  flush : flow'.flush = flow.flush
  calls : ∀ header ∈ flow'.calls, header ∈ flow.calls ∨ known header
  accepted : ∀ header ∈ flow'.accepted, header ∈ flow.accepted ∨ header ∈ flow.calls

omit [DecidableEq H] in
theorem Records.same {known : H → Prop} {flow flow' : Flow H} (flush : flow'.flush = flow.flush)
    (calls : flow'.calls = flow.calls) (accepted : flow'.accepted = flow.accepted) :
    Records known flow flow' :=
  ⟨flush, fun _ member => Or.inl (calls ▸ member), fun _ member => Or.inl (accepted ▸ member)⟩

omit [DecidableEq B] in
theorem flowStep_records (allowed : usage.allows port (.flow event) = true)
    (taken : flowStep (usage.port port) usage.flow event = some flow) :
    Records (usage.buffers.registered · = true) usage.flow flow := by
  cases event with
  | check call =>
    rcases check_cases taken with same | ⟨header, given, -, same⟩
    · exact same ▸ .same rfl rfl rfl
    · simp only [Usage.allows, given, any_some] at allowed
      subst same
      refine ⟨rfl, fun other member => ?_, fun _ => Or.inl⟩
      rcases mem_cons.mp member with rfl | before
      · exact Or.inr allowed
      · exact Or.inl before
  | queue header =>
    obtain ⟨offered, flush, calls, accepted⟩ := queue_frame taken
    refine ⟨flush, fun _ member => Or.inl (calls member), fun other member => ?_⟩
    rcases mem_append.mp (accepted member) with before | last
    · exact Or.inl before
    · exact Or.inr (mem_singleton.mp last ▸ offered)
  | post =>
    simp only [flowStep, Flow.post] at taken
    split_ifs at taken
    cases taken
    exact .same rfl rfl rfl
  | getQueueWait currentState =>
    simp only [flowStep, Flow.getQueueWait] at taken
    split_ifs at taken
    all_goals
      cases taken
      exact .same rfl rfl rfl
  | getQueueTake =>
    obtain ⟨⟨ret, flow⟩, got, rfl⟩ := map_eq_some_iff.mp taken
    rcases getQueueTake_cases got with same | ⟨-, -, -, header, bufferQ, -, same⟩
    all_goals
      subst same
      exact .same rfl rfl rfl
  | bufferReturn =>
    simp only [flowStep, Flow.bufferReturn] at taken
    split_ifs at taken
    cases data : usage.flow.dataBuffer with
    | none | some header =>
      rw [data] at taken
      cases taken
      exact .same rfl rfl rfl
  | bufferReset =>
    simp only [flowStep] at taken
    split_ifs at taken
    cases taken
    exact .same rfl rfl rfl
  | commandFlush | flush malloc => cases allowed

theorem useBufferCheck_supplier (supplier : caller.tunneledSupplier = true) :
    useBufferCheck caller ≠ .errorNone := by
  unfold useBufferCheck
  split_ifs with failed
  · exact failed
  all_goals decide

theorem allocateBufferCheck_supplier (supplier : caller.tunneledSupplier = true) :
    allocateBufferCheck caller ≠ .errorNone := by
  unfold allocateBufferCheck
  split_ifs with failed
  · exact failed
  all_goals decide

omit [DecidableEq B] in
theorem registers_of_allowed {call : PortBuffers.Call H B}
    (allowed : usage.allows port (.register call) = true) :
    ∃ caller, registrar call = some caller ∧ caller.tunneledSupplier = port.supplies := by
  cases given : registrar call with
  | none =>
    rw [Usage.allows, given] at allowed
    cases allowed
  | some caller =>
    rw [Usage.allows, given] at allowed
    exact ⟨caller, rfl, eq_of_beq allowed⟩

theorem step_refused {buffers after : PortTable H B n} {call : PortBuffers.Call H B}
    (registers : registrar call = some caller) (supplier : caller.tunneledSupplier = true)
    (taken : buffers.step call = some after) : after.table = buffers.table := by
  cases call with
  | useBuffer caller' header pBuffer =>
    cases registers
    simp only [PortTable.step, PortTable.useBuffer,
      if_pos (useBufferCheck_supplier supplier)] at taken
    split_ifs at taken
    cases taken
    rfl
  | allocateBuffer caller' buffer header =>
    cases registers
    simp only [PortTable.step, PortTable.allocateBuffer,
      if_pos (allocateBufferCheck_supplier supplier)] at taken
    split_ifs at taken
    cases taken
    rfl
  | freeBuffer caller' pBufferHdr stray => cases registers

variable (kept : Kept port usage)
include kept

omit [DecidableEq B] in
theorem Kept.careful (allowed : usage.allows port (.flow event) = true) :
    Careful (usage.port port) usage.flow event := by
  cases event with
  | queue header => simp [Careful, Flow.closing, kept.quiet]
  | flush malloc => cases allowed
  | _ => trivial

theorem Kept.step {event : Event H B} (taken : usage.step port event = some usage') :
    Kept port usage' := by
  unfold Usage.step at taken
  split_ifs at taken with allowed
  cases event with
  | register call =>
    obtain ⟨buffers, stepped, rfl⟩ := map_eq_some_iff.mp taken
    obtain ⟨caller, registers, supplier⟩ := registers_of_allowed allowed
    exact { kept with
      calls := fun header member => registered_step registers (kept.calls header member) stepped
      accepted := fun header member =>
        registered_step registers (kept.accepted header member) stepped
      supplier := fun supplies header => by
        unfold PortTable.registered
        rw [step_refused registers (supplier.trans supplies) stepped]
        exact kept.supplier supplies header }
  | flow event =>
    obtain ⟨flow, stepped, rfl⟩ := map_eq_some_iff.mp taken
    obtain ⟨queued, sound⟩ := kept.sound
    obtain ⟨queued', sound'⟩ := ((sound_port usage).mpr sound).step (kept.careful allowed) stepped
    have records := flowStep_records allowed stepped
    refine ⟨⟨queued', (sound_port usage).mp sound'⟩, records.flush.trans kept.quiet, ?_, ?_,
      kept.supplier⟩
    · intro header member
      exact (records.calls header member).elim (kept.calls header) id
    · intro header member
      exact (records.accepted header member).elim (kept.accepted header) (kept.calls header)

omit [DecidableEq B] in
theorem Kept.queued_lt (sound : Sound port usage.flow queued) (offered : header ∈ usage.flow.calls) :
    queued.length < n := by
  have single := sound.balanced.single
  have distinct : (header :: queued).Nodup := by
    rw [nodup_iff_count_le_one]
    intro other
    have once := single other
    rw [count_append] at once
    by_cases same : header = other
    · subst same
      have positive := count_pos_iff.mpr offered
      rw [count_cons_self]
      omega
    · rw [count_cons_of_ne same]
      omega
  have known : ∀ other ∈ header :: queued, usage.buffers.registered other = true := by
    intro other member
    rcases mem_cons.mp member with rfl | queuedBefore
    · exact kept.calls other offered
    · have balance := sound.balanced.balance other
      have inside := count_pos_iff.mpr queuedBefore
      rw [count_append] at balance
      exact kept.accepted other (count_pos_iff.mp (by omega))
  exact length_le_of_registered distinct known

theorem Kept.hasPlace {event : Event H B} (few : port.supplies = true ∨ n ≤ ringSize)
    (taken : usage.step port event = some usage') : HasPlace usage event usage' := by
  unfold Usage.step at taken
  split_ifs at taken
  unfold HasPlace
  split
  case h_1 header _ =>
    obtain ⟨flow, queueing, -⟩ := map_eq_some_iff.mp taken
    have offered := (queue_frame queueing).1
    obtain ⟨queued, sound⟩ := kept.sound
    have space : (queued.map Entry.message).length < ringSize := by
      rw [length_map]
      rcases few with supplies | few
      · cases (kept.supplier supplies header).symm.trans (kept.calls header offered)
      · exact lt_of_lt_of_le (kept.queued_lt sound offered) few
    obtain ⟨bufferQ, done, -⟩ := sound.represents.enqueue_space space (Entry.message header)
    rw [done]
    rfl
  case h_2 => trivial

theorem Kept.inside {event : Event H B} (few : port.supplies = true ∨ n ≤ maxBufferNum)
    (taken : usage.step port event = some usage') : Inside port usage event usage' := by
  rcases few with supplies | few
  swap
  · exact le_trans (usage.slotsRead_le port event) few
  unfold Usage.step at taken
  split_ifs at taken with allowed
  unfold Inside Usage.slotsRead
  split
  · obtain ⟨caller, registers, supplier⟩ := registers_of_allowed allowed
    cases registers
    simp [useBufferCheck_supplier (supplier.trans supplies)]
  · obtain ⟨caller, registers, supplier⟩ := registers_of_allowed allowed
    cases registers
    simp [allocateBufferCheck_supplier (supplier.trans supplies)]
  · have none_known : usage.buffers.registered = fun _ => false := funext (kept.supplier supplies)
    simp [Usage.allows, none_known] at allowed
  · exact zero_le _

end

variable {queue : Queue (Entry Nat)}

section

/- A client that registers buffer after buffer and then hands over one after the other. -/
variable {port : Port Nat} {memory : Nat → Option Nat}

def registration (header : Nat) : Event Nat Nat :=
  .register (.useBuffer plainCaller (some header) none)

def registrations (count : Nat) : List (Event Nat Nat) := (List.range count).map registration

def idleCall (port : Port Nat) (header : Nat) : BufferFlow.Call Nat :=
  { plainCall port header with currentState := .idle }

def offer (port : Port Nat) (header : Nat) : List (Event Nat Nat) :=
  [.flow (.check (idleCall port header)), .flow (.queue header)]

def offers (port : Port Nat) (count : Nat) : List (Event Nat Nat) :=
  (List.range count).flatMap (offer port)

def assignedSlot (header : Nat) : Slot Nat := ⟨some header, ⟨false, true, true⟩⟩

def assignedSlots (n count : Nat) : List (Slot Nat) :=
  (List.range count).map assignedSlot ++ List.replicate (n - count) Slot.free

variable {count : Nat} {usage : Usage Nat Nat n}

theorem assignedSlots_free (more : count < n) :
    (assignedSlots n count)[count]? = some Slot.free := by
  have left : 0 < n - count := Nat.sub_pos_of_lt more
  simp [assignedSlots, left]

theorem assignedSlots_set (more : count < n) :
    (assignedSlots n count).set count (assignedSlot count) = assignedSlots n (count + 1) := by
  obtain ⟨rest, size⟩ : ∃ rest, n - count = rest + 1 := ⟨n - count - 1, by omega⟩
  have next : n - (count + 1) = rest := by omega
  simp [assignedSlots, size, next, range_succ, replicate_succ]

theorem findIdx?_assigned (more : count < n) :
    (assignedSlots n count).findIdx? (fun slot => !slot.used) = some count := by
  apply SlotTable.findIdx?_first (assignedSlots_free more)
  · simp [Slot.free, Slot.used]
  · intro j other before there
    rw [assignedSlots, getElem?_append_left (by simpa using before)] at there
    simp only [getElem?_map, getElem?_range before, map_some, some_inj] at there
    rw [← there]
    simp [assignedSlot, Slot.used, bufferStateFree]

theorem searched_assigned (more : count < n) :
    searched (fun slot => !slot.used) (assignedSlots n count) = count + 1 := by
  obtain ⟨inside, first⟩ :=
    findIdx?_eq_some_iff_findIdx_eq.mp (findIdx?_assigned more)
  rw [searched, first]
  omega

structure Registered (queue : Queue (Entry Nat)) (count : Nat) (usage : Usage Nat Nat n) :
    Prop where
  table : usage.buffers.table.slots = assignedSlots n count
  flow : usage.flow = Flow.start queue

theorem Registered.next (registered : Registered queue count usage) (others : port.supplies = false)
    (more : count < n) :
    ∃ usage', usage.step port (registration count) = some usage' ∧
      Registered queue (count + 1) usage' := by
  have fresh : usage.buffers.registered count = false := by
    apply any_eq_false.mpr
    intro slot member
    rw [registered.table] at member
    rcases mem_append.mp member with used | free
    · obtain ⟨header, smaller, rfl⟩ := mem_map.mp used
      have apart := Nat.ne_of_lt (mem_range.mp smaller)
      simp [assignedSlot, apart]
    · rw [eq_of_mem_replicate free]
      simp [Slot.free, Slot.used]
  have passed : useBufferCheck plainCaller = .errorNone := by decide
  have supplier : plainCaller.tunneledSupplier = port.supplies := others.symm
  have found : usage.buffers.table.slots.findIdx? (fun slot => !slot.used) = some count := by
    rw [registered.table]
    exact findIdx?_assigned more
  refine ⟨{ usage with buffers := usage.buffers.assign count none ⟨false, true, true⟩ }, ?_, ?_, ?_⟩
  · simp [registration, Usage.step, Usage.allows, registrar, supplier, PortTable.step, fresh,
      PortTable.useBuffer, passed]
  · rw [assign_slots found, registered.table]
    exact assignedSlots_set more
  · exact registered.flow

theorem run_registrations (others : port.supplies = false) (memory : Nat → Option Nat)
    (queue : Queue (Entry Nat)) (count : Nat) (few : count ≤ n) :
    ∃ usage, run (Usage.step port) (Usage.start n memory queue) (registrations count) =
      some usage ∧ Registered queue count usage := by
  induction count with
  | zero =>
    refine ⟨_, rfl, ?_, rfl⟩
    simp [Usage.start, PortTable.fresh, SlotTable.filled, assignedSlots]
  | succ count ih =>
    obtain ⟨usage, runs, registered⟩ := ih (le_of_succ_le few)
    obtain ⟨usage', taken, registered'⟩ := registered.next others few
    refine ⟨usage', ?_, registered'⟩
    rw [registrations, range_succ, map_append, run_append]
    simp only [registrations] at runs
    rw [runs, bind_some, map_singleton, run, taken]
    rfl

theorem not_inside (others : port.supplies = false) (memory : Nat → Option Nat)
    (queue : Queue (Entry Nat)) (many : maxBufferNum < n) :
    ¬ AllSteps (Usage.step port) (Inside port) (Usage.start n memory queue)
      (registrations (maxBufferNum + 1)) := by
  intro all
  obtain ⟨usage, runs, registered⟩ :=
    run_registrations others memory queue maxBufferNum (le_of_lt many)
  obtain ⟨usage', taken, -⟩ := registered.next others many
  rw [registrations, range_succ, map_append] at all
  have last := AllSteps.rest _ _ all runs
  rw [map_singleton, AllSteps, taken] at last
  have passed : useBufferCheck plainCaller = .errorNone ∧ (some maxBufferNum).isSome = true :=
    ⟨by decide, rfl⟩
  have read : usage.slotsRead port (registration maxBufferNum) = maxBufferNum + 1 := by
    rw [registration, Usage.slotsRead, if_pos passed, registered.table]
    exact searched_assigned many
  have inside := last.1
  rw [Inside, read] at inside
  omega

structure Offered (count : Nat) (usage : Usage Nat Nat n) : Prop where
  table : usage.buffers.table.slots = assignedSlots n n
  represents : Represents usage.flow.bufferQ ((List.range count).map Entry.message)
  calls : usage.flow.calls = []
  accepted : usage.flow.accepted = List.range count
  returned : usage.flow.returned = []
  flushed : usage.flow.bIsPortFlushed = false

theorem thisBuffer_idle {header : Nat} (port : Port Nat) (known : some header ∈ port.bufferHeader) :
    thisBuffer port false (idleCall port header) = .ok header := by
  simp [thisBuffer, idleCall, plainCall, known]
  rfl

theorem Offered.check (offered : Offered count usage) (more : count < n) :
    usage.step port (.flow (.check (idleCall port count))) =
      some { usage with flow := { usage.flow with calls := [count] } } := by
  have member : assignedSlot count ∈ usage.buffers.table.slots := by
    rw [offered.table]
    exact mem_append_left _ (mem_map_of_mem (mem_range.mpr more))
  have known : usage.buffers.registered count = true := by
    apply any_eq_true.mpr
    exact ⟨assignedSlot count, member, by simp [assignedSlot, Slot.used, bufferStateFree]⟩
  have listed : some count ∈ (usage.port port).bufferHeader := mem_map_of_mem member
  have passed : thisBuffer (usage.port port) false (idleCall port count) = .ok count :=
    thisBuffer_idle (usage.port port) listed
  have holds : usage.flow.ClientHolds count := by
    refine ⟨by simp [offered.calls], ?_⟩
    rw [offered.accepted, offered.returned]
    simp
  have checked : usage.flow.check (usage.port port) (idleCall port count) =
      some { usage.flow with calls := [count] } := by
    rw [← offered.flushed] at passed
    unfold Flow.check
    rw [passed]
    dsimp only
    rw [if_pos holds, offered.calls]
  exact Usage.step_flow known checked

theorem Offered.next (offered : Offered count usage) (more : count < n) (space : count < ringSize) :
    ∃ usage', run (Usage.step port) usage (offer port count) = some usage' ∧
      Offered (count + 1) usage' := by
  have room : ((range count).map (Entry.message (H := Nat))).length < ringSize := by
    simpa using space
  obtain ⟨bufferQ, done, represents⟩ :=
    offered.represents.enqueue_space room (Entry.message count)
  obtain ⟨flow, queued, contents, calls, accepted, returned, flushed⟩ :
      ∃ flow, ({ usage.flow with calls := [count] } : Flow Nat).queue count = some flow ∧
        flow.bufferQ = bufferQ ∧ flow.calls = [] ∧
        flow.accepted = usage.flow.accepted ++ [count] ∧ flow.returned = usage.flow.returned ∧
        flow.bIsPortFlushed = usage.flow.bIsPortFlushed := by
    simp [Flow.queue, done, Flow.returned]
  have stepped : Usage.step port { usage with flow := { usage.flow with calls := [count] } }
      (.flow (.queue count)) = some { usage with flow := flow } := Usage.step_flow rfl queued
  refine ⟨{ usage with flow := flow }, ?_, offered.table, ?_, calls, ?_, ?_, ?_⟩
  · rw [offer, run, offered.check more, bind_some, run, stepped]
    rfl
  · rw [contents, range_succ, map_append]
    exact represents
  · rw [accepted, offered.accepted, range_succ]
  · exact returned.trans offered.returned
  · exact flushed.trans offered.flushed

theorem run_offers (port : Port Nat) (offered : Offered 0 usage) (count : Nat) (few : count ≤ n)
    (space : count ≤ ringSize) :
    ∃ usage', run (Usage.step port) usage (offers port count) = some usage' ∧
      Offered count usage' := by
  induction count with
  | zero => exact ⟨usage, rfl, offered⟩
  | succ count ih =>
    obtain ⟨before, runs, offered'⟩ := ih (le_of_succ_le few) (le_of_succ_le space)
    obtain ⟨after, next, offered''⟩ := offered'.next few space
    refine ⟨after, ?_, offered''⟩
    rw [offers, range_succ, flatMap_append, run_append]
    simp only [offers] at runs
    rw [runs, bind_some, flatMap_singleton, next]

def exhaustingRun (port : Port Nat) (n : Nat) : List (Event Nat Nat) :=
  registrations n ++ offers port (ringSize + 1)

theorem not_hasPlace (others : port.supplies = false) (memory : Nat → Option Nat)
    {queue : Queue (Entry Nat)} (represents : Represents queue []) (many : ringSize < n) :
    ¬ AllSteps (Usage.step port) HasPlace (Usage.start n memory queue) (exhaustingRun port n) := by
  intro all
  obtain ⟨ready, registering, registered⟩ :=
    run_registrations others memory queue n (le_refl n)
  have start : Offered 0 ready := by
    refine ⟨registered.table, ?_, ?_, ?_, ?_, ?_⟩
    all_goals rw [registered.flow]
    · exact represents
    all_goals rfl
  obtain ⟨usage, runs, offered⟩ :=
    run_offers port start ringSize (le_of_lt many) (le_refl ringSize)
  have behind := AllSteps.rest _ _ all registering
  rw [offers, range_succ, flatMap_append, flatMap_singleton] at behind
  have last := AllSteps.rest _ _ behind runs
  rw [offer, AllSteps, offered.check many] at last
  have full : ((range ringSize).map (Entry.message (H := Nat))).length = ringSize := by simp
  have refused := offered.represents.ring.enqueue_full full (Entry.message ringSize)
  have queued : ∃ flow, ({ usage.flow with calls := [ringSize] } : Flow Nat).queue ringSize =
      some flow := by
    simp [Flow.queue, refused]
  obtain ⟨flow, queued⟩ := queued
  have stepped : Usage.step port { usage with flow := { usage.flow with calls := [ringSize] } }
      (.flow (.queue ringSize)) = some { usage with flow := flow } := Usage.step_flow rfl queued
  have place := last.2
  rw [AllSteps, stepped] at place
  have zero := place.1
  simp only [HasPlace] at zero
  rw [refused] at zero
  cases zero

end

section

/-- In every run of clients and the processing thread from a port without buffers, all entries
    that are read are entries of the arrays. -/
def SlotsInside (n : Nat) (port : Port Nat) (memory : Nat → Option Nat)
    (queue : Queue (Entry Nat)) : Prop :=
  ∀ events, AllSteps (Usage.step port) (Inside port) (Usage.start n memory queue) events

def NeverFull (n : Nat) (port : Port Nat) (memory : Nat → Option Nat)
    (queue : Queue (Entry Nat)) : Prop :=
  ∀ events, AllSteps (Usage.step port) HasPlace (Usage.start n memory queue) events

variable (n : Nat) (port : Port Nat) (memory : Nat → Option Nat)

theorem slotsInside_iff (represents : Represents queue []) :
    SlotsInside n port memory queue ↔ port.supplies = true ∨ n ≤ maxBufferNum := by
  constructor
  · intro inside
    by_contra neither
    obtain ⟨others, many⟩ := not_or.mp neither
    exact not_inside (Bool.eq_false_iff.mpr others) memory queue (Nat.lt_of_not_le many) (inside _)
  · intro few events
    have start : Kept port (Usage.start n memory queue) := Kept.start represents memory
    apply allSteps_of_inv _ events _ start
    intro usage event usage' kept taken
    exact ⟨kept.step taken, kept.inside few taken⟩

theorem neverFull_iff (represents : Represents queue []) :
    NeverFull n port memory queue ↔ port.supplies = true ∨ n ≤ ringSize := by
  constructor
  · intro never
    by_contra neither
    obtain ⟨others, many⟩ := not_or.mp neither
    exact not_hasPlace (Bool.eq_false_iff.mpr others) memory represents (Nat.lt_of_not_le many)
      (never _)
  · intro few events
    have start : Kept port (Usage.start n memory queue) := Kept.start represents memory
    apply allSteps_of_inv _ events _ start
    intro usage event usage' kept taken
    exact ⟨kept.step taken, kept.hasPlace few taken⟩

end

/-- A number of buffers that `SetParameter` accepted is the number of the port from then on. The
    calls that follow read entries of the arrays only, and never find the queue full, exactly when
    it is at most nine, or the port gets its buffers from a tunnel. -/
theorem accepted_counts_usable_iff (layer : Layer) (setter : Setter) (component : Component)
    (definition : PortDefinition)
    (accepted : (layer.setParameter setter component (some definition)).1 = .errorNone)
    (port : Port Nat) (memory : Nat → Option Nat) (room queue : Queue (Entry Nat))
    (mutexCreate : OmxError) (malloc : Nat → Bool)
    (created : queueCreate room mutexCreate malloc = (.errorNone, queue)) :
    ∃ stored, (layer.setParameter setter component (some definition)).2.ports[
        definition.nPortIndex]? = some stored ∧
      (SlotsInside stored.nBufferCountActual port memory queue ↔
        port.supplies = true ∨ stored.nBufferCountActual ≤ 20) ∧
      (NeverFull stored.nBufferCountActual port memory queue ↔
        port.supplies = true ∨ stored.nBufferCountActual ≤ 9) ∧
      (SlotsInside stored.nBufferCountActual port memory queue ∧
        NeverFull stored.nBufferCountActual port memory queue ↔
        port.supplies = true ∨ stored.nBufferCountActual ≤ 9) := by
  have represents := queueCreate_represents created
  have inside := slotsInside_iff definition.nBufferCountActual port memory represents
  have never := neverFull_iff definition.nBufferCountActual port memory represents
  refine ⟨definition, setParameter_accepted accepted, inside, never, ?_⟩
  rw [inside, never]
  constructor
  · intro both
    exact both.2
  · rintro (supplies | few)
    · exact ⟨Or.inl supplies, Or.inl supplies⟩
    · exact ⟨Or.inr (le_trans few (by decide)), Or.inr few⟩

def decoder : Component := ⟨.loaded, [⟨0, 5, 5, true⟩, ⟨1, 2, 2, true⟩], true⟩

def plainSetter : Setter := ⟨some .errorNone, true, .errorNone⟩

/-- The input port may have nine buffers. -/
theorem nine_buffers_usable :
    (Layer.decoder.setParameter plainSetter decoder (some ⟨0, 9, 5, true⟩)).1 = .errorNone ∧
      SlotsInside 9 inputPort (fun _ => none) freshQueue ∧
      NeverFull 9 inputPort (fun _ => none) freshQueue := by
  obtain ⟨stored, found, -, -, usable⟩ := accepted_counts_usable_iff .decoder plainSetter decoder
    ⟨0, 9, 5, true⟩ rfl inputPort (fun _ => none) ⟨fun _ => ⟨none, none⟩, none, none, 0⟩ freshQueue
    .errorNone (fun _ => true) rfl
  have same : stored = ⟨0, 9, 5, true⟩ := (some_inj.mp found).symm
  rw [same] at usable
  exact ⟨rfl, usable.mpr (Or.inr (le_refl 9))⟩

/-- Ten buffers are accepted, and the tenth message finds the queue full; twenty-one are accepted,
    and the last registration reads behind the arrays. -/
theorem accepted_counts_too_large :
    (Layer.decoder.setParameter plainSetter decoder (some ⟨0, 10, 5, true⟩)).1 = .errorNone ∧
      ¬ AllSteps (Usage.step inputPort) HasPlace (Usage.start 10 (fun _ => none) freshQueue)
        (exhaustingRun inputPort 10) ∧
      (Layer.decoder.setParameter plainSetter decoder (some ⟨0, 21, 5, true⟩)).1 = .errorNone ∧
      ¬ AllSteps (Usage.step inputPort) (Inside inputPort)
        (Usage.start 21 (fun _ => none) freshQueue) (registrations 21) := by
  refine ⟨rfl, ?_, rfl, ?_⟩
  · have created : queueCreate ⟨fun _ => ⟨none, none⟩, none, none, 0⟩ .errorNone (fun _ => true) =
        (.errorNone, freshQueue) := rfl
    exact not_hasPlace rfl _ (queueCreate_represents created) (by decide)
  · exact not_inside rfl _ freshQueue (by decide)

end BufferCounts
