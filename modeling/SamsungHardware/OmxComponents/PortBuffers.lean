import SamsungHardware.Library.SlotTable
import SamsungHardware.Library.StepRuns
import SamsungHardware.OmxComponents.ResourceManager

/- The buffers of one port, from SEC_OMX_Vdec.c: the table of headers with its state array, the
   counter `assignedBufferNum` and the two semaphores that tell of a full and of an empty table.
   A header is known by its address; `pBuffer` is the memory of that field of all headers. -/
namespace PortBuffers
open ResourceManager SlotTable StepRuns List Option

variable {H B : Type} {n : Nat}

structure BufferState where
  (bufferAllocated bufferAssigned headerAllocated : Bool)
  deriving DecidableEq, Repr

def bufferStateFree : BufferState := ⟨false, false, false⟩

structure Slot (H : Type) where
  bufferHeader : Option H
  bufferStateAllocate : BufferState
  deriving DecidableEq, Repr

def Slot.free : Slot H := ⟨none, bufferStateFree⟩

def Slot.used (slot : Slot H) : Bool := slot.bufferStateAllocate ≠ bufferStateFree

/-- A port with `n` for its `nBufferCountActual`, and the result of the last call. -/
structure PortTable (H B : Type) (n : Nat) where
  table : Table (Slot H) n
  pBuffer : H → Option B
  assignedBufferNum : Int
  bPopulated : Bool
  (loadedResource unloadedResource : Nat)
  ret : OmxError

def PortTable.fresh (n : Nat) (memory : H → Option B) : PortTable H B n where
  table := filled n Slot.free
  pBuffer := memory
  assignedBufferNum := 0
  bPopulated := false
  loadedResource := 0
  unloadedResource := 0
  ret := .errorNone

section

variable [DecidableEq H] [DecidableEq B] (port : PortTable H B n)

def PortTable.registered (header : H) : Bool :=
  port.table.slots.any fun slot => slot.used && slot.bufferHeader = some header

structure Caller where
  /-- `none` for a null handle, else what `SEC_OMX_Check_SizeVersion` says of it. -/
  component : Option OmxError
  (componentPrivate portIndexInRange : Bool)
  portState : OmxState
  tunneledSupplier : Bool
  deriving DecidableEq, Repr

variable (caller : Caller)

def Caller.check : OmxError :=
  match caller.component with
  | none => badParameter
  | some version =>
    if version ≠ .errorNone then version
    else if caller.componentPrivate = false then badParameter
    else .errorNone

def useBufferCheck : OmxError :=
  if caller.check ≠ .errorNone then caller.check
  else if caller.portIndexInRange = false then badPortIndex
  else if caller.portState ≠ .idle then incorrectStateOperation
  else if caller.tunneledSupplier then badPortIndex
  else .errorNone

def allocateBufferCheck : OmxError :=
  if caller.check ≠ .errorNone then caller.check
  else if caller.portIndexInRange = false then badPortIndex
  else if caller.tunneledSupplier then badPortIndex
  else .errorNone

def freeBufferCheck : OmxError :=
  if caller.check ≠ .errorNone then caller.check
  else if caller.tunneledSupplier then badPortIndex
  else .errorNone

def PortTable.assign (header : H) (pBuffer : Option B) (state : BufferState) : PortTable H B n :=
  match port.table.slots.findIdx? fun slot => !slot.used with
  | none => { port with ret := .insufficientResources }
  | some i =>
    let port := { port with
      table := port.table.set i ⟨some header, state⟩
      pBuffer := Function.update port.pBuffer header pBuffer
      assignedBufferNum := port.assignedBufferNum + 1
      ret := .errorNone }
    if port.assignedBufferNum = (n : Int) then
      { port with bPopulated := true, loadedResource := port.loadedResource + 1 }
    else port

def PortTable.useBuffer (header : Option H) (pBuffer : Option B) : PortTable H B n :=
  if useBufferCheck caller ≠ .errorNone then { port with ret := useBufferCheck caller }
  else match header with
    | none => { port with ret := .insufficientResources }
    | some header => port.assign header pBuffer ⟨false, true, true⟩

def PortTable.allocateBuffer (buffer : Option B) (header : Option H) : PortTable H B n :=
  if allocateBufferCheck caller ≠ .errorNone then { port with ret := allocateBufferCheck caller }
  else match buffer, header with
    | some buffer, some header => port.assign header (some buffer) ⟨true, false, true⟩
    | _, _ => { port with ret := .insufficientResources }

def PortTable.matches (buffer : Option B) (slot : Slot H) : Bool :=
  slot.used && slot.bufferHeader.any fun header => port.pBuffer header = buffer

def PortTable.release (pBufferHdr : H) (i : Nat) (slot : Slot H) : PortTable H B n :=
  let pBuffer := match slot.bufferHeader with
    | some header =>
      if slot.bufferStateAllocate.bufferAllocated then
        Function.update (Function.update port.pBuffer header none) pBufferHdr none
      else port.pBuffer
    | none => port.pBuffer
  let bufferHeader :=
    if slot.bufferStateAllocate.headerAllocated then none else slot.bufferHeader
  { port with
    table := port.table.set i ⟨bufferHeader, bufferStateFree⟩
    pBuffer := pBuffer
    assignedBufferNum := port.assignedBufferNum - 1 }

/-- The loop of `SEC_OMX_FreeBuffer`. A null header is followed at the first slot in use. -/
def PortTable.releaseFirst (pBufferHdr : Option H) : Option (PortTable H B n) :=
  match pBufferHdr with
  | none => if port.table.slots.any Slot.used then none else some port
  | some header =>
    match port.table.slots.findIdx? (port.matches (port.pBuffer header)) with
    | none => some port
    | some i => some (port.release header i (port.table.slots[i]?.getD Slot.free))

/-- `SEC_OMX_FreeBuffer`. No result of the search is an error. -/
def PortTable.freeBuffer (pBufferHdr : Option H) : Option (PortTable H B n) :=
  if freeBufferCheck caller ≠ .errorNone then some { port with ret := freeBufferCheck caller }
  else (port.releaseFirst pBufferHdr).map fun port =>
    if port.assignedBufferNum = 0 then
      { port with
        unloadedResource := port.unloadedResource + 1
        bPopulated := false
        ret := .errorNone }
    else { port with ret := .errorNone }

inductive Call (H B : Type) where
  | useBuffer (caller : Caller) (header : Option H) (pBuffer : Option B)
  | allocateBuffer (caller : Caller) (buffer : Option B) (header : Option H)
  /-- `stray` is what a header that is not registered has in its field `pBuffer`. -/
  | freeBuffer (caller : Caller) (pBufferHdr : Option H) (stray : Option B)
  deriving DecidableEq, Repr

def PortTable.withStray (pBufferHdr : Option H) (stray : Option B) : PortTable H B n :=
  { port with pBuffer := fun header =>
      if pBufferHdr = some header ∧ port.registered header = false then stray
      else port.pBuffer header }

/-- Memory for a header is never memory that is in use for a header. -/
def PortTable.step : Call H B → Option (PortTable H B n)
  | .useBuffer caller header pBuffer =>
    if header.any port.registered then none else some (port.useBuffer caller header pBuffer)
  | .allocateBuffer caller buffer header =>
    if header.any port.registered then none else some (port.allocateBuffer caller buffer header)
  | .freeBuffer caller pBufferHdr stray =>
    (port.withStray pBufferHdr stray).freeBuffer caller pBufferHdr

def PortTable.count : Nat := port.table.slots.countP Slot.used

structure Right (before : PortTable H B n) (call : Call H B) (after : PortTable H B n) : Prop where
  counted : after.assignedBufferNum = after.count
  freed : ∀ caller pBufferHdr stray, call = .freeBuffer caller pBufferHdr stray →
    after.ret = .errorNone → ∃ (header : H) (i : Nat) (slot : Slot H), pBufferHdr = some header ∧
      before.table.slots[i]? = some slot ∧ slot.used = true ∧ slot.bufferHeader = some header ∧
      after.table.slots = before.table.slots.set i Slot.free
  loaded : after.loadedResource =
    before.loadedResource + if before.count ≠ n ∧ after.count = n then 1 else 0
  unloaded : after.unloadedResource =
    before.unloadedResource + if before.count ≠ 0 ∧ after.count = 0 then 1 else 0

def OwnBufferFirst : Call H B → Prop
  | .freeBuffer caller pBufferHdr _ => freeBufferCheck caller = .errorNone →
    ∃ (header : H) (i : Nat) (slot : Slot H), pBufferHdr = some header ∧ port.table.slots[i]? = some slot ∧
      slot.used = true ∧ slot.bufferHeader = some header ∧
      ∀ j other, j < i → port.table.slots[j]? = some other →
        port.matches (port.pBuffer header) other = false
  | _ => True

end

variable {slots : List (Slot H)} {i : Nat}

section

variable {slot new : Slot H}

theorem countP_set_used (here : slots[i]? = some slot) (free : slot.used = false)
    (used : new.used = true) :
    (slots.set i new).countP Slot.used = slots.countP Slot.used + 1 := by
  obtain ⟨inside, same⟩ := List.getElem?_eq_some_iff.mp here
  rw [List.countP_set inside, same]
  simp [free, used]

theorem countP_set_free (here : slots[i]? = some slot) (used : slot.used = true)
    (free : new.used = false) :
    (slots.set i new).countP Slot.used + 1 = slots.countP Slot.used := by
  obtain ⟨inside, same⟩ := List.getElem?_eq_some_iff.mp here
  have positive : 0 < slots.countP Slot.used :=
    List.countP_pos_iff.mpr ⟨slot, List.mem_of_getElem? here, used⟩
  rw [countP_set inside, same]
  simp [free, used]
  omega

end

variable {port port' : PortTable H B n}

structure Kept (port : PortTable H B n) : Prop where
  counted : port.assignedBufferNum = port.count
  headers : ∀ slot ∈ port.table.slots, slot.used = true →
    slot.bufferStateAllocate.headerAllocated = true

theorem fresh_kept (memory : H → Option B) : Kept (PortTable.fresh n memory) where
  counted := by
    simp [PortTable.fresh, PortTable.count, filled, countP_replicate, Slot.free, Slot.used]
  headers slot member used := by
    rw [eq_of_mem_replicate member] at used
    cases used

theorem count_le (port : PortTable H B n) : port.count ≤ n := by
  have bound : port.count ≤ port.table.slots.length := countP_le_length
  rw [port.table.size] at bound
  exact bound

theorem Kept.set {i : Nat} {new : Slot H} (kept : Kept port)
    (slots : port'.table.slots = port.table.slots.set i new)
    (allocated : new.used = true → new.bufferStateAllocate.headerAllocated = true)
    (counted : port'.assignedBufferNum = port'.count) : Kept port' where
  counted := counted
  headers slot member used := by
    rw [slots] at member
    rcases mem_or_eq_of_mem_set member with old | same
    · exact kept.headers slot old used
    · rw [same] at used ⊢
      exact allocated used

section

variable [DecidableEq H] {port : PortTable H B n}

theorem assign_cases (port : PortTable H B n) (header : H) (pBuffer : Option B)
    (state : BufferState) :
    port.assign header pBuffer state = { port with ret := .insufficientResources } ∨
      ∃ i slot, port.table.slots[i]? = some slot ∧ slot.used = false ∧
        (port.assign header pBuffer state).table.slots =
          port.table.slots.set i ⟨some header, state⟩ ∧
        (port.assign header pBuffer state).assignedBufferNum = port.assignedBufferNum + 1 ∧
        (port.assign header pBuffer state).loadedResource =
          port.loadedResource + (if port.assignedBufferNum + 1 = (n : Int) then 1 else 0) ∧
        (port.assign header pBuffer state).unloadedResource = port.unloadedResource := by
  unfold PortTable.assign
  cases found : port.table.slots.findIdx? fun slot => !slot.used with
  | none => exact Or.inl rfl
  | some i =>
    obtain ⟨slot, here, free, -⟩ := findIdx?_some found
    right
    refine ⟨i, slot, here, by simpa using free, ?_⟩
    by_cases full : port.assignedBufferNum + 1 = (n : Int)
    · simp [full, Table.set]
    · simp [full, Table.set]

variable {call : Call H B}

theorem assign_right (kept : Kept port) (header : H) (pBuffer : Option B) {state : BufferState}
    (used : state ≠ bufferStateFree) (allocated : state.headerAllocated = true)
    (other : ∀ caller pBufferHdr stray, call ≠ .freeBuffer caller pBufferHdr stray) :
    Kept (port.assign header pBuffer state) ∧
      Right port call (port.assign header pBuffer state) := by
  rcases assign_cases port header pBuffer state with same |
    ⟨i, slot, here, free, slots, number, loaded, unloaded⟩
  · rw [same]
    exact ⟨{ kept with }, ⟨kept.counted, fun _ _ _ freeing => absurd freeing (other _ _ _),
      by simp [PortTable.count], by simp [PortTable.count]⟩⟩
  · -- the new slot is one more in use
    have count : (port.assign header pBuffer state).count = port.count + 1 := by
      rw [PortTable.count, slots]
      exact countP_set_used here free (by simp [Slot.used, used])
    have counted : (port.assign header pBuffer state).assignedBufferNum =
        (port.assign header pBuffer state).count := by
      rw [number, count, kept.counted]
      rfl
    have bound := count_le (port.assign header pBuffer state)
    refine ⟨kept.set slots (fun _ => allocated) counted, counted,
      fun _ _ _ freeing => absurd freeing (other _ _ _), ?_, ?_⟩
    · rw [loaded, kept.counted, count]
      by_cases full : port.count + 1 = n
      · rw [if_pos (by omega), if_pos ⟨by omega, full⟩]
      · rw [if_neg (by omega), if_neg (by omega)]
    · rw [unloaded, count, if_neg (by omega), Nat.add_zero]

omit [DecidableEq H] in
theorem error_right (kept : Kept port) (ret : OmxError)
    (other : ∀ caller pBufferHdr stray, call ≠ .freeBuffer caller pBufferHdr stray) :
    Kept { port with ret := ret } ∧ Right port call { port with ret := ret } :=
  ⟨{ kept with }, kept.counted, fun _ _ _ freeing => absurd freeing (other _ _ _),
    by simp [PortTable.count], by simp [PortTable.count]⟩

theorem useBuffer_right (kept : Kept port) (caller : Caller) (header : Option H)
    (pBuffer : Option B) :
    Kept (port.useBuffer caller header pBuffer) ∧
      Right port (.useBuffer caller header pBuffer) (port.useBuffer caller header pBuffer) := by
  unfold PortTable.useBuffer
  split
  · exact error_right kept _ (by simp)
  · cases header with
    | none => exact error_right kept _ (by simp)
    | some header => exact assign_right kept header pBuffer (by decide) rfl (by simp)

theorem allocateBuffer_right (kept : Kept port) (caller : Caller) (buffer : Option B)
    (header : Option H) :
    Kept (port.allocateBuffer caller buffer header) ∧
      Right port (.allocateBuffer caller buffer header)
        (port.allocateBuffer caller buffer header) := by
  unfold PortTable.allocateBuffer
  split
  · exact error_right kept _ (by simp)
  · cases buffer with
    | none => exact error_right kept _ (by simp)
    | some buffer =>
      cases header with
      | none => exact error_right kept _ (by simp)
      | some header => exact assign_right kept header (some buffer) (by decide) rfl (by simp)

end

section

variable [DecidableEq H] [DecidableEq B] {pBufferHdr : Option H} {caller : Caller} {slot : Slot H}
  {header : H}

/-- The search of `SEC_OMX_FreeBuffer` frees the first slot with the buffer of the header, or
    leaves the table as it is. -/
theorem releaseFirst_cases (kept : Kept port) (done : port.releaseFirst pBufferHdr = some port') :
    port' = port ∨ ∃ header i slot, pBufferHdr = some header ∧
      port.table.slots[i]? = some slot ∧ slot.used = true ∧
      (∀ j other, j < i → port.table.slots[j]? = some other →
        port.matches (port.pBuffer header) other = false) ∧
      port'.table.slots = port.table.slots.set i Slot.free ∧
      port'.assignedBufferNum = port.assignedBufferNum - 1 ∧
      port'.loadedResource = port.loadedResource ∧
      port'.unloadedResource = port.unloadedResource := by
  unfold PortTable.releaseFirst at done
  cases pBufferHdr with
  | none =>
    dsimp only at done
    split at done
    · cases done
    · cases done
      exact Or.inl rfl
  | some header =>
    dsimp only at done
    cases found : port.table.slots.findIdx? (port.matches (port.pBuffer header)) with
    | none =>
      rw [found] at done
      cases done
      exact Or.inl rfl
    | some i =>
      obtain ⟨slot, here, holds, first⟩ := findIdx?_some found
      have used : slot.used = true := (Bool.and_eq_true_iff.mp holds).1
      have allocated := kept.headers slot (mem_of_getElem? here) used
      rw [found] at done
      cases done
      right
      refine ⟨header, i, slot, rfl, here, used, first, ?_, rfl, rfl, rfl⟩
      simp [PortTable.release, Table.set, here, allocated, Slot.free]

theorem freeBuffer_cases (done : port.freeBuffer caller pBufferHdr = some port') :
    (freeBufferCheck caller ≠ .errorNone ∧ port' = { port with ret := freeBufferCheck caller }) ∨
      (freeBufferCheck caller = .errorNone ∧ ∃ middle, port.releaseFirst pBufferHdr = some middle ∧
        port'.table = middle.table ∧ port'.assignedBufferNum = middle.assignedBufferNum ∧
        port'.loadedResource = middle.loadedResource ∧
        port'.unloadedResource =
          middle.unloadedResource + (if middle.assignedBufferNum = 0 then 1 else 0) ∧
        port'.ret = .errorNone) := by
  unfold PortTable.freeBuffer at done
  by_cases refused : freeBufferCheck caller ≠ .errorNone
  · rw [if_pos refused] at done
    cases done
    exact Or.inl ⟨refused, rfl⟩
  · rw [if_neg refused] at done
    obtain ⟨middle, released, rfl⟩ := map_eq_some_iff.mp done
    refine Or.inr ⟨not_not.mp refused, middle, released, ?_⟩
    by_cases empty : middle.assignedBufferNum = 0
    · simp [empty]
    · simp [empty]

omit [DecidableEq H] in
theorem set_free_inj {i j : Nat} (here : slots[i]? = some slot) (used : slot.used = true)
    (same : slots.set i Slot.free = slots.set j Slot.free) : i = j := by
  by_contra apart
  have after := congrArg (fun l => l[i]?) same
  rw [List.getElem?_set_self (List.getElem?_eq_some_iff.mp here).1,
    List.getElem?_set_ne (Ne.symm apart), here, some_inj] at after
  rw [← after] at used
  cases used

omit [DecidableEq H] in
theorem set_free_ne (here : slots[i]? = some slot) (used : slot.used = true) :
    slots ≠ slots.set i Slot.free := by
  intro same
  have after := congrArg (fun l => l[i]?) same
  rw [List.getElem?_set_self (List.getElem?_eq_some_iff.mp here).1, here, some_inj] at after
  rw [after] at used
  cases used

theorem releaseFirst_own (kept : Kept port) (here : port.table.slots[i]? = some slot)
    (used : slot.used = true) (own : slot.bufferHeader = some header)
    (first : ∀ j other, j < i → port.table.slots[j]? = some other → port.matches (port.pBuffer header) other = false)
    (done : port.releaseFirst (some header) = some port') :
    port'.table.slots = port.table.slots.set i Slot.free := by
  have holds : port.matches (port.pBuffer header) slot = true := by
    simp [PortTable.matches, used, own]
  have allocated := kept.headers slot (mem_of_getElem? here) used
  unfold PortTable.releaseFirst at done
  dsimp only at done
  rw [findIdx?_first here holds first] at done
  cases done
  simp [PortTable.release, Table.set, here, allocated, Slot.free]

omit [DecidableEq B] in
theorem registered_of_slot (here : port.table.slots[i]? = some slot) (used : slot.used = true)
    (own : slot.bufferHeader = some header) : port.registered header = true := by
  apply any_eq_true.mpr
  exact ⟨slot, mem_of_getElem? here, by simp [used, own]⟩

omit [DecidableEq B] in
theorem withStray_pBuffer (registered : port.registered header = true) (pBufferHdr : Option H)
    (stray : Option B) :
    (port.withStray pBufferHdr stray).pBuffer header = port.pBuffer header := by
  simp [PortTable.withStray, registered]

theorem withStray_matches (here : port.table.slots[i]? = some slot) (buffer : Option B)
    (pBufferHdr : Option H) (stray : Option B) :
    (port.withStray pBufferHdr stray).matches buffer slot = port.matches buffer slot := by
  cases used : slot.used with
  | false => simp [PortTable.matches, used]
  | true =>
    cases own : slot.bufferHeader with
    | none => simp [PortTable.matches, own]
    | some header =>
      have registered := registered_of_slot here used own
      simp [PortTable.matches, own, withStray_pBuffer registered]

theorem freeBuffer_kept (kept : Kept port) (done : port.freeBuffer caller pBufferHdr = some port') :
    Kept port' := by
  rcases freeBuffer_cases done with ⟨-, same⟩ | ⟨-, middle, released, table, number, -, -, -⟩
  · rw [same]
    exact { kept with }
  rcases releaseFirst_cases kept released with same |
    ⟨header, i, slot, -, here, used, -, slots, less, -, -⟩
  · rw [same] at table number
    refine ⟨?_, ?_⟩
    · rw [number, PortTable.count, table]
      exact kept.counted
    · rw [table]
      exact kept.headers
  · rw [← table] at slots
    have count : port'.count + 1 = port.count := by
      rw [PortTable.count, slots]
      exact countP_set_free here used rfl
    refine kept.set slots (fun wrong => by cases wrong) ?_
    rw [number, less, kept.counted]
    omega

section

variable {caller : Caller} {pBufferHdr : Option H} {stray : Option B} {middle : PortTable H B n}

theorem own_of_right (kept : Kept port)
    (released : (port.withStray pBufferHdr stray).releaseFirst pBufferHdr = some middle)
    (table : port'.table = middle.table) (ret : port'.ret = .errorNone)
    (right : Right port (.freeBuffer caller pBufferHdr stray) port') :
    OwnBufferFirst port (.freeBuffer caller pBufferHdr stray) := by
  intro _
  have entered : Kept (port.withStray pBufferHdr stray) := { kept with }
  obtain ⟨header, i, slot, hdr, here, used, own, slots⟩ := right.freed _ _ _ rfl ret
  refine ⟨header, i, slot, hdr, here, used, own, ?_⟩
  rw [table] at slots
  rcases releaseFirst_cases entered released with same |
    ⟨header', j, slot', hdr', here', used', first, slots', -⟩
  · rw [same] at slots
    exact absurd slots (set_free_ne here used)
  · rw [hdr, some_inj] at hdr'
    subst hdr'
    have index : i = j := set_free_inj here used (slots.symm.trans slots')
    subst index
    intro j other before there
    have apart := first j other before there
    rw [withStray_matches there, withStray_pBuffer (registered_of_slot here used own)] at apart
    exact apart

theorem right_of_own (kept : Kept port) (after : Kept port')
    (released : (port.withStray pBufferHdr stray).releaseFirst pBufferHdr = some middle)
    (table : port'.table = middle.table)
    (number : port'.assignedBufferNum = middle.assignedBufferNum)
    (loaded : port'.loadedResource = middle.loadedResource)
    (unloaded : port'.unloadedResource =
      middle.unloadedResource + (if middle.assignedBufferNum = 0 then 1 else 0))
    (passed : freeBufferCheck caller = .errorNone)
    (ownFirst : OwnBufferFirst port (.freeBuffer caller pBufferHdr stray)) :
    Right port (.freeBuffer caller pBufferHdr stray) port' := by
  have entered : Kept (port.withStray pBufferHdr stray) := { kept with }
  obtain ⟨header, i, slot, hdr, here, used, own, first⟩ := ownFirst passed
  subst hdr
  have slots : middle.table.slots = port.table.slots.set i Slot.free := by
    apply releaseFirst_own entered here used own _ released
    intro j other before there
    have there' : port.table.slots[j]? = some other := there
    rw [withStray_matches there', withStray_pBuffer (registered_of_slot here used own)]
    exact first j other before there
  have count : port'.count + 1 = port.count := by
    rw [PortTable.count, table, slots]
    exact countP_set_free here used rfl
  rcases releaseFirst_cases entered released with same |
    ⟨_, _, _, -, -, -, -, -, -, kept_loaded, kept_unloaded⟩
  · rw [same] at slots
    exact absurd slots (set_free_ne here used)
  refine ⟨after.counted, ?_, ?_, ?_⟩
  · intro caller' pBufferHdr' stray' call _
    cases call
    exact ⟨header, i, slot, rfl, here, used, own, by rw [table]; exact slots⟩
  · have bound := count_le port
    rw [loaded, kept_loaded, if_neg (by omega)]
    rfl
  · have counted := after.counted
    rw [number] at counted
    rw [unloaded, kept_unloaded, counted]
    by_cases empty : port'.count = 0
    · rw [if_pos (by omega), if_pos ⟨by omega, empty⟩]
      rfl
    · rw [if_neg (by omega), if_neg (by omega)]
      rfl

theorem freeBuffer_right_iff (kept : Kept port)
    (done : (port.withStray pBufferHdr stray).freeBuffer caller pBufferHdr = some port') :
    Right port (.freeBuffer caller pBufferHdr stray) port' ↔
      OwnBufferFirst port (.freeBuffer caller pBufferHdr stray) := by
  have entered : Kept (port.withStray pBufferHdr stray) := { kept with }
  have after := freeBuffer_kept entered done
  rcases freeBuffer_cases done with ⟨refused, same⟩ |
    ⟨passed, middle, released, table, number, loaded, unloaded, ret⟩
  · -- an error changes nothing
    subst same
    constructor
    · intro _ passed
      exact absurd passed refused
    · intro _
      exact ⟨after.counted, fun _ _ _ call none => by cases call; exact absurd none refused,
        by simp [PortTable.withStray, PortTable.count],
        by simp [PortTable.withStray, PortTable.count]⟩
  · exact ⟨own_of_right kept released table ret,
      right_of_own kept after released table number loaded unloaded passed⟩

end

theorem step_kept {call : Call H B} (kept : Kept port) (taken : port.step call = some port') :
    Kept port' ∧ (Right port call port' ↔ OwnBufferFirst port call) := by
  cases call with
  | useBuffer caller header pBuffer =>
    simp only [PortTable.step] at taken
    split at taken
    · cases taken
    · cases taken
      have right := useBuffer_right kept caller header pBuffer
      exact ⟨right.1, fun _ => trivial, fun _ => right.2⟩
  | allocateBuffer caller buffer header =>
    simp only [PortTable.step] at taken
    split at taken
    · cases taken
    · cases taken
      have right := allocateBuffer_right kept caller buffer header
      exact ⟨right.1, fun _ => trivial, fun _ => right.2⟩
  | freeBuffer caller pBufferHdr stray =>
    have entered : Kept (port.withStray pBufferHdr stray) := { kept with }
    exact ⟨freeBuffer_kept entered taken, freeBuffer_right_iff kept taken⟩

end

def plainCaller : Caller := ⟨some .errorNone, true, true, .idle, false⟩

def sharedBuffer : List (Call Nat Nat) :=
  [.useBuffer plainCaller (some 1) (some 7), .useBuffer plainCaller (some 2) (some 7),
    .freeBuffer plainCaller (some 2) none]

def strayHeader : List (Call Nat Nat) := [.freeBuffer plainCaller (some 9) none]

end PortBuffers
