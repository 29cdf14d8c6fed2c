import SamsungHardware.OmxComponents.ResourceManager

/- `SEC_OMX_ComponentStateSet` of SEC_OMX_Basecomponent.c: the state of a component, its place in
   the lists of the resource manager and the objects of its buffer processing thread. The
   results of all calls that may fail are given with the command. Waiting for buffers, flushing
   and the posting of semaphores change none of these and are left out; destroying an object
   that exists succeeds. -/
namespace ComponentState
open ResourceManager Function

abbrev allPortNum : Nat := 2

scoped instance : NeZero allPortNum := ⟨nofun⟩

def allPorts : List (Fin allPortNum) := [0, 1]

/-- What a handle refers to. A handle that is not cleared dangles when its object is destroyed,
    and is misused when it is then destroyed again. -/
inductive Handle where
  | null | live | dangling | misused
  deriving DecidableEq, Repr

/-- A handle, and the number of objects that were created through it and are out of reach. -/
structure Slot where
  handle : Handle
  lost : Nat
  deriving DecidableEq, Repr

def Slot.overwrite (slot : Slot) (handle : Handle) : Slot :=
  ⟨handle, if slot.handle = .live then slot.lost + 1 else slot.lost⟩

def Slot.terminate (slot : Slot) (handle : Handle) : Slot :=
  match slot.handle with
  | .null => slot
  | .live => ⟨handle, slot.lost⟩
  | .dangling | .misused => ⟨.misused, slot.lost⟩

structure Runtime where
  (hBufferProcess pauseEvent : Slot)
  (bufferSemID bufferMutex : Fin allPortNum → Slot)

structure Component where
  codecType : Option HwCodec
  currentState : OmxState
  runtime : Runtime

structure World (C : Type) where
  component : C → Component
  lists : ResourceManager.Lists C

structure Port where
  (tunneled supplier enabled : Bool)
  deriving DecidableEq, Repr

/-- What a command finds: the priority of its component, the ports, and the results of the
    calls that it makes. -/
structure Results where
  groupPriority : Nat
  outside : Outside
  ports : Fin allPortNum → Port
  (allocateTunnelBuffer freeTunnelBuffer : Fin allPortNum → OmxError)
  mfcComponentInit : OmxError
  signalCreate : Bool
  (semaphoreCreate mutexCreate : Fin allPortNum → Bool)
  threadCreate : Bool

variable {C : Type} [DecidableEq C] (world : World C) (c : C)

def World.setState (state : OmxState) : World C :=
  { world with
    component := update world.component c
      { world.component c with currentState := state } }

def World.setRuntime (runtime : Runtime) : World C :=
  { world with
    component := update world.component c { world.component c with runtime := runtime } }

def tunnelCalls (needed : Fin allPortNum → Bool) (result : Fin allPortNum → OmxError) :
    List (Fin allPortNum) → OmxError
  | [] => .errorNone
  | i :: ports =>
    if needed i = true ∧ result i ≠ .errorNone then result i else tunnelCalls needed result ports

variable (r : Results)

def allocateTunnelBuffers : OmxError :=
  tunnelCalls (fun i => (r.ports i).tunneled && (r.ports i).supplier && (r.ports i).enabled)
    r.allocateTunnelBuffer allPorts

def freeTunnelBuffers : OmxError :=
  tunnelCalls (fun i => (r.ports i).tunneled && (r.ports i).supplier) r.freeTunnelBuffer allPorts

def createEach (created : Fin allPortNum → Bool) :
    List (Fin allPortNum) → (Fin allPortNum → Slot) → Bool × (Fin allPortNum → Slot)
  | [], slots => (true, slots)
  | i :: ports, slots =>
    if created i then
      createEach created ports (update slots i ((slots i).overwrite .live))
    else (false, slots)

/-- The thread is joined, and everything it used is destroyed; only `pauseEvent` keeps its
    value. -/
def terminateRuntime (runtime : Runtime) : Runtime where
  hBufferProcess := runtime.hBufferProcess.terminate .null
  pauseEvent := runtime.pauseEvent.terminate .dangling
  bufferSemID i := (runtime.bufferSemID i).terminate .null
  bufferMutex i := (runtime.bufferMutex i).terminate .null

def createRuntime (runtime : Runtime) (r : Results) : OmxError × Runtime :=
  -- the result of SEC_OSAL_SignalCreate is not looked at
  let runtime := if r.signalCreate then
      { runtime with pauseEvent := runtime.pauseEvent.overwrite .live }
    else runtime
  let (created, bufferSemID) := createEach r.semaphoreCreate allPorts runtime.bufferSemID
  let runtime := { runtime with bufferSemID := bufferSemID }
  if created = false then (.insufficientResources, runtime)
  else
    let (created, bufferMutex) := createEach r.mutexCreate allPorts runtime.bufferMutex
    let runtime := { runtime with bufferMutex := bufferMutex }
    if created = false then (.insufficientResources, runtime)
    else if r.threadCreate then
      (.errorNone, { runtime with hBufferProcess := runtime.hBufferProcess.overwrite .live })
    else
      let runtime := { runtime with hBufferProcess := runtime.hBufferProcess.overwrite .null }
      (.insufficientResources, terminateRuntime runtime)

def toInvalid : OmxError × World C :=
  let component := world.component c
  let world := if component.currentState = .waitForResources then
      { world with lists := (outWaitForResource world.lists component.codecType c).2 }
    else world
  let world := if component.runtime.hBufferProcess.handle ≠ .null then
      world.setRuntime c (terminateRuntime component.runtime)
    else world
  (.invalidState, world.setState c .invalid)

def toLoaded : OmxError × World C :=
  let component := world.component c
  match component.currentState with
  | .idle =>
    let world := world.setRuntime c (terminateRuntime component.runtime)
    let ret := freeTunnelBuffers r
    if ret ≠ .errorNone then (ret, world) else (.errorNone, world.setState c .loaded)
  | .waitForResources =>
    let (ret, lists) := outWaitForResource world.lists component.codecType c
    (ret, { world with lists := lists }.setState c .loaded)
  | _ => (.incorrectStateTransition, world)

def toIdle : OmxError × World C :=
  let component := world.component c
  match component.currentState with
  | .loaded =>
    let ret := allocateTunnelBuffers r
    if ret ≠ .errorNone then (ret, world)
    else if r.mfcComponentInit ≠ .errorNone then (r.mfcComponentInit, world)
    else
      let (ret, runtime) := createRuntime component.runtime r
      let world := world.setRuntime c runtime
      if ret ≠ .errorNone then (ret, world) else (.errorNone, world.setState c .idle)
  | .executing | .pause | .waitForResources => (.errorNone, world.setState c .idle)
  | _ => (.incorrectStateTransition, world)

def toExecuting : OmxError × World C :=
  match (world.component c).currentState with
  | .idle | .pause => (.errorNone, world.setState c .executing)
  | _ => (.incorrectStateTransition, world)

def toPause : OmxError × World C :=
  match (world.component c).currentState with
  | .idle | .executing => (.errorNone, world.setState c .pause)
  | _ => (.incorrectStateTransition, world)

def toWaitForResources : OmxError × World C :=
  let component := world.component c
  match component.currentState with
  | .loaded =>
    let (ret, lists) :=
      inWaitForResource world.lists component.codecType ⟨c, r.groupPriority⟩ r.outside
    (ret, { world with lists := lists }.setState c .waitForResources)
  | _ => (.incorrectStateTransition, world)

def active : OmxState → Bool
  | .idle | .executing | .pause => true
  | .invalid | .loaded | .waitForResources => false

/-- The transitions in front of which the component gives its resource back. -/
def releases : OmxState → Option OmxState → Bool
  | .idle, some .loaded => true
  | .idle, some .invalid => true
  | .executing, some .invalid => true
  | .pause, some .invalid => true
  | _, _ => false

def switchState (destState : Option OmxState) (r : Results) : OmxError × World C :=
  match destState with
  | some .invalid => toInvalid world c
  | some .loaded => toLoaded world c r
  | some .idle => toIdle world c r
  | some .executing => toExecuting world c
  | some .pause => toPause world c
  | some .waitForResources => toWaitForResources world c r
  | none => (.incorrectStateTransition, world)

/-- `destState` is `none` for a number that is no state. -/
def componentStateSet (destState : Option OmxState) (r : Results) : OmxError × World C :=
  let component := world.component c
  let currentState := component.currentState
  if destState = some currentState then (.sameState, world)
  else if currentState = .invalid then (.invalidState, world)
  else
    let (ret, lists) := if currentState = .loaded ∧ destState = some .idle then
        getResource world.lists component.codecType ⟨c, r.groupPriority⟩
          (fun c => (world.component c).currentState) r.outside
      else (.errorNone, world.lists)
    if ret ≠ .errorNone then (ret, { world with lists := lists })
    else
      let lists := if releases currentState destState then
          (releaseResource lists component.codecType c r.outside).2
        else lists
      switchState { world with lists := lists } c destState r

/-- Only the component of the command changes, and not its codec. -/
structure Framed (world world' : World C) (c : C) : Prop where
  others : ∀ other, other ≠ c → world'.component other = world.component other
  codec : (world'.component c).codecType = (world.component c).codecType

theorem Framed.codecType {world world' : World C} {c : C} (framed : Framed world world' c)
    (other : C) : (world'.component other).codecType = (world.component other).codecType := by
  by_cases self : other = c
  · rw [self, framed.codec]
  · rw [framed.others other self]

/-- A transition behind the acquisition or release of the resource: the owners stay the same,
    and the component is in the given state with the given objects. -/
structure Switched (world world' : World C) (c : C) (state : OmxState) (runtime : Runtime) :
    Prop where
  framed : Framed world world' c
  owners : world'.lists.components = world.lists.components
  state : (world'.component c).currentState = state
  runtime : (world'.component c).runtime = runtime

section

variable (world : World C) (c : C)

omit [DecidableEq C] in
theorem Switched.refl :
    Switched world world c (world.component c).currentState (world.component c).runtime :=
  ⟨⟨fun _ _ => rfl, rfl⟩, rfl, rfl, rfl⟩

omit [DecidableEq C] in
theorem Switched.lists {lists : ResourceManager.Lists C}
    (owners : lists.components = world.lists.components) :
    Switched world { world with lists := lists } c (world.component c).currentState
      (world.component c).runtime :=
  ⟨⟨fun _ _ => rfl, rfl⟩, owners, rfl, rfl⟩

variable {world c} {world' : World C} {state : OmxState} {runtime : Runtime}

theorem Switched.setState (before : Switched world world' c state runtime)
    (state' : OmxState) : Switched world (world'.setState c state') c state' runtime := by
  obtain ⟨⟨others, codec⟩, owners, _, objects⟩ := before
  refine ⟨⟨fun other different => ?_, ?_⟩, owners, ?_, ?_⟩
  · exact (update_of_ne different _ _).trans (others other different)
  · simp [World.setState, codec]
  · simp [World.setState]
  · simp [World.setState, objects]

theorem Switched.setRuntime (before : Switched world world' c state runtime)
    (runtime' : Runtime) : Switched world (world'.setRuntime c runtime') c state runtime' := by
  obtain ⟨⟨others, codec⟩, owners, same, _⟩ := before
  refine ⟨⟨fun other different => ?_, ?_⟩, owners, ?_, ?_⟩
  · exact (update_of_ne different _ _).trans (others other different)
  · simp [World.setRuntime, codec]
  · simp [World.setRuntime, same]
  · simp [World.setRuntime]

end

theorem createEach_fst (created : Fin allPortNum → Bool) (ports : List (Fin allPortNum))
    (slots : Fin allPortNum → Slot) : (createEach created ports slots).1 = ports.all created := by
  induction ports generalizing slots with
  | nil => rfl
  | cons i ports ih =>
    rw [createEach, List.all_cons]
    cases created i
    · rfl
    · exact ih _

def runtimeCreated (r : Results) : Bool :=
  allPorts.all r.semaphoreCreate && allPorts.all r.mutexCreate && r.threadCreate

theorem createRuntime_ret (runtime : Runtime) (r : Results) :
    (createRuntime runtime r).1 = .errorNone ↔ runtimeCreated r = true := by
  unfold createRuntime runtimeCreated
  simp only [createEach_fst]
  cases allPorts.all r.semaphoreCreate
  · simp
  cases allPorts.all r.mutexCreate
  · simp
  cases r.threadCreate
  · simp
  · simp

def starts (r : Results) : Bool :=
  allocateTunnelBuffers r = .errorNone && r.mfcComponentInit = .errorNone && runtimeCreated r

def nextState (currentState : OmxState) (destState : Option OmxState) (r : Results) : OmxState :=
  match destState, currentState with
  | some .invalid, _ => .invalid
  | some .loaded, .idle => if freeTunnelBuffers r = .errorNone then .loaded else .idle
  | some .loaded, .waitForResources => .loaded
  | some .idle, .loaded => if starts r then .idle else .loaded
  | some .idle, .executing => .idle
  | some .idle, .pause => .idle
  | some .idle, .waitForResources => .idle
  | some .executing, .idle => .executing
  | some .executing, .pause => .executing
  | some .pause, .idle => .pause
  | some .pause, .executing => .pause
  | some .waitForResources, .loaded => .waitForResources
  | _, _ => currentState

def nextRuntime (component : Component) (destState : Option OmxState) (r : Results) : Runtime :=
  match destState, component.currentState with
  | some .invalid, _ =>
    if component.runtime.hBufferProcess.handle ≠ .null then terminateRuntime component.runtime
    else component.runtime
  | some .loaded, .idle => terminateRuntime component.runtime
  | some .idle, .loaded =>
    if allocateTunnelBuffers r = .errorNone ∧ r.mfcComponentInit = .errorNone then
      (createRuntime component.runtime r).2
    else component.runtime
  | _, _ => component.runtime

theorem toInvalid_switched (world : World C) (c : C) :
    Switched world (toInvalid world c).2 c .invalid
      (if (world.component c).runtime.hBufferProcess.handle ≠ .null then
        terminateRuntime (world.component c).runtime else (world.component c).runtime) := by
  dsimp only [toInvalid]
  have waiting : Switched world (if (world.component c).currentState = .waitForResources then
      { world with lists := (outWaitForResource world.lists (world.component c).codecType c).2 }
      else world) c (world.component c).currentState (world.component c).runtime := by
    split_ifs
    · exact Switched.lists world c (outWaitForResource_components _ _ _)
    · exact Switched.refl world c
  by_cases running : (world.component c).runtime.hBufferProcess.handle ≠ .null
  · rw [if_pos running, if_pos running]
    exact (waiting.setRuntime _).setState _
  · rw [if_neg running, if_neg running]
    exact waiting.setState _

theorem toLoaded_switched (world : World C) (c : C) (r : Results) :
    Switched world (toLoaded world c r).2 c
      (nextState (world.component c).currentState (some .loaded) r)
      (nextRuntime (world.component c) (some .loaded) r) := by
  have start := Switched.refl world c
  dsimp only [toLoaded, nextState, nextRuntime]
  cases state : (world.component c).currentState <;> rw [state] at start
  case idle =>
    by_cases freed : freeTunnelBuffers r = .errorNone
    · rw [if_neg (not_not.mpr freed), if_pos freed]
      exact (start.setRuntime _).setState _
    · rw [if_pos freed, if_neg freed]
      exact start.setRuntime _
  case waitForResources =>
    exact (Switched.lists world c (outWaitForResource_components _ _ _)).setState _
  all_goals exact start

theorem toIdle_switched (world : World C) (c : C) (r : Results) :
    Switched world (toIdle world c r).2 c
      (nextState (world.component c).currentState (some .idle) r)
      (nextRuntime (world.component c) (some .idle) r) := by
  have start := Switched.refl world c
  dsimp only [toIdle, nextState, nextRuntime]
  cases state : (world.component c).currentState <;> rw [state] at start
  case loaded =>
    have created := createRuntime_ret (world.component c).runtime r
    dsimp only
    by_cases tunnel : allocateTunnelBuffers r = .errorNone
    · by_cases mfc : r.mfcComponentInit = .errorNone
      · rw [if_neg (not_not.mpr tunnel), if_neg (not_not.mpr mfc)]
        by_cases run : (createRuntime (world.component c).runtime r).1 = .errorNone
        · have all : starts r = true := by simp [starts, tunnel, mfc, created.mp run]
          rw [if_neg (not_not.mpr run), if_pos all, if_pos ⟨tunnel, mfc⟩]
          exact (start.setRuntime _).setState _
        · have stops : starts r ≠ true := fun all => run (created.mpr (by simp_all [starts]))
          rw [if_pos run, if_neg stops, if_pos ⟨tunnel, mfc⟩]
          exact start.setRuntime _
      · have stops : starts r ≠ true := by simp [starts, mfc]
        rw [if_neg (not_not.mpr tunnel), if_pos mfc, if_neg stops, if_neg fun both => mfc both.2]
        exact start
    · have stops : starts r ≠ true := by simp [starts, tunnel]
      rw [if_pos tunnel, if_neg stops, if_neg fun both => tunnel both.1]
      exact start
  case executing => exact start.setState _
  case pause => exact start.setState _
  case waitForResources => exact start.setState _
  all_goals exact start

theorem toWaitForResources_switched (world : World C) (c : C) (r : Results) :
    Switched world (toWaitForResources world c r).2 c
      (nextState (world.component c).currentState (some .waitForResources) r)
      (nextRuntime (world.component c) (some .waitForResources) r) := by
  have start := Switched.refl world c
  dsimp only [toWaitForResources, nextState, nextRuntime]
  cases state : (world.component c).currentState <;> rw [state] at start
  case loaded =>
    exact (Switched.lists world c (inWaitForResource_components _ _ _ _)).setState _
  all_goals exact start

theorem switchState_switched (world : World C) (c : C) (destState : Option OmxState)
    (r : Results) :
    Switched world (switchState world c destState r).2 c
      (nextState (world.component c).currentState destState r)
      (nextRuntime (world.component c) destState r) := by
  have start := Switched.refl world c
  cases destState with
  | none => exact start
  | some destState =>
    cases destState with
    | invalid => exact toInvalid_switched world c
    | loaded => exact toLoaded_switched world c r
    | idle => exact toIdle_switched world c r
    | executing =>
      dsimp only [switchState, toExecuting, nextState, nextRuntime]
      cases state : (world.component c).currentState <;> rw [state] at start <;>
        first | exact start | exact start.setState _
    | pause =>
      dsimp only [switchState, toPause, nextState, nextRuntime]
      cases state : (world.component c).currentState <;> rw [state] at start <;>
        first | exact start | exact start.setState _
    | waitForResources => exact toWaitForResources_switched world c r

section

variable {world : World C} {c : C} {destState : Option OmxState} {r : Results}

theorem stateSet_refused (refused : destState = some (world.component c).currentState ∨
    (world.component c).currentState = .invalid) :
    (componentStateSet world c destState r).2 = world := by
  dsimp only [componentStateSet]
  by_cases same : destState = some (world.component c).currentState
  · rw [if_pos same]
  · rw [if_neg same, if_pos (refused.resolve_left same)]

theorem stateSet_acquire (loaded : (world.component c).currentState = .loaded)
    {get : OmxError × ResourceManager.Lists C}
    (got : getResource world.lists (world.component c).codecType ⟨c, r.groupPriority⟩
      (fun c => (world.component c).currentState) r.outside = get) :
    componentStateSet world c (some .idle) r =
      if get.1 ≠ .errorNone then (get.1, { world with lists := get.2 })
      else switchState { world with lists := get.2 } c (some .idle) r := by
  dsimp only [componentStateSet]
  simp [loaded, releases, got]

theorem releases_iff {currentState : OmxState} {destState : Option OmxState} :
    releases currentState destState = true ↔
      (currentState = .idle ∧ destState = some .loaded) ∨
        ((currentState = .idle ∨ currentState = .executing ∨ currentState = .pause) ∧
          destState = some .invalid) := by
  unfold releases
  split <;> simp_all
  grind

theorem stateSet_release (gives : releases (world.component c).currentState destState = true) :
    componentStateSet world c destState r =
      switchState { world with
        lists := (releaseResource world.lists (world.component c).codecType c r.outside).2 }
        c destState r := by
  have kind := releases_iff.mp gives
  have other : destState ≠ some (world.component c).currentState := by grind
  have valid : (world.component c).currentState ≠ .invalid := by grind
  have free : ¬ ((world.component c).currentState = .loaded ∧ destState = some .idle) := by grind
  dsimp only [componentStateSet]
  rw [if_neg other, if_neg valid, if_neg free, if_pos gives]
  rfl

theorem stateSet_plain (other : destState ≠ some (world.component c).currentState)
    (valid : (world.component c).currentState ≠ .invalid)
    (free : ¬ ((world.component c).currentState = .loaded ∧ destState = some .idle))
    (keeps : releases (world.component c).currentState destState = false) :
    componentStateSet world c destState r = switchState world c destState r := by
  dsimp only [componentStateSet]
  rw [if_neg other, if_neg valid, if_neg free, keeps]
  rfl

end

structure Command (C : Type) where
  component : C
  destState : Option OmxState
  results : Results

def perform (world : World C) (command : Command C) : World C :=
  (componentStateSet world command.component command.destState command.results).2

def initialWorld (codecType : C → Option HwCodec) : World C where
  component c := ⟨codecType c, .loaded, ⟨⟨.null, 0⟩, ⟨.null, 0⟩, fun _ => ⟨.null, 0⟩,
    fun _ => ⟨.null, 0⟩⟩⟩
  lists := ⟨fun _ => [], fun _ => []⟩

def allWell : Results where
  groupPriority := 0
  outside := ⟨true, .errorNone⟩
  ports _ := ⟨false, false, true⟩
  allocateTunnelBuffer _ := .errorNone
  freeTunnelBuffer _ := .errorNone
  mfcComponentInit := .errorNone
  signalCreate := true
  semaphoreCreate _ := true
  mutexCreate _ := true
  threadCreate := true

def Acquires (world : World C) (command : Command C) : Prop :=
  (world.component command.component).currentState = .loaded → command.destState = some .idle →
    (getResource world.lists (world.component command.component).codecType
      ⟨command.component, command.results.groupPriority⟩
      (fun c => (world.component c).currentState) command.results.outside).1 = .errorNone

/-- A refused command changes no component; every other one is a transition, behind the
    acquisition or release of the resource. -/
theorem command_effect (world : World C) (command : Command C) :
    ((perform world command).component = world.component ∧
      (command.destState = some (world.component command.component).currentState ∨
        (world.component command.component).currentState = .invalid ∨
        ¬ Acquires world command)) ∨
    (Acquires world command ∧ ∃ lists,
      Switched { world with lists := lists } (perform world command) command.component
        (nextState (world.component command.component).currentState command.destState
          command.results)
        (nextRuntime (world.component command.component) command.destState command.results)) := by
  obtain ⟨c, destState, r⟩ := command
  dsimp only [perform]
  by_cases refused : destState = some (world.component c).currentState ∨
      (world.component c).currentState = .invalid
  · rw [stateSet_refused refused]
    exact Or.inl ⟨rfl, refused.elim Or.inl fun invalid => Or.inr (Or.inl invalid)⟩
  rw [not_or] at refused
  by_cases acquires : (world.component c).currentState = .loaded ∧ destState = some .idle
  · obtain ⟨loaded, rfl⟩ := acquires
    rw [stateSet_acquire loaded rfl]
    by_cases got : (getResource world.lists (world.component c).codecType ⟨c, r.groupPriority⟩
        (fun c => (world.component c).currentState) r.outside).1 = .errorNone
    · rw [if_neg (not_not.mpr got)]
      exact Or.inr ⟨fun _ _ => got, _, switchState_switched _ c (some .idle) r⟩
    · rw [if_pos got]
      exact Or.inl ⟨rfl, Or.inr (Or.inr fun given => got (given loaded rfl))⟩
  have given : Acquires world ⟨c, destState, r⟩ := fun loaded idle => absurd ⟨loaded, idle⟩ acquires
  cases gives : releases (world.component c).currentState destState with
  | true =>
    rw [stateSet_release gives]
    exact Or.inr ⟨given, _, switchState_switched _ c destState r⟩
  | false =>
    rw [stateSet_plain refused.1 refused.2 acquires gives]
    exact Or.inr ⟨given, world.lists, switchState_switched world c destState r⟩

theorem command_framed (world : World C) (command : Command C) :
    Framed world (perform world command) command.component := by
  rcases command_effect world command with ⟨same, _⟩ | ⟨_, lists, switched⟩
  · exact ⟨fun other _ => congrFun same other, by rw [same]⟩
  · exact ⟨switched.framed.others, switched.framed.codec⟩

end ComponentState
