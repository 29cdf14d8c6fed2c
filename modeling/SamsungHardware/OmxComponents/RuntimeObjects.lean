import SamsungHardware.Library.StepRuns
import SamsungHardware.OmxComponents.ComponentState

/- The objects of the buffer processing thread against the states of the components. They are
   created on the way from Loaded to Idle and destroyed on the way back. An exit between the
   creations, a transition that fails behind the destruction, and the way to Idle that creates
   nothing leave a component with objects that do not fit its state. -/
namespace RuntimeObjects
open ResourceManager ComponentState StepRuns

structure Every (P : Slot → Prop) (runtime : Runtime) : Prop where
  hBufferProcess : P runtime.hBufferProcess
  pauseEvent : P runtime.pauseEvent
  bufferSemID : ∀ i, P (runtime.bufferSemID i)
  bufferMutex : ∀ i, P (runtime.bufferMutex i)

def Live (slot : Slot) : Prop := slot.handle = .live

def Gone (slot : Slot) : Prop := (slot.handle = .null ∨ slot.handle = .dangling) ∧ slot.lost = 0

def Matches (component : Component) : Prop :=
  (active component.currentState = true → Every Live component.runtime) ∧
    (component.currentState = .loaded → Every Gone component.runtime)

def ObjectsMatch {C : Type} (world : World C) : Prop := ∀ c, Matches (world.component c)

def Single (slot : Slot) : Prop := slot.handle = .live ∧ slot.lost = 0

def Fits (state : OmxState) (runtime : Runtime) : Prop :=
  match state with
  | .invalid => True
  | .loaded | .waitForResources => Every Gone runtime
  | .idle | .executing | .pause => Every Single runtime

def Sound (component : Component) : Prop := Fits component.currentState component.runtime

variable {slot : Slot} {runtime : Runtime}

theorem Every.mono {P Q : Slot → Prop} (weaker : ∀ slot, P slot → Q slot) (every : Every P runtime) :
    Every Q runtime where
  hBufferProcess := weaker _ every.hBufferProcess
  pauseEvent := weaker _ every.pauseEvent
  bufferSemID i := weaker _ (every.bufferSemID i)
  bufferMutex i := weaker _ (every.bufferMutex i)

theorem Sound.matches {component : Component} (sound : Sound component) : Matches component := by
  unfold Sound Fits at sound
  constructor
  · intro running
    cases state : component.currentState <;> rw [state] at sound running
    case invalid => cases running
    case loaded => cases running
    case waitForResources => cases running
    all_goals exact sound.mono fun _ single => single.1
  · intro loaded
    rw [loaded] at sound
    exact sound

theorem Gone.overwrite (gone : Gone slot) : Single (slot.overwrite .live) := by
  obtain ⟨free | free, lost⟩ := gone
  · simp [Single, Slot.overwrite, free, lost]
  · simp [Single, Slot.overwrite, free, lost]

theorem Gone.not_live (gone : Gone slot) : ¬ Live slot := by
  intro live
  obtain ⟨free | free, _⟩ := gone
  · cases live.symm.trans free
  · cases live.symm.trans free

theorem Single.not_gone (single : Single slot) : ¬ Gone slot :=
  fun gone => gone.not_live single.1

theorem Single.terminate_null (single : Single slot) : Gone (slot.terminate .null) := by
  simp [Gone, Slot.terminate, single.1, single.2]

theorem Single.terminate_dangling (single : Single slot) : Gone (slot.terminate .dangling) := by
  simp [Gone, Slot.terminate, single.1, single.2]

theorem terminateRuntime_gone (single : Every Single runtime) :
    Every Gone (terminateRuntime runtime) where
  hBufferProcess := single.hBufferProcess.terminate_null
  pauseEvent := single.pauseEvent.terminate_dangling
  bufferSemID i := (single.bufferSemID i).terminate_null
  bufferMutex i := (single.bufferMutex i).terminate_null

section

variable {created : Fin allPortNum → Bool} {slots : Fin allPortNum → Slot}

theorem createEach_all (all : allPorts.all created = true) (gone : ∀ i, Gone (slots i))
    (i : Fin allPortNum) : Single ((createEach created allPorts slots).2 i) := by
  simp only [allPorts, List.all_cons, List.all_nil, Bool.and_true, Bool.and_eq_true] at all
  simp only [createEach, allPorts, all, if_true]
  fin_cases i
  · exact (gone 0).overwrite
  · exact (gone 1).overwrite

theorem createEach_first (first : created 0 = true) (gone : ∀ i, Gone (slots i)) :
    Single ((createEach created allPorts slots).2 0) := by
  simp only [createEach, allPorts, first, if_true]
  split_ifs
  · exact (gone 0).overwrite
  · exact (gone 0).overwrite

theorem createEach_stopped (first : created 0 = false) :
    (createEach created allPorts slots).2 = slots := by
  simp [createEach, allPorts, first]

variable {runtime : Runtime} {r : Results}

def eventCreated (runtime : Runtime) (r : Results) : Slot :=
  if r.signalCreate then runtime.pauseEvent.overwrite .live else runtime.pauseEvent

theorem createRuntime_semaphores (fails : allPorts.all r.semaphoreCreate = false) :
    (createRuntime runtime r).2 = { runtime with
      pauseEvent := eventCreated runtime r
      bufferSemID := (createEach r.semaphoreCreate allPorts runtime.bufferSemID).2 } := by
  unfold createRuntime eventCreated
  cases r.signalCreate <;> simp [createEach_fst, fails]

theorem createRuntime_mutexes (semaphores : allPorts.all r.semaphoreCreate = true)
    (fails : allPorts.all r.mutexCreate = false) :
    (createRuntime runtime r).2 = { runtime with
      pauseEvent := eventCreated runtime r
      bufferSemID := (createEach r.semaphoreCreate allPorts runtime.bufferSemID).2
      bufferMutex := (createEach r.mutexCreate allPorts runtime.bufferMutex).2 } := by
  unfold createRuntime eventCreated
  cases r.signalCreate <;> simp [createEach_fst, semaphores, fails]

def prepared (runtime : Runtime) (r : Results) (thread : Handle) : Runtime where
  hBufferProcess := runtime.hBufferProcess.overwrite thread
  pauseEvent := eventCreated runtime r
  bufferSemID := (createEach r.semaphoreCreate allPorts runtime.bufferSemID).2
  bufferMutex := (createEach r.mutexCreate allPorts runtime.bufferMutex).2

theorem createRuntime_thread (semaphores : allPorts.all r.semaphoreCreate = true)
    (mutexes : allPorts.all r.mutexCreate = true) :
    (createRuntime runtime r).2 =
      if r.threadCreate then prepared runtime r .live
      else terminateRuntime (prepared runtime r .null) := by
  unfold createRuntime prepared eventCreated
  cases r.signalCreate <;> cases r.threadCreate <;> simp [createEach_fst, semaphores, mutexes]

theorem eventCreated_single (gone : Gone runtime.pauseEvent) (signal : r.signalCreate = true) :
    Single (eventCreated runtime r) := by
  rw [eventCreated, if_pos signal]
  exact gone.overwrite

theorem eventCreated_same (signal : r.signalCreate = false) :
    eventCreated runtime r = runtime.pauseEvent := by
  rw [eventCreated, signal]
  rfl

theorem prepared_single (gone : Every Gone runtime) (signal : r.signalCreate = true)
    (semaphores : allPorts.all r.semaphoreCreate = true)
    (mutexes : allPorts.all r.mutexCreate = true) : Every Single (prepared runtime r .live) where
  hBufferProcess := gone.hBufferProcess.overwrite
  pauseEvent := eventCreated_single gone.pauseEvent signal
  bufferSemID := createEach_all semaphores gone.bufferSemID
  bufferMutex := createEach_all mutexes gone.bufferMutex

/-- Without a thread everything is destroyed again; an event that could not be created is then
    destroyed a second time unless there never was one. -/
theorem prepared_gone (gone : Every Gone runtime)
    (semaphores : allPorts.all r.semaphoreCreate = true)
    (mutexes : allPorts.all r.mutexCreate = true) :
    Every Gone (terminateRuntime (prepared runtime r .null)) ↔
      r.signalCreate = true ∨ runtime.pauseEvent.handle = .null := by
  have thread : Gone ((runtime.hBufferProcess.overwrite .null).terminate .null) := by
    obtain ⟨free | free, lost⟩ := gone.hBufferProcess <;>
      simp [Gone, Slot.overwrite, Slot.terminate, free, lost]
  have rest : Gone ((eventCreated runtime r).terminate .dangling) →
      Every Gone (terminateRuntime (prepared runtime r .null)) := fun event =>
    { hBufferProcess := thread
      pauseEvent := event
      bufferSemID := fun i => (createEach_all semaphores gone.bufferSemID i).terminate_null
      bufferMutex := fun i => (createEach_all mutexes gone.bufferMutex i).terminate_null }
  constructor
  · intro all
    cases signal : r.signalCreate with
    | true => exact Or.inl rfl
    | false =>
      right
      have event : Gone ((eventCreated runtime r).terminate .dangling) := all.pauseEvent
      rw [eventCreated_same signal] at event
      obtain ⟨free | free, _⟩ := gone.pauseEvent
      · exact free
      · simp [Gone, Slot.terminate, free] at event
  · rintro (signal | null)
    · exact rest (eventCreated_single gone.pauseEvent signal).terminate_dangling
    · cases signal : r.signalCreate with
      | true => exact rest (eventCreated_single gone.pauseEvent signal).terminate_dangling
      | false =>
        apply rest
        rw [eventCreated_same signal]
        simp [Gone, Slot.terminate, null, gone.pauseEvent.2]

/-- The creation leaves an object over, or misses one: nothing destroys what was created in
    front of a failing semaphore or mutex, and nothing looks at the event. -/
def spoils (runtime : Runtime) (r : Results) : Bool :=
  if allPorts.all r.semaphoreCreate = false then r.signalCreate || r.semaphoreCreate 0
  else if allPorts.all r.mutexCreate = false then true
  else if r.threadCreate then !r.signalCreate
  else !r.signalCreate && runtime.pauseEvent.handle ≠ .null

variable (gone : Every Gone runtime)
include gone

theorem semaphores_left (fails : allPorts.all r.semaphoreCreate = false) :
    Every Gone (createRuntime runtime r).2 ↔ spoils runtime r = false := by
  rw [createRuntime_semaphores fails, spoils, if_pos fails]
  constructor
  · intro all
    have event : Gone (eventCreated runtime r) := all.pauseEvent
    have semaphore := all.bufferSemID 0
    cases signal : r.signalCreate with
    | true => exact absurd event (eventCreated_single gone.pauseEvent signal).not_gone
    | false =>
      cases first : r.semaphoreCreate 0 with
      | true => exact absurd semaphore (createEach_first first gone.bufferSemID).not_gone
      | false => rfl
  · intro clean
    rw [Bool.or_eq_false_iff] at clean
    rw [createEach_stopped clean.2, eventCreated_same clean.1]
    exact gone

theorem mutexes_left (semaphores : allPorts.all r.semaphoreCreate = true)
    (fails : allPorts.all r.mutexCreate = false) : ¬ Every Gone (createRuntime runtime r).2 := by
  rw [createRuntime_mutexes semaphores fails]
  intro all
  exact (createEach_all semaphores gone.bufferSemID 0).not_gone (all.bufferSemID 0)

theorem failed_creation (fails : runtimeCreated r = false) :
    Every Gone (createRuntime runtime r).2 ↔ spoils runtime r = false := by
  cases semaphores : allPorts.all r.semaphoreCreate with
  | false => exact semaphores_left gone semaphores
  | true =>
    cases mutexes : allPorts.all r.mutexCreate with
    | false =>
      refine iff_of_false (mutexes_left gone semaphores mutexes) ?_
      simp [spoils, semaphores, mutexes]
    | true =>
      have thread : r.threadCreate = false := by
        simpa [runtimeCreated, semaphores, mutexes] using fails
      rw [createRuntime_thread semaphores mutexes, thread, if_neg Bool.false_ne_true,
        prepared_gone gone semaphores mutexes]
      cases signal : r.signalCreate <;> simp [spoils, semaphores, mutexes, thread, signal]

theorem finished_creation (succeeds : runtimeCreated r = true) :
    (spoils runtime r = false → Every Single (createRuntime runtime r).2) ∧
      (spoils runtime r = true → ¬ Every Live (createRuntime runtime r).2) := by
  simp only [runtimeCreated, Bool.and_eq_true] at succeeds
  obtain ⟨⟨semaphores, mutexes⟩, thread⟩ := succeeds
  rw [createRuntime_thread semaphores mutexes, if_pos thread]
  cases signal : r.signalCreate with
  | true =>
    refine ⟨fun _ => prepared_single gone signal semaphores mutexes, fun spoiled => ?_⟩
    simp [spoils, semaphores, mutexes, thread, signal] at spoiled
  | false =>
    refine ⟨fun clean => ?_, fun _ all => ?_⟩
    · simp [spoils, semaphores, mutexes, thread, signal] at clean
    · have event : Live (eventCreated runtime r) := all.pauseEvent
      rw [eventCreated_same signal] at event
      exact gone.pauseEvent.not_live event

end

def Spoils (component : Component) (destState : Option OmxState) (r : Results) : Prop :=
  match component.currentState, destState with
  | .waitForResources, some .idle => True
  | .idle, some .loaded => freeTunnelBuffers r ≠ .errorNone
  | .loaded, some .idle =>
    allocateTunnelBuffers r = .errorNone ∧ r.mfcComponentInit = .errorNone ∧
      spoils component.runtime r = true
  | _, _ => False

section

variable {component : Component} {destState : Option OmxState} {r : Results}

theorem start_sound (loaded : component.currentState = .loaded)
    (gone : Every Gone component.runtime) (clean : ¬ Spoils component (some .idle) r) :
    Fits (nextState component.currentState (some .idle) r)
      (nextRuntime component (some .idle) r) := by
  simp only [Spoils, loaded, not_and, Bool.not_eq_true] at clean
  simp only [nextState, nextRuntime, loaded]
  by_cases ready : allocateTunnelBuffers r = .errorNone ∧ r.mfcComponentInit = .errorNone
  · rw [if_pos ready]
    cases created : runtimeCreated r with
    | true =>
      rw [if_pos (by simp [starts, ready, created])]
      exact (finished_creation gone created).1 (clean ready.1 ready.2)
    | false =>
      rw [if_neg (by simp [starts, created])]
      exact (failed_creation gone created).mpr (clean ready.1 ready.2)
  · have stops : starts r ≠ true := by
      intro all
      simp only [starts, Bool.and_eq_true, decide_eq_true_eq] at all
      exact ready all.1
    rw [if_neg ready, if_neg stops]
    exact gone

theorem stop_sound (idle : component.currentState = .idle)
    (single : Every Single component.runtime) (clean : ¬ Spoils component (some .loaded) r) :
    Fits (nextState component.currentState (some .loaded) r)
      (nextRuntime component (some .loaded) r) := by
  simp only [Spoils, idle, not_not] at clean
  simp only [nextState, nextRuntime, idle, if_pos clean]
  exact terminateRuntime_gone single

/-- One transition keeps objects and state in step unless it is one of those named. -/
theorem transition_sound (sound : Sound component) (clean : ¬ Spoils component destState r) :
    Fits (nextState component.currentState destState r) (nextRuntime component destState r) := by
  unfold Sound at sound
  by_cases starts : component.currentState = .loaded ∧ destState = some .idle
  · obtain ⟨loaded, rfl⟩ := starts
    rw [loaded] at sound
    exact start_sound loaded sound clean
  by_cases stops : component.currentState = .idle ∧ destState = some .loaded
  · obtain ⟨idle, rfl⟩ := stops
    rw [idle] at sound
    exact stop_sound idle sound clean
  cases destState with
  | none =>
    cases state : component.currentState <;> rw [state] at sound <;>
      simpa [nextState, nextRuntime, state] using sound
  | some dest =>
    cases dest <;> cases state : component.currentState <;> rw [state] at sound <;>
      simp_all [nextState, nextRuntime, Fits, Spoils]

theorem transition_spoiled (sound : Sound component) (spoiled : Spoils component destState r)
    {component' : Component}
    (state : component'.currentState = nextState component.currentState destState r)
    (runtime : component'.runtime = nextRuntime component destState r) : ¬ Matches component' := by
  unfold Matches
  rw [state, runtime]
  unfold Sound at sound
  unfold Spoils at spoiled
  rintro ⟨running, resting⟩
  split at spoiled
  case h_1 waiting =>
    rw [waiting] at sound running
    have live : Every Live component.runtime := by
      simpa [nextState, nextRuntime, waiting, active] using running
    exact sound.pauseEvent.not_live live.pauseEvent
  case h_2 idle =>
    rw [idle] at sound running
    have live : Every Live (terminateRuntime component.runtime) := by
      simpa [nextState, nextRuntime, idle, active, spoiled] using running
    exact (terminateRuntime_gone sound).pauseEvent.not_live live.pauseEvent
  case h_3 loaded =>
    obtain ⟨tunnel, mfc, spoiled⟩ := spoiled
    rw [loaded] at sound running resting
    simp only [nextState, nextRuntime, loaded, if_pos (And.intro tunnel mfc)] at running resting
    cases created : runtimeCreated r with
    | true =>
      rw [if_pos (by simp [starts, tunnel, mfc, created])] at running
      exact (finished_creation sound created).2 spoiled (running rfl)
    | false =>
      rw [if_neg (by simp [starts, created])] at resting
      have clean := (failed_creation sound created).mp (resting rfl)
      rw [spoiled] at clean
      cases clean
  case h_4 => exact spoiled

end

variable {C : Type} [DecidableEq C]

def SpoilingCommand (world : World C) (command : Command C) : Prop :=
  Acquires world command ∧
    Spoils (world.component command.component) command.destState command.results

theorem refused_clean {component : Component} {destState : Option OmxState} {r : Results}
    (refused : destState = some component.currentState ∨ component.currentState = .invalid) :
    ¬ Spoils component destState r := by
  intro spoiled
  unfold Spoils at spoiled
  split at spoiled <;> simp_all

theorem command_sound (world : World C) (command : Command C)
    (sound : ∀ c, Sound (world.component c)) (clean : ¬ SpoilingCommand world command) :
    ∀ c, Sound ((perform world command).component c) := by
  intro c
  by_cases self : c = command.component
  · subst self
    rcases command_effect world command with ⟨same, _⟩ | ⟨acquired, lists, switched⟩
    · rw [same]
      exact sound _
    · unfold Sound
      rw [switched.state, switched.runtime]
      exact transition_sound (sound _) fun spoiled => clean ⟨acquired, spoiled⟩
  · rw [(command_framed world command).others c self]
    exact sound c

theorem command_spoiled (world : World C) (command : Command C)
    (sound : ∀ c, Sound (world.component c)) (spoiling : SpoilingCommand world command) :
    ¬ ObjectsMatch (perform world command) := by
  obtain ⟨acquired, spoiled⟩ := spoiling
  intro objects
  rcases command_effect world command with ⟨_, refused⟩ | ⟨_, lists, switched⟩
  · rcases refused with same | invalid | missing
    · exact refused_clean (Or.inl same) spoiled
    · exact refused_clean (Or.inr invalid) spoiled
    · exact missing acquired
  · exact transition_spoiled (sound _) spoiled switched.state switched.runtime (objects _)

/-- In every run from loaded components, the objects of every component fit its state in every
    state of the run if and only if no command is one of those that spoil them. -/
theorem objects_match_iff (codecType : C → Option HwCodec) (commands : List (Command C)) :
    Visits perform ObjectsMatch (initialWorld codecType) commands ↔
      Meets perform (fun world command => ¬ SpoilingCommand world command)
        (initialWorld codecType) commands := by
  have null : Gone ⟨.null, 0⟩ := ⟨Or.inl rfl, rfl⟩
  have start : ∀ c, Sound ((initialWorld codecType).component c) := fun _ =>
    Every.mk null null (fun _ => null) fun _ => null
  refine visits_iff_meets (fun _ sound c => (sound c).matches) command_sound ?_ commands _ start
  intro world command sound spoiling
  exact command_spoiled world command sound (not_not.mp spoiling)

/-- The first semaphore cannot be created: the event stays behind in Loaded. -/
theorem failed_semaphore_leaves_event :
    ¬ Visits perform ObjectsMatch (initialWorld fun _ : Unit => some .videoDec)
      [⟨(), some .idle, { allWell with semaphoreCreate := fun _ => false }⟩] := by
  intro visits
  have event := ((visits.2 ()).2 rfl).pauseEvent.1
  revert event
  decide

end RuntimeObjects
