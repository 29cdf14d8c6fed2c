import SamsungHardware.OmxComponents.ResourceLimits
import SamsungHardware.OmxComponents.ResourceOwnership
import SamsungHardware.OmxComponents.RuntimeObjects

/- What a state command that fails leaves behind. Most errors are found before anything is done.
   Behind the acquisition or the release of the resource, between the creations of the objects
   and on the ways in and out of WaitForResources nothing is undone. -/
namespace FailedCommands
open ResourceManager ComponentState RuntimeObjects List
open ResourceLimits (setComponents_components preempted_best removeElementList_of_mem)

variable {C : Type} [DecidableEq C]

/-- How many objects that were created through the handle still exist. One command never destroys
    an object and creates another through the same handle, so the objects are the same when there
    are as many. -/
def liveObjects (slot : Slot) : Nat := slot.lost + if slot.handle = .live then 1 else 0

structure SameObjects (runtime runtime' : Runtime) : Prop where
  hBufferProcess : liveObjects runtime'.hBufferProcess = liveObjects runtime.hBufferProcess
  pauseEvent : liveObjects runtime'.pauseEvent = liveObjects runtime.pauseEvent
  bufferSemID : ∀ i, liveObjects (runtime'.bufferSemID i) = liveObjects (runtime.bufferSemID i)
  bufferMutex : ∀ i, liveObjects (runtime'.bufferMutex i) = liveObjects (runtime.bufferMutex i)

structure Unchanged (world world' : World C) (c : C) : Prop where
  state : (world'.component c).currentState = (world.component c).currentState
  lists : world'.lists = world.lists
  objects : SameObjects (world.component c).runtime (world'.component c).runtime

def Invalidated (world world' : World C) (c : C) : Prop :=
  (world.component c).currentState ≠ .invalid ∧ (world'.component c).currentState = .invalid

def FailsCleanly (world : World C) (command : Command C) : Prop :=
  let result := componentStateSet world command.component command.destState command.results
  result.1 ≠ .errorNone → ¬ Invalidated world result.2 command.component →
    Unchanged world result.2 command.component

def leavesObjects (runtime : Runtime) (r : Results) : Bool :=
  if allPorts.all r.semaphoreCreate = false then r.signalCreate || r.semaphoreCreate 0
  else if allPorts.all r.mutexCreate = false then true
  else !r.threadCreate && !r.signalCreate && runtime.pauseEvent.handle = .live

def Trades (lists : ResourceManager.Lists C) (codec : HwCodec) (groupPriority : Nat)
    (stateOf : C → OmxState) (outside : Outside) : Prop :=
  preempted lists codec groupPriority stateOf outside ≠ none ∨ available lists codec outside = true

/-- The lists are changed, and the start fails behind that; without a hardware codec there are only
    the objects. -/
def HarmsStart (world : World C) (c : C) (r : Results) : Prop :=
  match (world.component c).codecType with
  | some codec =>
    Trades world.lists codec r.groupPriority (fun c => (world.component c).currentState)
        r.outside ∧ ¬ (r.outside.malloc = true ∧ starts r = true)
  | none => allocateTunnelBuffers r = .errorNone ∧ r.mfcComponentInit = .errorNone ∧
      leavesObjects (world.component c).runtime r = true

def Harms (world : World C) (command : Command C) : Prop :=
  let c := command.component
  let component := world.component c
  match component.currentState, command.destState with
  | .loaded, some .idle => HarmsStart world c command.results
  | .idle, some .loaded => freeTunnelBuffers command.results ≠ .errorNone ∧
      ((∃ codec, component.codecType = some codec ∧ c ∈ world.lists.owners codec) ∨
        ¬ Every (¬ Live ·) component.runtime)
  | .waitForResources, some .loaded =>
    ∃ codec, component.codecType = some codec ∧ c ∉ names (world.lists.waiting codec)
  | .loaded, some .waitForResources =>
    component.codecType ≠ none ∧ command.results.outside.malloc = false
  | _, _ => False

section

variable {runtime : Runtime} {r : Results} (slot : Slot)

theorem SameObjects.refl (runtime : Runtime) : SameObjects runtime runtime :=
  ⟨rfl, rfl, fun _ => rfl, fun _ => rfl⟩

theorem liveObjects_overwrite (handle : Handle) : liveObjects (slot.overwrite handle) =
    liveObjects slot + if handle = .live then 1 else 0 := by
  by_cases live : slot.handle = .live
  · simp [liveObjects, Slot.overwrite, live]
  · simp [liveObjects, Slot.overwrite, live]

variable {handle : Handle} {created : Fin allPortNum → Bool}

theorem liveObjects_terminate (dead : handle ≠ .live) :
    liveObjects (slot.terminate handle) =
      liveObjects slot - if slot.handle = .live then 1 else 0 := by
  unfold Slot.terminate
  cases known : slot.handle with
  | live => simp [liveObjects, known, dead]
  | _ => simp [liveObjects, known]

theorem liveObjects_terminate_iff (dead : handle ≠ .live) :
    liveObjects (slot.terminate handle) = liveObjects slot ↔ ¬ Live slot := by
  rw [liveObjects_terminate slot dead, Live]
  by_cases live : slot.handle = .live
  · simp [liveObjects, live]
  · simp [live]

theorem liveObjects_recreated (dead : handle ≠ .live) :
    liveObjects ((slot.overwrite .live).terminate handle) = liveObjects slot := by
  rw [liveObjects_terminate _ dead, liveObjects_overwrite]
  simp [Slot.overwrite]

theorem terminateRuntime_same_iff (runtime : Runtime) :
    SameObjects runtime (terminateRuntime runtime) ↔ Every (¬ Live ·) runtime := by
  have null (slot : Slot) := liveObjects_terminate_iff slot (show Handle.null ≠ .live by decide)
  have event := liveObjects_terminate_iff runtime.pauseEvent
    (show Handle.dangling ≠ .live by decide)
  constructor
  · intro same
    exact ⟨(null _).mp same.hBufferProcess, event.mp same.pauseEvent,
      fun i => (null _).mp (same.bufferSemID i), fun i => (null _).mp (same.bufferMutex i)⟩
  · intro gone
    exact ⟨(null _).mpr gone.hBufferProcess, event.mpr gone.pauseEvent,
      fun i => (null _).mpr (gone.bufferSemID i), fun i => (null _).mpr (gone.bufferMutex i)⟩

theorem createEach_each (all : allPorts.all created = true) (slots : Fin allPortNum → Slot)
    (i : Fin allPortNum) : (createEach created allPorts slots).2 i = (slots i).overwrite .live := by
  simp only [allPorts, all_cons, all_nil, Bool.and_true, Bool.and_eq_true] at all
  simp only [createEach, allPorts, all, if_true]
  fin_cases i
  · rfl
  · rfl

theorem createEach_differs (first : created 0 = true) (slots : Fin allPortNum → Slot) :
    liveObjects ((createEach created allPorts slots).2 0) ≠ liveObjects (slots 0) := by
  have zero : (createEach created allPorts slots).2 0 = (slots 0).overwrite .live := by
    simp only [createEach, allPorts, first, if_true]
    split_ifs <;> rfl
  rw [zero, liveObjects_overwrite]
  exact Nat.succ_ne_self _

theorem eventCreated_objects (runtime : Runtime) (r : Results) :
    liveObjects (eventCreated runtime r) =
      liveObjects runtime.pauseEvent + if r.signalCreate then 1 else 0 := by
  unfold eventCreated
  cases r.signalCreate with
  | true => exact liveObjects_overwrite _ _
  | false => rfl

theorem semaphores_same_iff (fails : allPorts.all r.semaphoreCreate = false) :
    SameObjects runtime (createRuntime runtime r).2 ↔
      (r.signalCreate || r.semaphoreCreate 0) = false := by
  rw [createRuntime_semaphores fails]
  constructor
  · intro same
    have event := (eventCreated_objects runtime r).symm.trans same.pauseEvent
    cases signal : r.signalCreate with
    | true =>
      rw [signal] at event
      exact absurd event (Nat.succ_ne_self _)
    | false =>
      cases first : r.semaphoreCreate 0 with
      | true => exact absurd (same.bufferSemID 0) (createEach_differs first _)
      | false => rfl
  · intro clean
    rw [Bool.or_eq_false_iff] at clean
    rw [createEach_stopped clean.2, eventCreated_same clean.1]
    exact .refl runtime

theorem mutexes_differ (semaphores : allPorts.all r.semaphoreCreate = true)
    (fails : allPorts.all r.mutexCreate = false) :
    ¬ SameObjects runtime (createRuntime runtime r).2 := by
  rw [createRuntime_mutexes semaphores fails]
  intro same
  have first := all_eq_true.mp semaphores 0 (by decide)
  exact createEach_differs first _ (same.bufferSemID 0)

/-- Without a thread everything is destroyed again, and so is an event that was there before when no
    new one could be created. -/
theorem thread_same_iff (semaphores : allPorts.all r.semaphoreCreate = true)
    (mutexes : allPorts.all r.mutexCreate = true) (fails : r.threadCreate = false) :
    SameObjects runtime (createRuntime runtime r).2 ↔
      (!r.signalCreate && runtime.pauseEvent.handle = .live) = false := by
  have event : liveObjects ((eventCreated runtime r).terminate .dangling) =
      liveObjects runtime.pauseEvent ↔
        (!r.signalCreate && runtime.pauseEvent.handle = .live) = false := by
    cases signal : r.signalCreate with
    | true =>
      rw [eventCreated, if_pos signal, liveObjects_recreated _ (by decide)]
      exact iff_of_true rfl rfl
    | false =>
      rw [eventCreated_same signal, liveObjects_terminate_iff _ (by decide), Live]
      simp
  rw [createRuntime_thread semaphores mutexes, fails, if_neg Bool.false_ne_true, ← event]
  constructor
  · exact fun same => same.pauseEvent
  · intro same
    constructor
    case hBufferProcess =>
      have null : ¬ Live (runtime.hBufferProcess.overwrite .null) := by simp [Live, Slot.overwrite]
      have kept := (liveObjects_terminate_iff _ (show Handle.null ≠ .live by decide)).mpr null
      exact kept.trans (liveObjects_overwrite _ _)
    case pauseEvent => exact same
    case bufferSemID =>
      intro i
      dsimp only [terminateRuntime, prepared]
      rw [createEach_each semaphores, liveObjects_recreated _ (by decide)]
    case bufferMutex =>
      intro i
      dsimp only [terminateRuntime, prepared]
      rw [createEach_each mutexes, liveObjects_recreated _ (by decide)]

theorem failed_creation_same_iff (runtime : Runtime) (fails : runtimeCreated r = false) :
    SameObjects runtime (createRuntime runtime r).2 ↔ leavesObjects runtime r = false := by
  unfold leavesObjects
  cases semaphores : allPorts.all r.semaphoreCreate with
  | false =>
    exact semaphores_same_iff semaphores
  | true =>
    rw [if_neg (by decide)]
    cases mutexes : allPorts.all r.mutexCreate with
    | false =>
      rw [if_pos rfl]
      exact iff_of_false (mutexes_differ semaphores mutexes) (by decide)
    | true =>
      have thread : r.threadCreate = false := by
        simpa [runtimeCreated, semaphores, mutexes] using fails
      rw [if_neg (by decide), thread, thread_same_iff semaphores mutexes thread]
      rfl

end

section

variable {lists : ResourceManager.Lists C} {codec : HwCodec} {element : Element C}
  {stateOf : C → OmxState} {outside : Outside}

omit [DecidableEq C] in
theorem all_same_of_rotated {α : Type} {x y : α} (list : List α) :
    x :: list = list ++ [y] → y = x ∧ ∀ z ∈ list, z = x := by
  induction list generalizing x with
  | nil =>
    intro same
    cases same
    exact ⟨rfl, by simp⟩
  | cons first rest ih =>
    intro same
    obtain ⟨rfl, tail⟩ := List.cons.inj same
    obtain ⟨last, others⟩ := ih tail
    refine ⟨last, fun z member => ?_⟩
    rcases mem_cons.mp member with here | later
    · exact here
    · exact others z later

theorem getResource_same_iff :
    (getResource lists (some codec) element stateOf outside).2 = lists ↔
      ¬ Trades lists codec element.groupPriority stateOf outside := by
  unfold Trades
  have here (list : List (Element C)) (same : lists.setComponents codec list = lists) :
      list = lists.components codec := by
    rw [← setComponents_components lists codec list, same]
  cases chosen : preempted lists codec element.groupPriority stateOf outside with
  | none =>
    rw [getResource_kept element chosen]
    cases free : available lists codec outside with
    | false => simp
    | true =>
      refine iff_of_false (fun same => ?_) (by simp)
      have longer := congrArg List.length (here _ same)
      simp at longer
  | some candidate =>
    refine iff_of_false (fun same => ?_) (by simp)
    obtain ⟨member, exchanged⟩ := getResource_preempted element chosen
    obtain ⟨_, _, above, _⟩ := preempted_best chosen
    obtain ⟨before, removed, after, split, unlike, alike, kept⟩ := removeElementList_of_mem member
    have equal := here _ (exchanged.symm.trans same)
    rw [kept, split, append_assoc, append_cancel_left_eq] at equal
    cases malloc : outside.malloc with
    | false =>
      rw [malloc] at equal
      have shorter := congrArg List.length equal
      simp at shorter
    | true =>
      -- the list could only stay the same if all that follows equals the request
      rw [malloc] at equal
      obtain ⟨request, others⟩ := all_same_of_rotated after equal.symm
      rw [split] at member
      have same : candidate = removed := by
        rcases mem_append.mp member with earlier | later
        · exact absurd rfl (unlike candidate earlier)
        · rcases mem_cons.mp later with first | rest
          · exact first
          · exact others candidate rest
      rw [same, request] at above
      exact Nat.lt_irrefl _ above

theorem getResource_ret (codec : HwCodec) :
    (getResource lists (some codec) element stateOf outside).1 = .errorNone ↔
      Trades lists codec element.groupPriority stateOf outside ∧ outside.malloc = true := by
  unfold Trades
  cases chosen : preempted lists codec element.groupPriority stateOf outside with
  | none =>
    rw [getResource_kept element chosen]
    cases free : available lists codec outside with
    | false => simp
    | true =>
      have memory := (Bool.and_eq_true_iff.mp free).2
      simp [memory]
  | some candidate =>
    unfold preempted at chosen
    by_cases full : maxResource codec ≤ (lists.components codec).length
    · rw [if_pos full, Option.filter_eq_some_iff] at chosen
      have agrees := of_decide_eq_true chosen.2
      cases malloc : outside.malloc <;>
        simp [getResource, full, chosen.1, agrees, addElementList, malloc]
    · rw [if_neg full] at chosen
      cases chosen

theorem removeElementList_ret (list : List (Element C)) (c : C) :
    (removeElementList list c).1 = .errorNone ↔ c ∈ names list := by
  have found : list.any (fun element => element.component = c) = true ↔ c ∈ names list := by
    simp [names]
  unfold removeElementList
  by_cases empty : list.isEmpty = true
  · rw [if_pos empty, isEmpty_iff.mp empty]
    simp [names]
  · rw [if_neg empty, ← found]
    split_ifs with listed
    · simp [listed]
    · simp [listed]

theorem releaseResource_same_iff (lists : ResourceManager.Lists C) (codecType : Option HwCodec)
    (c : C) (outside : Outside) : (releaseResource lists codecType c outside).2 = lists ↔
      ¬ ∃ codec, codecType = some codec ∧ c ∈ lists.owners codec := by
  cases codecType with
  | none => simp [releaseResource]
  | some codec =>
    have owners := releaseResource_owners lists codec c outside
    by_cases listed : c ∈ lists.owners codec
    · refine iff_of_false (fun same => ?_) (by simpa using listed)
      rw [same] at owners
      have shorter := congrArg List.length (congrFun owners codec)
      rw [Function.update_self, length_erase_of_mem listed] at shorter
      have positive := length_pos_of_mem listed
      omega
    · have missing : (removeElementList (lists.components codec) c).1 ≠ .errorNone :=
        fun found => listed ((removeElementList_ret _ c).mp found)
      refine iff_of_true ?_ (by simpa using listed)
      dsimp only [releaseResource]
      rw [if_pos missing]

theorem outWaitForResource_ret (lists : ResourceManager.Lists C) (codecType : Option HwCodec)
    (c : C) : (outWaitForResource lists codecType c).1 = .errorNone ↔
      ¬ ∃ codec, codecType = some codec ∧ c ∉ names (lists.waiting codec) := by
  cases codecType with
  | none => simp [outWaitForResource]
  | some codec =>
    refine (removeElementList_ret (lists.waiting codec) c).trans ?_
    simp

omit [DecidableEq C] in
theorem inWaitForResource_ret (lists : ResourceManager.Lists C) (codecType : Option HwCodec)
    (element : Element C) (outside : Outside) :
    (inWaitForResource lists codecType element outside).1 = .errorNone ↔
      ¬ (codecType ≠ none ∧ outside.malloc = false) := by
  cases codecType with
  | none => simp [inWaitForResource]
  | some codec => cases malloc : outside.malloc <;> simp [inWaitForResource, addElementList, malloc]

end

section

variable {world : World C} {c : C} {r : Results}

theorem cleanly_of_cases {command : Command C}
    (kinds : (componentStateSet world command.component command.destState command.results).2 = world ∨
      (componentStateSet world command.component command.destState command.results).1 = .errorNone ∨
      Invalidated world
        (componentStateSet world command.component command.destState command.results).2
        command.component) :
    FailsCleanly world command := by
  intro fails valid
  rcases kinds with same | succeeds | invalid
  · rw [same]
    exact ⟨rfl, rfl, .refl _⟩
  · exact absurd succeeds fails
  · exact absurd invalid valid

variable (loaded : (world.component c).currentState = .loaded)
include loaded

theorem toIdle_ret : (toIdle world c r).1 = .errorNone ↔ starts r = true := by
  have created := createRuntime_ret (world.component c).runtime r
  simp only [toIdle, loaded, starts, Bool.and_eq_true, decide_eq_true_eq, ← created]
  split_ifs <;> simp_all

omit loaded in
theorem toIdle_lists : (toIdle world c r).2.lists = world.lists := by
  unfold toIdle
  dsimp only
  split
  · split_ifs <;> rfl
  all_goals rfl

omit loaded in
theorem leavesObjects_created {runtime : Runtime} (created : runtimeCreated r = true) :
    leavesObjects runtime r = false := by
  simp only [runtimeCreated, Bool.and_eq_true] at created
  simp [leavesObjects, created]

theorem start_cleanly_software (kind : (world.component c).codecType = none) :
    FailsCleanly world ⟨c, some .idle, r⟩ ↔ ¬ HarmsStart world c r := by
  have result : componentStateSet world c (some .idle) r = toIdle world c r := by
    rw [stateSet_acquire loaded rfl, kind]
    rfl
  have switched := toIdle_switched world c r
  have ret := toIdle_ret (r := r) loaded
  simp only [FailsCleanly, HarmsStart, kind, result]
  by_cases start : starts r = true
  · have created : runtimeCreated r = true := (Bool.and_eq_true_iff.mp start).2
    refine iff_of_true (fun fails => absurd (ret.mpr start) fails) ?_
    simp [leavesObjects_created created]
  · have state : ((toIdle world c r).2.component c).currentState = .loaded := by
      simpa [nextState, loaded, start] using switched.state
    have valid : ¬ Invalidated world (toIdle world c r).2 c := by simp [Invalidated, state]
    have fails : (toIdle world c r).1 ≠ .errorNone := fun succeeds => start (ret.mp succeeds)
    have runtime := switched.runtime
    by_cases ready : allocateTunnelBuffers r = .errorNone ∧ r.mfcComponentInit = .errorNone
    · have stops : runtimeCreated r = false := by simpa [starts, ready] using start
      have same := failed_creation_same_iff (world.component c).runtime stops
      simp only [nextRuntime, loaded, if_pos ready] at runtime
      rw [← runtime] at same
      constructor
      · intro clean harms
        have kept := same.mp (clean fails valid).objects
        rw [harms.2.2] at kept
        cases kept
      · intro harmless _ _
        have kept : leavesObjects (world.component c).runtime r = false := by
          simpa [ready] using harmless
        exact ⟨state.trans loaded.symm, toIdle_lists, same.mpr kept⟩
    · simp only [nextRuntime, loaded, if_neg ready] at runtime
      refine iff_of_true (fun _ _ => ?_) fun harms => ready ⟨harms.1, harms.2.1⟩
      exact ⟨state.trans loaded.symm, toIdle_lists, runtime ▸ .refl _⟩

variable {codec : HwCodec} {destState : Option OmxState}

theorem start_result (kind : (world.component c).codecType = some codec) :
    let get := getResource world.lists (some codec) ⟨c, r.groupPriority⟩
      (fun c => (world.component c).currentState) r.outside
    ((componentStateSet world c (some .idle) r).1 = .errorNone ↔
        get.1 = .errorNone ∧ starts r = true) ∧
      (componentStateSet world c (some .idle) r).2.lists = get.2 := by
  rw [stateSet_acquire loaded rfl, kind]
  intro get
  by_cases got : get.1 = .errorNone
  · have started : (toIdle { world with lists := get.2 } c r).1 = .errorNone ↔ starts r = true :=
      toIdle_ret loaded
    rw [if_neg (not_not.mpr got)]
    exact ⟨started.trans (and_iff_right got).symm, toIdle_lists⟩
  · rw [if_pos got]
    exact ⟨iff_of_false got fun both => got both.1, rfl⟩

theorem start_cleanly_hardware (kind : (world.component c).codecType = some codec) :
    FailsCleanly world ⟨c, some .idle, r⟩ ↔ ¬ HarmsStart world c r := by
  obtain ⟨ret, lists⟩ := start_result (r := r) loaded kind
  rw [getResource_ret] at ret
  simp only [HarmsStart, kind]
  by_cases trades : Trades world.lists codec r.groupPriority
      (fun c => (world.component c).currentState) r.outside
  · have valid : ¬ Invalidated world (componentStateSet world c (some .idle) r).2 c := by
      intro invalid
      have state := ResourceOwnership.acquire_state (r := r) loaded
      rw [perform, invalid.2] at state
      split_ifs at state
    constructor
    · intro clean harms
      have unchanged := clean (fun succeeds => harms.2
        ⟨(ret.mp succeeds).1.2, (ret.mp succeeds).2⟩) valid
      exact getResource_same_iff.mp (lists.symm.trans unchanged.lists) trades
    · intro harmless fails
      have both := not_not.mp fun neither => harmless ⟨trades, neither⟩
      exact absurd (ret.mpr ⟨⟨trades, both.1⟩, both.2⟩) fails
  · refine iff_of_true (cleanly_of_cases (Or.inl ?_)) fun harms => trades harms.1
    have failed : (getResource world.lists (some codec) ⟨c, r.groupPriority⟩
        (fun c => (world.component c).currentState) r.outside).1 ≠ .errorNone :=
      fun got => trades ((getResource_ret codec).mp got).1
    dsimp only
    rw [stateSet_acquire loaded rfl, kind, if_pos failed]
    dsimp only
    rw [getResource_same_iff.mpr trades]

omit loaded in
theorem stop_cleanly_iff (idle : (world.component c).currentState = .idle) :
    FailsCleanly world ⟨c, some .loaded, r⟩ ↔ ¬ Harms world ⟨c, some .loaded, r⟩ := by
  have gives : releases (world.component c).currentState (some .loaded) = true := by
    rw [idle]
    rfl
  have lists := releaseResource_same_iff world.lists (world.component c).codecType c r.outside
  have objects := terminateRuntime_same_iff (world.component c).runtime
  have result := stateSet_release (r := r) gives
  simp only [switchState, toLoaded, idle] at result
  by_cases freed : freeTunnelBuffers r = .errorNone
  · rw [if_neg (not_not.mpr freed)] at result
    refine iff_of_true (cleanly_of_cases (Or.inr (Or.inl ?_))) ?_
    · exact congrArg Prod.fst result
    · simp [Harms, idle, freed]
  · rw [if_pos freed] at result
    simp only [FailsCleanly, Harms, idle, result]
    have switched := (Switched.refl { world with lists :=
      (releaseResource world.lists (world.component c).codecType c r.outside).2 } c).setRuntime
        (terminateRuntime (world.component c).runtime)
    constructor
    · intro clean harms
      have unchanged := clean freed fun invalid => by
        have state := switched.state.symm.trans invalid.2
        rw [idle] at state
        cases state
      have kept := unchanged.objects
      rw [switched.runtime] at kept
      rcases harms.2 with listed | live
      · exact lists.mp unchanged.lists listed
      · exact live (objects.mp kept)
    · intro harmless _ _
      obtain ⟨unlisted, dead⟩ := not_or.mp fun either => harmless ⟨freed, either⟩
      refine ⟨switched.state, lists.mpr unlisted, ?_⟩
      rw [switched.runtime]
      exact objects.mpr (not_not.mp dead)

omit loaded in
/-- Both ways in and out of WaitForResources change the state whatever the lists say. -/
theorem moved_cleanly_iff {harms : Prop}
    (moved : ((componentStateSet world c destState r).2.component c).currentState ≠ (world.component c).currentState)
    (valid : ((componentStateSet world c destState r).2.component c).currentState ≠ .invalid)
    (ret : (componentStateSet world c destState r).1 = .errorNone ↔ ¬ harms) :
    FailsCleanly world ⟨c, destState, r⟩ ↔ ¬ harms := by
  rw [← ret]
  constructor
  · intro clean
    by_contra fails
    exact moved (clean fails fun invalid => valid invalid.2).state
  · exact fun succeeds fails => absurd succeeds fails

omit loaded in
theorem unwait_cleanly_iff (waits : (world.component c).currentState = .waitForResources) :
    FailsCleanly world ⟨c, some .loaded, r⟩ ↔ ¬ Harms world ⟨c, some .loaded, r⟩ := by
  have result : componentStateSet world c (some .loaded) r = toLoaded world c r := by
    refine stateSet_plain ?_ ?_ ?_ ?_ <;> simp [waits, releases]
  have state : ((toLoaded world c r).2.component c).currentState = .loaded := by
    simpa [nextState, waits] using (toLoaded_switched world c r).state
  apply moved_cleanly_iff
  · simp [result, state, waits]
  · simp [result, state]
  · simp only [result, toLoaded, Harms, waits]
    exact outWaitForResource_ret _ _ _

theorem wait_cleanly_iff :
    FailsCleanly world ⟨c, some .waitForResources, r⟩ ↔
      ¬ Harms world ⟨c, some .waitForResources, r⟩ := by
  have result : componentStateSet world c (some .waitForResources) r =
      toWaitForResources world c r := by
    refine stateSet_plain ?_ ?_ ?_ ?_ <;> simp [loaded, releases]
  have state : ((toWaitForResources world c r).2.component c).currentState = .waitForResources := by
    simpa [nextState, loaded] using (toWaitForResources_switched world c r).state
  apply moved_cleanly_iff
  · simp [result, state, loaded]
  · simp [result, state]
  · simp only [result, toWaitForResources, Harms, loaded]
    exact inWaitForResource_ret _ _ _ _

omit loaded in
theorem switchState_plain (valid : destState ≠ some .invalid)
    (start : ¬ ((world.component c).currentState = .loaded ∧ destState = some .idle))
    (stop : ¬ ((world.component c).currentState = .idle ∧ destState = some .loaded))
    (unwait : ¬ ((world.component c).currentState = .waitForResources ∧ destState = some .loaded))
    (wait : ¬ ((world.component c).currentState = .loaded ∧ destState = some .waitForResources)) :
    (switchState world c destState r).2 = world ∨
      (switchState world c destState r).1 = .errorNone := by
  cases destState with
  | none => exact Or.inl rfl
  | some dest =>
    cases dest <;> cases state : (world.component c).currentState <;>
      simp_all [switchState, toLoaded, toIdle, toExecuting, toPause, toWaitForResources]

omit loaded in
theorem invalid_cleanly : FailsCleanly world ⟨c, some .invalid, r⟩ := by
  by_cases already : (world.component c).currentState = .invalid
  · exact cleanly_of_cases (Or.inl (stateSet_refused (Or.inr already)))
  · rcases command_effect world ⟨c, some .invalid, r⟩ with
      ⟨_, same | invalid | missing⟩ | ⟨_, lists, switched⟩
    · exact absurd (Option.some_inj.mp same).symm already
    · exact absurd invalid already
    · exact absurd (fun _ idle => by cases idle) missing
    · have state := switched.state
      exact cleanly_of_cases (Or.inr (Or.inr ⟨already, state⟩))

theorem start_cleanly_iff :
    FailsCleanly world ⟨c, some .idle, r⟩ ↔ ¬ Harms world ⟨c, some .idle, r⟩ := by
  simp only [Harms, loaded]
  cases kind : (world.component c).codecType with
  | none => exact start_cleanly_software loaded kind
  | some codec => exact start_cleanly_hardware loaded kind

end

/-- A command fails without a trace exactly when it is none of those named. -/
theorem failed_command_unchanged_iff (world : World C) (command : Command C) :
    FailsCleanly world command ↔ ¬ Harms world command := by
  obtain ⟨c, destState, r⟩ := command
  by_cases start : (world.component c).currentState = .loaded ∧ destState = some .idle
  · obtain ⟨loaded, rfl⟩ := start
    exact start_cleanly_iff loaded
  by_cases stop : (world.component c).currentState = .idle ∧ destState = some .loaded
  · obtain ⟨idle, rfl⟩ := stop
    exact stop_cleanly_iff idle
  by_cases unwait : (world.component c).currentState = .waitForResources ∧ destState = some .loaded
  · obtain ⟨waits, rfl⟩ := unwait
    exact unwait_cleanly_iff waits
  by_cases wait : (world.component c).currentState = .loaded ∧ destState = some .waitForResources
  · obtain ⟨loaded, rfl⟩ := wait
    exact wait_cleanly_iff loaded
  have harmless : ¬ Harms world ⟨c, destState, r⟩ := by
    intro harms
    unfold Harms at harms
    dsimp only at harms
    split at harms <;> simp_all
  refine iff_of_true ?_ harmless
  by_cases invalid : destState = some .invalid
  · rw [invalid]
    exact invalid_cleanly
  by_cases refused : destState = some (world.component c).currentState ∨
      (world.component c).currentState = .invalid
  · exact cleanly_of_cases (Or.inl (stateSet_refused refused))
  rw [not_or] at refused
  have keeps : releases (world.component c).currentState destState = false := by
    by_contra gives
    rcases releases_iff.mp (Bool.of_not_eq_false gives) with stops | ⟨_, ends⟩
    · exact stop stops
    · exact invalid ends
  have plain := stateSet_plain (r := r) refused.1 refused.2 start keeps
  refine cleanly_of_cases ?_
  dsimp only
  rw [plain]
  exact (switchState_plain invalid start stop unwait wait).imp_right Or.inl

/-- A hardware decoder whose start fails behind the acquisition of the resource, one whose buffers
    cannot be freed on the way back, and one that gets no memory for its place in the waiting list. -/
theorem failed_commands_leave_traces :
    let loaded := initialWorld fun _ : Unit => some .videoDec
    let idle := perform loaded ⟨(), some .idle, allWell⟩
    ¬ FailsCleanly loaded ⟨(), some .idle, { allWell with mfcComponentInit := .undefined }⟩ ∧
    ¬ FailsCleanly idle ⟨(), some .loaded, { allWell with
      ports := fun _ => ⟨true, true, true⟩, freeTunnelBuffer := fun _ => .undefined }⟩ ∧
    ¬ FailsCleanly loaded ⟨(), some .waitForResources, { allWell with
      outside := ⟨false, .errorNone⟩ }⟩ := by
  refine ⟨fun clean => ?_, fun clean => ?_, fun clean => ?_⟩ <;>
    have unchanged := clean (by decide) fun invalid => absurd invalid.2 (by decide)
  · have listed := congrArg (fun lists => (lists.components .videoDec).length) unchanged.lists
    exact absurd listed (by decide)
  · have listed := congrArg (fun lists => (lists.components .videoDec).length) unchanged.lists
    exact absurd listed (by decide)
  · exact absurd unchanged.state (by decide)

end FailedCommands
