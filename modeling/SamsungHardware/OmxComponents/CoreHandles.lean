import SamsungHardware.Library.LinkedLists
import SamsungHardware.Library.StepRuns
import SamsungHardware.OmxComponents.ResourceManager

/- The handles of SEC_OMX_Core.c. `gLoadComponentList` is a singly linked list of the components
   that are loaded. A call has no answer where the code reads through a null pointer or an address
   that is not allocated. -/
namespace CoreHandles
open LinkedLists StepRuns ResourceManager List Function Option Prod

abbrev notReady : OmxError := .other 0x80001010

structure Registered where
  (componentName libName : String)
  deriving DecidableEq, Repr

structure Component where
  (componentName libName : String)
  (pOMXComponent nextOMXComp : Option Nat)
  deriving DecidableEq, Repr

structure Core where
  gInitialized : Bool
  gComponentList : List Registered
  gLoadComponentList : Option Nat
  memory : Nat → Option Component
  allocated : Nat
  unloaded : List Nat

def Core.start (gComponentList : List Registered) : Core :=
  ⟨true, gComponentList, none, fun _ => none, 0, []⟩

/-- A call of `SEC_OMX_GetHandle` with the results of the functions that it calls. The load gives a
    component or an error. -/
structure GetCall where
  pHandle : Bool
  cComponentName : Option String
  pCallBacks : Bool
  malloc : Option Nat
  componentLoad : Except OmxError Nat
  setCallbacks : OmxError

structure Answer where
  ret : OmxError
  pHandle : Option Nat
  core : Core

def Core.store (core : Core) (address : Nat) (block : Component) : Core :=
  { core with memory := update core.memory address (some block) }

def Core.malloc (core : Core) (address : Nat) (block : Component) : Core :=
  { core.store address block with allocated := core.allocated + 1 }

def Core.free (core : Core) (address : Nat) : Core :=
  { core with
    memory := update core.memory address none
    allocated := core.allocated - 1 }

def componentUnload (core : Core) (address : Nat) : Core :=
  match core.memory address with
  | none => core
  | some block =>
    match block.pOMXComponent with
    | none => core
    | some component =>
      { core.store address { block with pOMXComponent := none } with
        unloaded := core.unloaded ++ [component] }

def lastComponent (memory : Nat → Option Component) : Nat → Nat → Option Nat
  | 0, _ => none
  | fuel + 1, current => (memory current).bind fun block =>
    match block.nextOMXComp with
    | none => some current
    | some next => lastComponent memory fuel next

def Core.append (core : Core) (address : Nat) : Option Core :=
  match core.gLoadComponentList with
  | none => some { core with gLoadComponentList := some address }
  | some first => do
    let last ← lastComponent core.memory (core.allocated + 1) first
    let block ← core.memory last
    some (core.store last { block with nextOMXComp := some address })

def GetCall.entry (call : GetCall) (gComponentList : List Registered) : Option Registered :=
  gComponentList.find? fun entry => call.cComponentName = some entry.componentName

def GetCall.accepted (call : GetCall) : Bool :=
  call.pHandle && call.cComponentName.isSome && call.pCallBacks

def loadHandle (core : Core) (call : GetCall) (entry : Registered) (address : Nat) :
    Option Answer :=
  let core := core.malloc address ⟨entry.componentName, entry.libName, none, none⟩
  match call.componentLoad with
  | .error ret => some ⟨ret, none, core.free address⟩
  | .ok component =>
    let core := core.store address ⟨entry.componentName, entry.libName, some component, none⟩
    if call.setCallbacks ≠ .errorNone then
      some ⟨call.setCallbacks, none, (componentUnload core address).free address⟩
    else (core.append address).map fun core => ⟨.errorNone, some component, core⟩

def getHandle (core : Core) (call : GetCall) : Option Answer :=
  if !core.gInitialized then some ⟨notReady, none, core⟩
  else if !call.accepted then some ⟨badParameter, none, core⟩
  else match call.entry core.gComponentList with
    | none => some ⟨.componentNotFound, none, core⟩
    | some entry => call.malloc.bind (loadHandle core call entry)

/-- The loop of `SEC_OMX_FreeHandle`. It looks at the successor before it looks for the end. -/
def findBefore (memory : Nat → Option Component) (hComponent : Nat) :
    Nat → Option Nat → Option (Option Nat)
  | 0, _ => none
  | _ + 1, none => some none
  | fuel + 1, some current => do
    let block ← memory current
    let next ← block.nextOMXComp
    let successor ← memory next
    if successor.pOMXComponent = some hComponent then some (some current)
    else findBefore memory hComponent fuel (some next)

def deleteComponent (core : Core) (address : Nat) : Answer :=
  ⟨.errorNone, none, (componentUnload core address).free address⟩

/-- Behind the loop the successor is read once more, before the test for the end. -/
def freeBehind (core : Core) (hComponent : Nat) (current : Option Nat) : Option Answer := do
  let current ← current
  let block ← core.memory current
  let next ← block.nextOMXComp
  let successor ← core.memory next
  if successor.pOMXComponent = some hComponent then
    some (deleteComponent
      (core.store current { block with nextOMXComp := successor.nextOMXComp }) next)
  else none

def freeHandle (core : Core) (hComponent : Option Nat) : Option Answer :=
  if !core.gInitialized then some ⟨notReady, none, core⟩
  else match hComponent with
    | none => some ⟨badParameter, none, core⟩
    | some component => do
      let first ← core.gLoadComponentList
      let block ← core.memory first
      if block.pOMXComponent = some component then
        some (deleteComponent { core with gLoadComponentList := block.nextOMXComp } first)
      else do
        let current ← findBefore core.memory component (core.allocated + 1) (some first)
        freeBehind core component current

inductive Call where
  | getHandle (call : GetCall)
  | freeHandle (component : Nat)

def perform (core : Core) : Call → Option Answer
  | .getHandle call => getHandle core call
  | .freeHandle component => freeHandle core (some component)

def step (core : Core) (call : Call) : Option Core := (perform core call).map Answer.core

section

variable (registered : List Registered)

def GetCall.granted (call : GetCall) : Option Nat :=
  if call.accepted && (call.entry registered).isSome && call.setCallbacks = .errorNone then
    match call.componentLoad with
    | .ok component => some component
    | .error _ => none
  else none

def held (handles : List Nat) : Call → List Nat
  | .getHandle call => handles ++ (call.granted registered).toList
  | .freeHandle component => handles.erase component

def linkOf (memory : Nat → Option Component) (address : Nat) : Option Nat :=
  (memory address).bind Component.nextOMXComp

def handleOf (memory : Nat → Option Component) (address : Nat) : Option Nat :=
  (memory address).bind Component.pOMXComponent

structure Represents (core : Core) (entries : List (Nat × Nat)) : Prop where
  chain : Chain (linkOf core.memory) core.gLoadComponentList (entries.map Prod.fst)
  handles : ∀ entry ∈ entries, handleOf core.memory entry.1 = some entry.2
  cells : (entries.map Prod.fst).Nodup
  distinct : (entries.map Prod.snd).Nodup
  counted : entries.length ≤ core.allocated

def Holds (core : Core) (handles : List Nat) : Prop :=
  core.gInitialized = true ∧ core.gComponentList = registered ∧
    ∃ entries, entries.map Prod.snd = handles ∧ Represents core entries

def Answers (handles : List Nat) (core : Core) (answer : Answer) : Call → Prop
  | .getHandle call => answer.pHandle = call.granted registered ∧
    (answer.ret = .errorNone ↔ (call.granted registered).isSome)
  | .freeHandle component =>
    if component ∈ handles then
      answer.ret = .errorNone ∧ answer.core.unloaded = core.unloaded ++ [component]
    else answer.ret = .componentNotFound ∧ answer.core.unloaded = core.unloaded

/-- Every call of the run returns, answers as it should and leaves the right handles. -/
def Refines : Core → List Nat → List Call → Prop
  | core, handles, [] => Holds registered core handles
  | core, handles, call :: calls => Holds registered core handles ∧
    ∃ answer, perform core call = some answer ∧ Answers registered handles core answer call ∧
      Refines answer.core (held registered handles call) calls

def Fresh (core : Core) : Call → Prop
  | .getHandle call => (∀ address, call.malloc = some address → core.memory address = none) ∧
    (∀ component, call.componentLoad = .ok component → ∀ address block,
      core.memory address = some block → block.pOMXComponent ≠ some component) ∧
    (∀ ret, call.componentLoad = .error ret → ret ≠ .errorNone)
  | .freeHandle _ => True

def Served (handles : List Nat) : Call → Prop
  | .getHandle call =>
    call.accepted = true → (call.entry registered).isSome = true → call.malloc.isSome = true
  | .freeHandle component => component ∈ handles

end

variable {entries : List (Nat × Nat)} {memory : Nat → Option Component} {address : Nat}
  {component : Nat}

section

variable {core core' : Core} {block : Component}

theorem linkOf_update (memory : Nat → Option Component) (address : Nat) (block : Component) :
    linkOf (update memory address (some block)) =
      update (linkOf memory) address block.nextOMXComp := by
  funext other
  by_cases here : other = address
  · subst here
    rw [linkOf, update_self, update_self]
    rfl
  · rw [linkOf, update_of_ne here, update_of_ne here]
    rfl

theorem handleOf_link (there : memory address = some block) (link : Option Nat) (other : Nat) :
    handleOf (update memory address (some { block with nextOMXComp := link })) other =
      handleOf memory other := by
  by_cases here : other = address
  · subst here
    rw [handleOf, update_self, handleOf, there]
    rfl
  · rw [handleOf, update_of_ne here, handleOf]

variable {other : Nat}

theorem linkOf_eq (there : memory address = some block) :
    linkOf memory address = block.nextOMXComp := by
  rw [linkOf, there]
  rfl

theorem handleOf_eq (there : memory address = some block) :
    handleOf memory address = block.pOMXComponent := by
  rw [handleOf, there]
  rfl

theorem linkOf_free (apart : other ≠ address) :
    linkOf (update memory address none) other = linkOf memory other := by
  rw [linkOf, update_of_ne apart, linkOf]

theorem handleOf_free (apart : other ≠ address) :
    handleOf (update memory address none) other = handleOf memory other := by
  rw [handleOf, update_of_ne apart, handleOf]

theorem block_of_handle (handle : handleOf memory address = some component) :
    ∃ block, memory address = some block ∧ block.pOMXComponent = some component :=
  bind_eq_some_iff.mp handle

variable (represents : Represents core entries)
include represents

theorem Represents.congr (head : core'.gLoadComponentList = core.gLoadComponentList)
    (same : ∀ entry ∈ entries, core'.memory entry.1 = core.memory entry.1)
    (counted : entries.length ≤ core'.allocated) : Represents core' entries := by
  refine ⟨?_, ?_, represents.cells, represents.distinct, counted⟩
  · rw [head]
    apply represents.chain.congr
    intro cell member
    obtain ⟨entry, listed, rfl⟩ := mem_map.mp member
    rw [linkOf, same entry listed, linkOf]
  · intro entry member
    rw [handleOf, same entry member]
    exact represents.handles entry member

theorem Represents.fresh_cell (unused : core.memory address = none) : ∀ entry ∈ entries, entry.1 ≠ address := by
  rintro entry member rfl
  have handle := represents.handles entry member
  rw [handleOf, unused] at handle
  cases handle

theorem Represents.fresh_handle (unused : ∀ address block, core.memory address = some block → block.pOMXComponent ≠ some component) :
    component ∉ entries.map snd := by
  intro member
  obtain ⟨entry, listed, rfl⟩ := mem_map.mp member
  obtain ⟨block, there, handle⟩ := block_of_handle (represents.handles entry listed)
  exact unused entry.1 block there handle

end

variable {core : Core}

theorem lastComponent_eq {last : Nat} (front : List Nat) :
    ∀ (current fuel : Nat), Chain (linkOf memory) (some current) (front ++ [last]) →
      (∀ cell ∈ front ++ [last], memory cell ≠ none) → front.length < fuel →
      lastComponent memory fuel current = some last := by
  induction front with
  | nil =>
    intro current fuel chain present enough
    obtain ⟨start, ends⟩ := chain
    cases start
    obtain ⟨block, there⟩ := ne_none_iff_exists'.mp (present last mem_cons_self)
    obtain ⟨n, rfl⟩ := Nat.exists_eq_add_of_lt enough
    have link : block.nextOMXComp = none := (linkOf_eq there).symm.trans ends
    rw [lastComponent, there, bind_some, link]
  | cons first rest ih =>
    intro current fuel chain present enough
    obtain ⟨start, chain⟩ := chain
    cases start
    obtain ⟨block, there⟩ := ne_none_iff_exists'.mp (present first mem_cons_self)
    cases fuel with
    | zero => cases enough
    | succ fuel =>
      rw [lastComponent, there, bind_some]
      rw [linkOf_eq there] at chain
      cases next : block.nextOMXComp with
      | none =>
        rw [next] at chain
        cases rest with
        | nil => cases chain.1
        | cons => cases chain.1
      | some cell =>
        rw [next] at chain
        exact ih cell fuel chain (fun cell member => present cell (mem_cons_of_mem _ member))
          (Nat.lt_of_succ_lt_succ enough)

theorem Represents.present (represents : Represents core entries) :
    ∀ cell ∈ entries.map fst, core.memory cell ≠ none := by
  intro cell member
  obtain ⟨entry, listed, rfl⟩ := mem_map.mp member
  obtain ⟨block, found, _⟩ := block_of_handle (represents.handles entry listed)
  rw [found]
  exact some_ne_none block

theorem append_represents {address component : Nat} {block : Component}
    (represents : Represents core entries) (there : core.memory address = some block)
    (handle : block.pOMXComponent = some component) (ends : block.nextOMXComp = none)
    (cell : ∀ entry ∈ entries, entry.1 ≠ address) (new : component ∉ entries.map snd)
    (counted : entries.length + 1 ≤ core.allocated) :
    ∃ head memory, core.append address =
        some { core with gLoadComponentList := head, memory := memory } ∧
      Represents { core with gLoadComponentList := head, memory := memory }
        (entries ++ [(address, component)]) := by
  have outside : address ∉ entries.map fst := by
    intro member
    obtain ⟨entry, listed, same⟩ := mem_map.mp member
    exact cell entry listed same
  have cells : ((entries ++ [(address, component)]).map fst).Nodup := by
    rw [map_append]
    exact represents.cells.append (nodup_singleton address) (by simpa using outside)
  have distinct : ((entries ++ [(address, component)]).map snd).Nodup := by
    rw [map_append]
    exact represents.distinct.append (nodup_singleton component) (by simpa using new)
  have length : (entries ++ [(address, component)]).length ≤ core.allocated := by
    rw [length_append]
    exact counted
  have own : handleOf core.memory address = some component := (handleOf_eq there).trans handle
  have last_link : linkOf core.memory address = none := (linkOf_eq there).trans ends
  rcases eq_nil_or_concat' entries with rfl | ⟨front, last, rfl⟩
  · have empty : core.gLoadComponentList = none := represents.chain
    refine ⟨some address, core.memory, by rw [Core.append, empty], ?_, ?_, cells, distinct, length⟩
    · exact ⟨rfl, last_link⟩
    · intro entry member
      cases mem_singleton.mp member
      exact own
  · have chain := represents.chain
    rw [map_append] at chain outside
    have lastHandle := represents.handles last (mem_append_right _ mem_cons_self)
    obtain ⟨lastBlock, present, _⟩ := block_of_handle lastHandle
    have blocks := represents.present
    rw [map_append] at blocks
    have room : (front.map fst).length < core.allocated + 1 := by
      rw [length_map]
      rw [length_append] at counted
      omega
    cases head : core.gLoadComponentList with
    | none =>
      rw [head] at chain
      cases front with
      | nil => cases chain.1
      | cons => cases chain.1
    | some first =>
      rw [head] at chain
      have walk := lastComponent_eq (front.map fst) first _ chain blocks room
      refine ⟨some first, update core.memory last.1
        (some { lastBlock with nextOMXComp := some address }), ?_, ?_, ?_, cells, distinct, length⟩
      · rw [Core.append]
        simp only [walk, bind_eq_bind, bind_some, present, Core.store, head]
      · have nodup := represents.cells
        rw [map_append] at nodup
        rw [map_append, map_append]
        exact linkOf_update _ _ _ ▸ chain.link nodup outside last_link
      · intro entry member
        rw [handleOf_link present]
        rcases mem_append.mp member with old | new
        · exact represents.handles entry old
        · cases mem_singleton.mp new
          exact own

variable {cell : Nat}

section

theorem findBefore_eq {previous cell : Nat} {after : List Nat} (front : List Nat)
    (found : handleOf memory cell = some component) :
    ∀ (current fuel : Nat),
      Chain (linkOf memory) (some current) (front ++ previous :: cell :: after) →
      (∀ x ∈ (front ++ [previous]).tail, memory x ≠ none ∧ handleOf memory x ≠ some component) →
      front.length < fuel →
      findBefore memory component fuel (some current) = some (some previous) := by
  obtain ⟨block, there, handle⟩ := block_of_handle found
  induction front with
  | nil =>
    intro current fuel chain _ enough
    obtain ⟨start, second, _⟩ := chain
    cases start
    obtain ⟨n, rfl⟩ := Nat.exists_eq_add_of_lt enough
    obtain ⟨own, present, link⟩ := bind_eq_some_iff.mp second
    simp only [length_nil, Nat.zero_add, findBefore, present, link, there, handle,
      bind_eq_bind, bind_some, if_true]
  | cons first rest ih =>
    intro current fuel chain others enough
    obtain ⟨start, chain⟩ := chain
    cases start
    cases fuel with
    | zero => cases enough
    | succ fuel =>
      obtain ⟨next, following, listed⟩ : ∃ next, linkOf memory first = some next ∧
          next ∈ (first :: rest ++ [previous]).tail := by
        cases rest with
        | nil => exact ⟨previous, chain.1, mem_cons_self⟩
        | cons next rest => exact ⟨next, chain.1, mem_cons_self⟩
      obtain ⟨own, present, link⟩ := bind_eq_some_iff.mp following
      obtain ⟨some_block, other⟩ := others next listed
      obtain ⟨successor, there⟩ := ne_none_iff_exists'.mp some_block
      have apart : successor.pOMXComponent ≠ some component := handleOf_eq there ▸ other
      simp only [findBefore, present, link, there, bind_eq_bind, bind_some, if_neg apart]
      rw [following] at chain
      refine ih next fuel chain ?_ (Nat.lt_of_succ_lt_succ enough)
      intro x member
      exact others x (mem_of_mem_tail member)

theorem findBefore_absent (rest : List Nat) : ∀ (current fuel : Nat),
    Chain (linkOf memory) (some current) (current :: rest) →
    (∀ x ∈ rest, handleOf memory x ≠ some component) →
    findBefore memory component fuel (some current) = none := by
  induction rest with
  | nil =>
    intro current fuel chain _
    obtain ⟨_, ends⟩ := chain
    cases fuel with
    | zero => rfl
    | succ fuel =>
      rw [findBefore]
      cases present : memory current with
      | none => rfl
      | some block =>
        have link : block.nextOMXComp = none := (linkOf_eq present).symm.trans ends
        simp only [bind_eq_bind, bind_some, link, bind_none]
  | cons next rest ih =>
    intro current fuel chain others
    obtain ⟨_, chain⟩ := chain
    obtain ⟨own, present, link⟩ := bind_eq_some_iff.mp chain.1
    cases fuel with
    | zero => rfl
    | succ fuel =>
      cases there : memory next with
      | none => simp only [findBefore, present, link, there, bind_eq_bind, bind_some,
          bind_none]
      | some successor =>
        have apart : successor.pOMXComponent ≠ some component :=
          handleOf_eq there ▸ others next mem_cons_self
        simp only [findBefore, present, link, there, bind_eq_bind, bind_some, if_neg apart]
        rw [chain.1] at chain
        exact ih next fuel chain fun x member => others x (mem_cons_of_mem _ member)

theorem deleteComponent_eq {address : Nat} {block : Component}
    (there : core.memory address = some block) (handle : block.pOMXComponent = some component) :
    deleteComponent core address = ⟨.errorNone, none,
      { core with
        memory := update core.memory address none
        allocated := core.allocated - 1
        unloaded := core.unloaded ++ [component] }⟩ := by
  simp only [deleteComponent, componentUnload, there, handle, Core.store, Core.free, update_idem]

variable {before after : List (Nat × Nat)}

theorem remove_represents (represents : Represents core (before ++ (cell, component) :: after))
    {head : Option Nat} (chain : Chain (linkOf memory) head ((before ++ after).map fst))
    (same : ∀ x, handleOf memory x = handleOf core.memory x) :
    Represents { core with
      gLoadComponentList := head
      memory := update memory cell none
      allocated := core.allocated - 1
      unloaded := core.unloaded ++ [component] } (before ++ after) := by
  have sublist : (before ++ after).Sublist (before ++ (cell, component) :: after) :=
    (List.Sublist.refl before).append (sublist_cons_self _ after)
  have outside : ∀ entry ∈ before ++ after, entry.1 ≠ cell := by
    have cells := represents.cells
    rw [map_append] at cells
    have apart := (nodup_middle.mp cells)
    rw [← map_append] at apart
    intro entry member same
    exact (nodup_cons.mp apart).1 (mem_map.mpr ⟨entry, member, same⟩)
  refine ⟨?_, ?_, represents.cells.sublist (sublist.map _), represents.distinct.sublist
    (sublist.map _), ?_⟩
  · apply chain.congr
    intro x member
    obtain ⟨entry, listed, rfl⟩ := mem_map.mp member
    exact linkOf_free (outside entry listed)
  · intro entry member
    have handle := represents.handles entry (sublist.subset member)
    exact (handleOf_free (outside entry member)).trans ((same entry.1).trans handle)
  · have counted := represents.counted
    simp only [length_append, length_cons] at counted ⊢
    omega

theorem erase_entry (distinct : ((before ++ (cell, component) :: after).map snd).Nodup) :
    ((before ++ (cell, component) :: after).map snd).erase component =
      (before ++ after).map snd := by
  rw [map_append, map_cons] at distinct ⊢
  have outside : component ∉ before.map snd := by
    intro member
    exact (nodup_append.mp distinct).2.2 component member component mem_cons_self rfl
  rw [erase_append_right _ outside, erase_cons_head, map_append]

end

section

def Core.without (core : Core) (component : Nat) (head : Option Nat)
    (memory : Nat → Option Component) : Core :=
  { core with
    gLoadComponentList := head
    memory := memory
    allocated := core.allocated - 1
    unloaded := core.unloaded ++ [component] }

variable (ready : core.gInitialized = true)
include ready

theorem ready_test : ¬ (!core.gInitialized) = true := by
  rw [ready]
  decide

omit ready in
theorem Represents.others {before after : List (Nat × Nat)}
    (represents : Represents core (before ++ (cell, component) :: after)) :
    ∀ entry ∈ before, core.memory entry.1 ≠ none ∧
      handleOf core.memory entry.1 ≠ some component := by
  intro entry early
  have own := represents.handles entry (mem_append_left _ early)
  obtain ⟨block, found, _⟩ := block_of_handle own
  refine ⟨by rw [found]; exact some_ne_none block, ?_⟩
  rw [own]
  intro same
  have distinct := represents.distinct
  rw [map_append] at distinct
  exact (nodup_append.mp distinct).2.2 entry.2 (mem_map_of_mem early) component
    mem_cons_self (Option.some.inj same)

theorem freeHandle_first {after : List (Nat × Nat)}
    (represents : Represents core ((cell, component) :: after)) :
    ∃ head memory, freeHandle core (some component) =
        some ⟨.errorNone, none, core.without component head memory⟩ ∧
      Represents (core.without component head memory) after := by
  obtain ⟨start, chain⟩ := represents.chain
  obtain ⟨block, there, own⟩ := block_of_handle (represents.handles _ mem_cons_self)
  refine ⟨block.nextOMXComp, update core.memory cell none, ?_, ?_⟩
  · rw [freeHandle, if_neg (ready_test ready)]
    simp only [start, there, own, bind_eq_bind, bind_some, if_true]
    exact congrArg some (deleteComponent_eq there own)
  · rw [linkOf_eq there] at chain
    have rest : Represents core ([] ++ (cell, component) :: after) := represents
    exact remove_represents rest chain fun _ => rfl

theorem freeHandle_behind {front after : List (Nat × Nat)} {previous : Nat × Nat}
    (represents : Represents core ((front ++ [previous]) ++ (cell, component) :: after)) :
    ∃ head memory, freeHandle core (some component) =
        some ⟨.errorNone, none, core.without component head memory⟩ ∧
      Represents (core.without component head memory) ((front ++ [previous]) ++ after) := by
  have chain := represents.chain
  have cells := represents.cells
  have names : ((front ++ [previous]) ++ (cell, component) :: after).map fst =
      front.map fst ++ previous.1 :: cell :: after.map fst := by
    simp
  rw [names] at chain cells
  have others := represents.others
  have listed : (cell, component) ∈ (front ++ [previous]) ++ (cell, component) :: after :=
    mem_append_right _ mem_cons_self
  have handle := represents.handles _ listed
  obtain ⟨block, there, own⟩ := block_of_handle handle
  obtain ⟨previousBlock, present, link⟩ := bind_eq_some_iff.mp chain.linked
  have apart : cell ≠ previous.1 := by
    rintro rfl
    exact (nodup_cons.mp (nodup_append.mp cells).2.1).1 mem_cons_self
  -- the list begins with another component
  obtain ⟨first, early, start⟩ : ∃ entry ∈ front ++ [previous],
      core.gLoadComponentList = some entry.1 := by
    cases front with
    | nil => exact ⟨previous, by simp, chain.head_eq⟩
    | cons entry front => exact ⟨entry, by simp, chain.head_eq⟩
  obtain ⟨some_block, other⟩ := others first early
  obtain ⟨firstBlock, first_there⟩ := ne_none_iff_exists'.mp some_block
  have first_apart : firstBlock.pOMXComponent ≠ some component := handleOf_eq first_there ▸ other
  have search : findBefore core.memory component (core.allocated + 1) (some first.1) =
      some (some previous.1) := by
    refine findBefore_eq (front.map fst) handle first.1 _ (start ▸ chain) ?_ ?_
    · intro x tail
      have whole : x ∈ (front ++ [previous]).map fst := by
        rw [map_append]
        exact mem_of_mem_tail tail
      obtain ⟨entry, early, rfl⟩ := mem_map.mp whole
      exact others entry early
    · have counted := represents.counted
      simp only [length_append, length_cons, length_map] at counted ⊢
      omega
  have still : update core.memory previous.1
      (some { previousBlock with nextOMXComp := block.nextOMXComp }) cell = some block := by
    rw [update_of_ne apart, there]
  refine ⟨core.gLoadComponentList, update (update core.memory previous.1
    (some { previousBlock with nextOMXComp := block.nextOMXComp })) cell none, ?_, ?_⟩
  · rw [freeHandle, if_neg (ready_test ready)]
    simp only [start, first_there, if_neg first_apart, search, freeBehind, present, link, there, own,
      bind_eq_bind, bind_some, if_true]
    rw [← start]
    exact congrArg some (deleteComponent_eq still own)
  · refine remove_represents represents ?_ (handleOf_link present _)
    have unlinked := chain.unlink cells
    rw [linkOf_update, ← linkOf_eq there]
    simpa using unlinked

theorem freeHandle_listed (represents : Represents core entries)
    (listed : component ∈ entries.map snd) :
    ∃ head memory rest, freeHandle core (some component) =
        some ⟨.errorNone, none, core.without component head memory⟩ ∧
      rest.map snd = (entries.map snd).erase component ∧
      Represents (core.without component head memory) rest := by
  obtain ⟨⟨cell, _⟩, member, rfl⟩ := mem_map.mp listed
  obtain ⟨before, after, rfl⟩ := append_of_mem member
  have erased := erase_entry represents.distinct
  rcases eq_nil_or_concat' before with rfl | ⟨front, previous, rfl⟩
  · obtain ⟨head, memory, answer, rest⟩ := freeHandle_first ready represents
    exact ⟨head, memory, after, answer, erased.symm, rest⟩
  · obtain ⟨head, memory, answer, rest⟩ := freeHandle_behind ready represents
    exact ⟨head, memory, _, answer, erased.symm, rest⟩

/-- A handle that is not listed makes the code read through a null pointer. -/
theorem freeHandle_unlisted (represents : Represents core entries)
    (unlisted : component ∉ entries.map snd) : freeHandle core (some component) = none := by
  have others : ∀ entry ∈ entries, handleOf core.memory entry.1 ≠ some component := by
    intro entry member
    rw [represents.handles entry member]
    intro same
    exact unlisted (mem_map.mpr ⟨entry, member, Option.some.inj same⟩)
  rw [freeHandle, if_neg (ready_test ready)]
  cases entries with
  | nil =>
    have empty : core.gLoadComponentList = none := represents.chain
    simp only [empty, bind_eq_bind, bind_none]
  | cons entry rest =>
    have chain := represents.chain
    obtain ⟨start, _⟩ := chain
    obtain ⟨block, there, _⟩ := block_of_handle (represents.handles entry mem_cons_self)
    have apart : block.pOMXComponent ≠ some component :=
      handleOf_eq there ▸ others entry mem_cons_self
    have chain := represents.chain
    rw [start] at chain
    have search := findBefore_absent (rest.map fst) entry.1 (core.allocated + 1) chain (by
      intro x member
      obtain ⟨other, behind, rfl⟩ := mem_map.mp member
      exact others other (mem_cons_of_mem _ behind))
    simp only [start, there, if_neg apart, search, bind_eq_bind, bind_some, bind_none]

end

variable {call : GetCall}

theorem Represents.returned (represents : Represents core entries)
    (unused : core.memory address = none) {memory : Nat → Option Component} {unloaded : List Nat}
    (same : ∀ other, other ≠ address → memory other = core.memory other) :
    Represents { core with memory := memory, unloaded := unloaded } entries := by
  refine represents.congr rfl ?_ represents.counted
  intro entry member
  exact same entry.1 (represents.fresh_cell unused entry member)

theorem loadHandle_error {ret : OmxError} (entry : Registered)
    (load : call.componentLoad = .error ret) :
    loadHandle core call entry address = some ⟨ret, none,
      { core with memory := update core.memory address none }⟩ := by
  simp only [loadHandle, load, Core.malloc, Core.store, Core.free, update_idem, Nat.add_sub_cancel]

theorem loadHandle_refused (entry : Registered) (load : call.componentLoad = .ok component)
    (refused : call.setCallbacks ≠ .errorNone) :
    loadHandle core call entry address = some ⟨call.setCallbacks, none,
      { core with
        memory := update core.memory address none
        unloaded := core.unloaded ++ [component] }⟩ := by
  simp only [loadHandle, load, if_pos refused, componentUnload, Core.malloc, Core.store, Core.free,
    update_self, update_idem, Nat.add_sub_cancel]

theorem loadHandle_loaded (entry : Registered) (represents : Represents core entries)
    (unused : core.memory address = none) (new : component ∉ entries.map snd)
    (load : call.componentLoad = .ok component) (accepted : call.setCallbacks = .errorNone) :
    ∃ after, loadHandle core call entry address = some ⟨.errorNone, some component, after⟩ ∧
      after.gInitialized = core.gInitialized ∧ after.gComponentList = core.gComponentList ∧
      Represents after (entries ++ [(address, component)]) := by
  let block : Component := ⟨entry.componentName, entry.libName, some component, none⟩
  let loaded : Core := { core with
    memory := update core.memory address (some block)
    allocated := core.allocated + 1 }
  have kept : Represents loaded entries := by
    refine represents.congr rfl ?_ (Nat.le_succ_of_le represents.counted)
    intro other member
    exact update_of_ne (represents.fresh_cell unused other member) _ _
  have there : loaded.memory address = some block := update_self _ _ _
  obtain ⟨head, memory, appended, after⟩ := append_represents kept there rfl rfl
    (represents.fresh_cell unused) new (Nat.succ_le_succ represents.counted)
  refine ⟨{ loaded with gLoadComponentList := head, memory := memory }, ?_, rfl, rfl, after⟩
  have same : (core.malloc address ⟨entry.componentName, entry.libName, none, none⟩).store address
      block = loaded := by
    simp only [Core.malloc, Core.store, update_idem, loaded]
  rw [loadHandle, load]
  dsimp only
  rw [if_neg (not_not_intro accepted), same, appended]
  rfl

variable {registered : List Registered} {handles : List Nat}

theorem GetCall.granted_of_not (refused : call.accepted = false ∨ call.entry registered = none) :
    call.granted registered = none := by
  rcases refused with refused | refused
  · simp [GetCall.granted, refused]
  · simp [GetCall.granted, refused]

theorem getHandle_answers (holds : Holds registered core handles)
    (fresh : Fresh core (.getHandle call)) (served : Served registered handles (.getHandle call)) :
    ∃ answer, getHandle core call = some answer ∧
      Answers registered handles core answer (.getHandle call) ∧
      Holds registered answer.core (held registered handles (.getHandle call)) := by
  obtain ⟨ready, rfl, entries, rfl, represents⟩ := holds
  obtain ⟨block, component, failed⟩ := fresh
  have unchanged : ∀ ret, ret ≠ .errorNone → call.granted core.gComponentList = none →
      Answers core.gComponentList (entries.map snd) core ⟨ret, none, core⟩
          (.getHandle call) ∧
        Holds core.gComponentList core
          (held core.gComponentList (entries.map snd) (.getHandle call)) := by
    intro ret error none
    refine ⟨⟨none.symm, ?_⟩, ready, rfl, entries, ?_, represents⟩
    · simp [error, none]
    · simp [held, none]
  rw [getHandle, if_neg (ready_test ready)]
  cases accepted : call.accepted with
  | false =>
    exact ⟨_, rfl, unchanged badParameter (by decide) (GetCall.granted_of_not (.inl accepted))⟩
  | true =>
    cases found : call.entry core.gComponentList with
    | none =>
      exact ⟨_, rfl, unchanged .componentNotFound (by decide) (GetCall.granted_of_not (.inr found))⟩
    | some entry =>
      obtain ⟨address, memory⟩ := isSome_iff_exists.mp (served accepted (by rw [found]; rfl))
      have unused := block address memory
      simp only [Bool.not_true, Bool.false_eq_true, if_false, memory, bind_some]
      cases load : call.componentLoad with
      | error ret =>
        have none : call.granted core.gComponentList = none := by simp [GetCall.granted, load]
        refine ⟨_, loadHandle_error entry load, ⟨none.symm, ?_⟩, ready, rfl, entries, ?_, ?_⟩
        · simp [failed ret load, none]
        · simp [held, none]
        · exact represents.returned unused fun other apart => update_of_ne apart _ _
      | ok handle =>
        by_cases callbacks : call.setCallbacks = .errorNone
        · have some_handle : call.granted core.gComponentList = some handle := by
            simp [GetCall.granted, load, accepted, found, callbacks]
          have new := represents.fresh_handle (component handle load)
          obtain ⟨after, answer, ready', registered', rest⟩ :=
            loadHandle_loaded entry represents unused new load callbacks
          refine ⟨_, answer, ⟨some_handle.symm, ?_⟩, ready'.trans ready, registered', _, ?_, rest⟩
          · simp [some_handle]
          · simp [held, some_handle]
        · have none : call.granted core.gComponentList = none := by
            simp [GetCall.granted, callbacks]
          refine ⟨_, loadHandle_refused entry load callbacks, ⟨none.symm, ?_⟩, ready, rfl, entries,
            ?_, ?_⟩
          · simp [callbacks, none]
          · simp [held, none]
          · exact represents.returned unused fun other apart => update_of_ne apart _ _

theorem perform_answers {call : Call} (holds : Holds registered core handles)
    (fresh : Fresh core call) (served : Served registered handles call) :
    ∃ answer, perform core call = some answer ∧ Answers registered handles core answer call ∧
      Holds registered answer.core (held registered handles call) := by
  cases call with
  | getHandle call => exact getHandle_answers holds fresh served
  | freeHandle component =>
    obtain ⟨ready, known, entries, rfl, represents⟩ := holds
    have listed : component ∈ entries.map snd := served
    obtain ⟨head, memory, rest, answer, erased, after⟩ :=
      freeHandle_listed ready represents listed
    refine ⟨_, answer, ?_, ready, known, rest, erased, after⟩
    rw [Answers, if_pos listed]
    exact ⟨rfl, rfl⟩

theorem perform_stops {call : Call} (holds : Holds registered core handles)
    (unserved : ¬ Served registered handles call) : perform core call = none := by
  obtain ⟨ready, known, entries, rfl, represents⟩ := holds
  cases call with
  | getHandle call =>
    obtain ⟨accepted, rest⟩ := Classical.not_imp.mp unserved
    obtain ⟨found, memory⟩ := Classical.not_imp.mp rest
    obtain ⟨entry, entryFound⟩ := isSome_iff_exists.mp found
    have exhausted : call.malloc = none := by simpa using memory
    rw [perform, getHandle, if_neg (ready_test ready), accepted, known, entryFound, exhausted]
    rfl
  | freeHandle component => exact freeHandle_unlisted ready represents unserved

theorem refines_iff (calls : List Call) : ∀ (core : Core) (handles : List Nat),
    Holds registered core handles → Admits step Fresh core calls →
    (Refines registered core handles calls ↔
      Meets (held registered) (Served registered) handles calls) := by
  induction calls with
  | nil =>
    intro core handles holds _
    exact ⟨fun _ => trivial, fun _ => holds⟩
  | cons call calls ih =>
    intro core handles holds sane
    by_cases served : Served registered handles call
    · obtain ⟨answer, taken, answers, after⟩ := perform_answers holds sane.1 served
      have stepped : step core call = some answer.core := by rw [step, taken]; rfl
      have rest := ih answer.core _ after (sane.2 _ stepped)
      constructor
      · rintro ⟨_, other, again, _, refines⟩
        cases taken.symm.trans again
        exact ⟨served, rest.mp refines⟩
      · rintro ⟨_, meets⟩
        exact ⟨holds, answer, taken, answers, rest.mpr meets⟩
    · constructor
      · rintro ⟨_, answer, taken, _⟩
        rw [perform_stops holds served] at taken
        cases taken
      · rintro ⟨served', _⟩
        exact absurd served' served

theorem start_holds (registered : List Registered) : Holds registered (Core.start registered) [] := by
  refine ⟨rfl, rfl, [], rfl, rfl, ?_, nodup_nil, nodup_nil, Nat.le_refl _⟩
  intro entry member
  cases member

/-- For every sequence of calls after initialisation: all of them return, the list always holds the
    handles that were returned and not yet freed in their order, and every call answers as it should,
    if and only if every handle that is freed is one of them and no block is missing. -/
theorem handle_table_iff (registered : List Registered) (calls : List Call)
    (sane : Admits step Fresh (Core.start registered) calls) :
    Refines registered (Core.start registered) [] calls ↔
      Meets (held registered) (Served registered) [] calls :=
  refines_iff calls _ _ (start_holds registered) sane

def decoder (address component : Nat) : Call :=
  .getHandle ⟨true, some "OMX.SEC.AVC.Decoder", true, some address, .ok component, .errorNone⟩

def onlyDecoder : List Registered := [⟨"OMX.SEC.AVC.Decoder", "libOMX.SEC.AVC.Decoder.so"⟩]

/-- Only these addresses are in use, and by blocks of other components. -/
theorem fresh_decoder {core : Core} {address component : Nat} (used : List Nat)
    (others : ∀ other, other ∉ used → core.memory other = none) (unused : address ∉ used)
    (distinct : ∀ other ∈ used, handleOf core.memory other ≠ some component) :
    Fresh core (decoder address component) := by
  refine ⟨?_, ?_, ?_⟩
  · rintro _ ⟨⟩
    exact others address unused
  · rintro _ ⟨⟩ other block there same
    by_cases member : other ∈ used
    · apply distinct other member
      rw [handleOf, there]
      exact same
    · rw [others other member] at there
      cases there
  · rintro ret ⟨⟩

def threeDecoders : List Call :=
  [decoder 16 100, decoder 32 200, decoder 48 300, .freeHandle 200, .freeHandle 100,
    .freeHandle 300]

/-- Three decoders are loaded; the one in the middle of the list is freed first, then the first and
    the last one. -/
theorem interior_decoder_freed :
    Refines onlyDecoder (Core.start onlyDecoder) [] threeDecoders := by
  have sane : Admits step Fresh (Core.start onlyDecoder) threeDecoders := by
    refine ⟨fresh_decoder [] (fun _ _ => rfl) (by decide) (by decide), fun first taken => ?_⟩
    cases taken
    refine ⟨fresh_decoder [16] ?_ (by decide) (by decide +kernel), fun second taken => ?_⟩
    · intro other unused
      simp_all [Core.malloc, Core.store, Core.start, update]
    cases taken
    refine ⟨fresh_decoder [16, 32] ?_ (by decide) (by decide +kernel), fun _ _ =>
      ⟨trivial, fun _ _ => ⟨trivial, fun _ _ => ⟨trivial, fun _ _ => trivial⟩⟩⟩⟩
    intro other unused
    simp_all [Core.malloc, Core.store, Core.start, update]
  refine (handle_table_iff onlyDecoder _ sane).mpr
    ⟨fun _ _ => rfl, fun _ _ => rfl, fun _ _ => rfl, ?_, ?_, ?_, trivial⟩
  · change 200 ∈ [100, 200, 300]
    decide
  · change 100 ∈ [100, 300]
    decide
  · change 300 ∈ [300]
    decide

/-- A handle that is freed when nothing is loaded, and one that was never returned: the code reads
    through a null pointer. -/
theorem unlisted_handle_crashes :
    perform (Core.start onlyDecoder) (.freeHandle 100) = none ∧
      (run step (Core.start onlyDecoder) [decoder 16 100]).isSome = true ∧
      run step (Core.start onlyDecoder) [decoder 16 100, .freeHandle 200] = none := by
  decide

end CoreHandles
