import Mathlib

/- The resource manager of the hardware codecs, SEC_OMX_Resourcemanager.c. Decoders and encoders
   have a list of components that own an instance of the hardware and a list of components that
   wait for one; the functions treat the two kinds alike. `OMX_SendCommand` only queues a
   command, and its result is given from outside, as is that of the memory allocation. -/
namespace ResourceManager
open Function Option

inductive OmxState where
  | invalid | loaded | idle | executing | pause | waitForResources
  deriving DecidableEq, Repr

inductive OmxError where
  | errorNone | insufficientResources | undefined | componentNotFound | sameState
  | invalidState | incorrectStateTransition
  | other (code : Nat)
  deriving DecidableEq, Repr

abbrev badParameter : OmxError := .other 0x80001005
abbrev notImplemented : OmxError := .other 0x80001006
abbrev incorrectStateOperation : OmxError := .other 0x80001018
abbrev badPortIndex : OmxError := .other 0x8000101b

inductive HwCodec where
  | videoDec | videoEnc
  deriving DecidableEq, Repr

def maxResource : HwCodec → Nat
  | .videoDec => 3
  | .videoEnc => 1

variable {C : Type}

structure Element (C : Type) where
  component : C
  groupPriority : Nat
  deriving DecidableEq, Repr

structure Lists (C : Type) where
  (components waiting : HwCodec → List (Element C))

structure Outside where
  malloc : Bool
  sendCommand : OmxError
  deriving DecidableEq, Repr

def addElementList (malloc : Bool) (list : List (Element C)) (element : Element C) :
    OmxError × List (Element C) :=
  if malloc then (.errorNone, list ++ [element]) else (.insufficientResources, list)

def lowerPriority (inCompPriority : Nat) (candidate : Option (Element C)) (element : Element C) :
    Option (Element C) :=
  if inCompPriority < element.groupPriority then
    match candidate with
    | some best => if best.groupPriority < element.groupPriority then some element else some best
    | none => some element
  else candidate

def searchLowPriority (list : List (Element C)) (inCompPriority : Nat) : Option (Element C) :=
  list.foldl (lowerPriority inCompPriority) none

theorem lowerPriority_some {priority : Nat} {candidate : Option (Element C)}
    {element best : Element C} (chosen : lowerPriority priority candidate element = some best) :
    best = element ∨ candidate = some best := by
  unfold lowerPriority at chosen
  by_cases above : priority < element.groupPriority
  · rw [if_pos above] at chosen
    cases candidate with
    | none => exact Or.inl (some_inj.mp chosen).symm
    | some old =>
      by_cases larger : old.groupPriority < element.groupPriority
      · simp only [if_pos larger] at chosen
        exact Or.inl (some_inj.mp chosen).symm
      · simp only [if_neg larger] at chosen
        exact Or.inr chosen
  · rw [if_neg above] at chosen
    exact Or.inr chosen

theorem searchLowPriority_mem {list : List (Element C)} {priority : Nat} {element : Element C}
    (found : searchLowPriority list priority = some element) : element ∈ list := by
  have walk : ∀ (rest : List (Element C)) (candidate : Option (Element C)),
      rest.foldl (lowerPriority priority) candidate = some element →
        element ∈ rest ∨ candidate = some element := by
    intro rest
    induction rest with
    | nil => intro candidate known; exact Or.inr known
    | cons first rest ih =>
      intro candidate chosen
      rcases ih _ chosen with later | here
      · exact Or.inl (List.mem_cons_of_mem _ later)
      · rcases lowerPriority_some here with rfl | before
        · exact Or.inl List.mem_cons_self
        · exact Or.inr before
  rcases walk list none found with member | empty
  · exact member
  · cases empty

variable (lists : Lists C) (codec : HwCodec) (list : List (Element C))

def Lists.setComponents : Lists C :=
  { lists with components := update lists.components codec list }

def Lists.setWaiting : Lists C :=
  { lists with waiting := update lists.waiting codec list }

/-- Here and below `codec` is `none` for components without hardware. -/
def inWaitForResource (codec : Option HwCodec) (element : Element C)
    (outside : Outside) : OmxError × Lists C :=
  match codec with
  | none => (.errorNone, lists)
  | some codec =>
    let (ret, list) := addElementList outside.malloc (lists.waiting codec) element
    (ret, lists.setWaiting codec list)

theorem inWaitForResource_components (codec : Option HwCodec) (element : Element C)
    (outside : Outside) :
    (inWaitForResource lists codec element outside).2.components = lists.components := by
  cases codec <;> rfl

def names : List C := list.map Element.component

theorem names_append (list list' : List (Element C)) :
    names (list ++ list') = names list ++ names list' := List.map_append

theorem setComponents_same : lists.setComponents codec (lists.components codec) = lists := by
  rw [Lists.setComponents, update_eq_self]

def Lists.owners : List C := names (lists.components codec)

theorem setComponents_owners :
    (lists.setComponents codec list).owners = update lists.owners codec (names list) := by
  funext kind
  by_cases same : kind = codec
  · subst same
    simp [Lists.owners, Lists.setComponents]
  · simp [Lists.owners, Lists.setComponents, same]

variable [DecidableEq C]

def removeElementList (list : List (Element C)) (component : C) : OmxError × List (Element C) :=
  if list.isEmpty then (.undefined, list)
  else if list.any (fun element => element.component = component) then
    (.errorNone, list.eraseP fun element => element.component = component)
  else (.componentNotFound, list)

/-- The owner of an instance is told to give it up. -/
def removeComponent (state : OmxState) (sendCommand : OmxError) : OmxError :=
  if state = .idle then if sendCommand ≠ .errorNone then .undefined else .errorNone
  else .errorNone

def getResource (lists : Lists C) (codec : Option HwCodec) (element : Element C)
    (stateOf : C → OmxState) (outside : Outside) : OmxError × Lists C :=
  match codec with
  | none => (.errorNone, lists)
  | some codec =>
    let list := lists.components codec
    if maxResource codec ≤ list.length then
      match searchLowPriority list element.groupPriority with
      | none => (.insufficientResources, lists)
      | some candidate =>
        if removeComponent (stateOf candidate.component) outside.sendCommand ≠ .errorNone then
          (.insufficientResources, lists)
        else
          let list := (removeElementList list candidate.component).2
          let (ret, list) := addElementList outside.malloc list element
          (if ret ≠ .errorNone then .insufficientResources else .errorNone,
            lists.setComponents codec list)
    else
      let (ret, list) := addElementList outside.malloc list element
      (if ret ≠ .errorNone then .insufficientResources else .errorNone,
        lists.setComponents codec list)

def releaseResource (lists : Lists C) (codec : Option HwCodec) (component : C)
    (outside : Outside) : OmxError × Lists C :=
  match codec with
  | none => (.errorNone, lists)
  | some codec =>
    let (ret, list) := removeElementList (lists.components codec) component
    if ret ≠ .errorNone then (.undefined, lists)
    else
      let lists := lists.setComponents codec list
      match lists.waiting codec with
      | [] => (.errorNone, lists)
      | first :: _ =>
        (outside.sendCommand,
          lists.setWaiting codec (removeElementList (lists.waiting codec) first.component).2)

def outWaitForResource (lists : Lists C) (codec : Option HwCodec) (component : C) :
    OmxError × Lists C :=
  match codec with
  | none => (.errorNone, lists)
  | some codec =>
    let (ret, list) := removeElementList (lists.waiting codec) component
    (ret, lists.setWaiting codec list)

theorem names_remove (list : List (Element C)) (component : C) :
    names (removeElementList list component).2 = (names list).erase component := by
  have erased : names (list.eraseP fun element => element.component = component) =
      (names list).erase component := by
    induction list with
    | nil => rfl
    | cons element list ih =>
      by_cases here : element.component = component
      · simp [names, here]
      · simpa [names, here] using ih
  unfold removeElementList
  by_cases empty : list.isEmpty = true
  · rw [if_pos empty, List.isEmpty_iff.mp empty]
    rfl
  rw [if_neg empty]
  by_cases found : list.any (fun element => element.component = component) = true
  · rw [if_pos found]
    exact erased
  · rw [if_neg found]
    refine (List.erase_of_not_mem fun member => found ?_).symm
    obtain ⟨element, inside, same⟩ := List.mem_map.mp member
    exact List.any_eq_true.mpr ⟨element, inside, decide_eq_true same⟩

def preempted (lists : Lists C) (codec : HwCodec) (groupPriority : Nat) (stateOf : C → OmxState)
    (outside : Outside) : Option (Element C) :=
  if maxResource codec ≤ (lists.components codec).length then
    (searchLowPriority (lists.components codec) groupPriority).filter fun candidate =>
      removeComponent (stateOf candidate.component) outside.sendCommand = .errorNone
  else none

def available (lists : Lists C) (codec : HwCodec) (outside : Outside) : Bool :=
  (lists.components codec).length < maxResource codec && outside.malloc

section

variable {lists : Lists C} {codec : HwCodec} (element : Element C) {stateOf : C → OmxState}
  {outside : Outside}

theorem getResource_preempted {candidate : Element C}
    (removed : preempted lists codec element.groupPriority stateOf outside = some candidate) :
    candidate ∈ lists.components codec ∧
      (getResource lists (some codec) element stateOf outside).2 =
        lists.setComponents codec ((removeElementList (lists.components codec)
          candidate.component).2 ++ if outside.malloc then [element] else []) := by
  unfold preempted at removed
  by_cases full : maxResource codec ≤ (lists.components codec).length
  · rw [if_pos full, filter_eq_some_iff] at removed
    obtain ⟨found, quit⟩ := removed
    refine ⟨searchLowPriority_mem found, ?_⟩
    have agrees := of_decide_eq_true quit
    cases malloc : outside.malloc <;>
      simp [getResource, full, found, agrees, addElementList, malloc]
  · rw [if_neg full] at removed
    cases removed

theorem getResource_kept
    (kept : preempted lists codec element.groupPriority stateOf outside = none) :
    getResource lists (some codec) element stateOf outside =
      if available lists codec outside then
        (.errorNone, lists.setComponents codec (lists.components codec ++ [element]))
      else (.insufficientResources, lists) := by
  unfold preempted at kept
  by_cases full : maxResource codec ≤ (lists.components codec).length
  · rw [if_pos full] at kept
    have none : ¬ (lists.components codec).length < maxResource codec := by omega
    cases found : searchLowPriority (lists.components codec) element.groupPriority with
    | none => simp [getResource, full, found, available, none]
    | some candidate =>
      rw [found, filter_some] at kept
      have stays : removeComponent (stateOf candidate.component) outside.sendCommand ≠
          .errorNone := by
        intro agrees
        simp [agrees] at kept
      simp [getResource, full, found, available, none, stays]
  · have room : (lists.components codec).length < maxResource codec := by omega
    cases malloc : outside.malloc <;>
      simp [getResource, full, room, addElementList, malloc, available, setComponents_same]

end

theorem removeElementList_failed {list : List (Element C)} {component : C}
    (failed : (removeElementList list component).1 ≠ .errorNone) :
    (removeElementList list component).2 = list := by
  unfold removeElementList at failed ⊢
  split_ifs at failed ⊢ <;> simp_all

theorem releaseResource_owners (lists : Lists C) (codec : HwCodec) (component : C)
    (outside : Outside) :
    (releaseResource lists (some codec) component outside).2.owners =
      update lists.owners codec ((lists.owners codec).erase component) := by
  have removed : names (removeElementList (lists.components codec) component).2 =
      (lists.owners codec).erase component := names_remove _ _
  rw [← removed, ← setComponents_owners]
  dsimp only [releaseResource]
  by_cases found : (removeElementList (lists.components codec) component).1 = .errorNone
  · rw [if_neg (not_not.mpr found)]
    split <;> rfl
  · rw [if_pos found, removeElementList_failed found, setComponents_same]

theorem outWaitForResource_components (lists : Lists C) (codec : Option HwCodec) (component : C) :
    (outWaitForResource lists codec component).2.components = lists.components := by
  cases codec <;> rfl

end ResourceManager
