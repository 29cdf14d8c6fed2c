import SamsungHardware.Library.StepRuns
import SamsungHardware.OmxComponents.ResourceManager

/- How many components own an instance of the hardware, and which of them has to give it up when
   another one asks. The search picks an element of the list, and the removal looks for the first
   element with the same component, which is another one when a component is listed twice. -/
namespace ResourceLimits
open ResourceManager StepRuns List Function

variable {C : Type} [DecidableEq C]

inductive Event (C : Type) where
  | get (codec : Option HwCodec) (element : Element C) (stateOf : C → OmxState) (outside : Outside)
  | release (codec : Option HwCodec) (component : C) (outside : Outside)
  | inWait (codec : Option HwCodec) (element : Element C) (outside : Outside)
  | outWait (codec : Option HwCodec) (component : C)

variable (lists : ResourceManager.Lists C)

def step : Event C → ResourceManager.Lists C
  | .get codec element stateOf outside => (getResource lists codec element stateOf outside).2
  | .release codec component outside => (releaseResource lists codec component outside).2
  | .inWait codec element outside => (inWaitForResource lists codec element outside).2
  | .outWait codec component => (outWaitForResource lists codec component).2

def noComponents : ResourceManager.Lists C := ⟨fun _ => [], fun _ => []⟩

def freed (list : List (Element C)) (component : C) : Option (Element C) :=
  list.find? fun element => element.component = component

def Bounded : Prop :=
  ∀ codec, (lists.components codec).length ≤ maxResource codec

/-- What a request removes and adds: `removed` is gone from the list, and the request stands at its
    end unless there is no memory or no place for it. -/
def Exchanges : Event C → Prop
  | .get (some codec) element stateOf outside =>
    let list := lists.components codec
    let list' := (getResource lists (some codec) element stateOf outside).2.components codec
    match preempted lists codec element.groupPriority stateOf outside with
    | none => list' = list ∨ list' = list ++ [element]
    | some candidate => ∃ removed kept, freed list candidate.component = some removed ∧
        list.Perm (removed :: kept) ∧ list' = kept ++ if outside.malloc then [element] else []
  | _ => True

/-- What is removed for a request has the largest priority number, which is above that of the
    request. -/
def Justified : Event C → Prop
  | .get (some codec) element stateOf outside =>
    ∀ candidate, preempted lists codec element.groupPriority stateOf outside = some candidate →
      ∀ removed, freed (lists.components codec) candidate.component = some removed →
        element.groupPriority < removed.groupPriority ∧
          ∀ other ∈ lists.components codec, other.groupPriority ≤ removed.groupPriority
  | _ => True

/-- The first element with the candidate's component was recorded with the same priority. -/
def FirstRecorded : Event C → Prop
  | .get (some codec) element stateOf outside =>
    ∀ candidate, preempted lists codec element.groupPriority stateOf outside = some candidate →
      ∀ removed, freed (lists.components codec) candidate.component = some removed →
        removed.groupPriority = candidate.groupPriority
  | _ => True

/-- A component asks only while it is not listed. -/
def Single : Event C → Prop
  | .get (some codec) element _ _ => element.component ∉ lists.owners codec
  | _ => True

section

variable {priority : Nat} {seen : List (Element C)}

def AtMost (priority : Nat) (seen : List (Element C)) : Prop :=
  ∀ element ∈ seen, element.groupPriority ≤ priority

def Best (priority : Nat) (seen : List (Element C)) : Option (Element C) → Prop
  | none => AtMost priority seen
  | some best => priority < best.groupPriority ∧ AtMost best.groupPriority seen

omit [DecidableEq C]

theorem AtMost.append {bound : Nat} (known : AtMost priority seen) (above : priority ≤ bound)
    {element : Element C} (last : element.groupPriority ≤ bound) :
    AtMost bound (seen ++ [element]) := by
  intro other member
  rcases mem_append.mp member with earlier | here
  · exact Nat.le_trans (known other earlier) above
  · rw [mem_singleton.mp here]
    exact last

theorem lowerPriority_best {candidate : Option (Element C)}
    (known : Best priority seen candidate) (element : Element C) :
    Best priority (seen ++ [element]) (lowerPriority priority candidate element) := by
  unfold lowerPriority
  by_cases above : priority < element.groupPriority
  · rw [if_pos above]
    cases candidate with
    | none => exact ⟨above, known.append (Nat.le_of_lt above) (Nat.le_refl _)⟩
    | some best =>
      obtain ⟨exceeds, largest⟩ := known
      by_cases larger : best.groupPriority < element.groupPriority
      · simp only [if_pos larger]
        exact ⟨above, largest.append (Nat.le_of_lt larger) (Nat.le_refl _)⟩
      · simp only [if_neg larger]
        exact ⟨exceeds, largest.append (Nat.le_refl _) (Nat.le_of_not_lt larger)⟩
  · rw [if_neg above]
    cases candidate with
    | none => exact known.append (Nat.le_refl _) (Nat.le_of_not_lt above)
    | some best =>
      obtain ⟨exceeds, largest⟩ := known
      exact ⟨exceeds, largest.append (Nat.le_refl _) (by omega)⟩

theorem searchLowPriority_best (list : List (Element C)) :
    Best priority list (searchLowPriority list priority) := by
  have walk : ∀ (rest seen : List (Element C)) (candidate : Option (Element C)),
      Best priority seen candidate →
        Best priority (seen ++ rest) (rest.foldl (lowerPriority priority) candidate) := by
    intro rest
    induction rest with
    | nil =>
      intro seen candidate known
      rw [append_nil]
      exact known
    | cons first rest ih =>
      intro seen candidate known
      have next := ih (seen ++ [first]) _ (lowerPriority_best known first)
      rwa [append_assoc] at next
  exact walk list [] none (by intro element member; cases member)

end

section

variable {lists : ResourceManager.Lists C} {codec : HwCodec} {element candidate : Element C}
  {stateOf : C → OmxState} {outside : Outside}

omit [DecidableEq C] in
theorem preempted_best
    (chosen : preempted lists codec element.groupPriority stateOf outside = some candidate) :
    maxResource codec ≤ (lists.components codec).length ∧
      candidate ∈ lists.components codec ∧ element.groupPriority < candidate.groupPriority ∧
      AtMost candidate.groupPriority (lists.components codec) := by
  unfold preempted at chosen
  by_cases full : maxResource codec ≤ (lists.components codec).length
  · rw [if_pos full] at chosen
    have found := (Option.filter_eq_some_iff.mp chosen).1
    have best : Best element.groupPriority _ _ := searchLowPriority_best (lists.components codec)
    rw [found] at best
    exact ⟨full, searchLowPriority_mem found, best⟩
  · rw [if_neg full] at chosen
    cases chosen

theorem removeElementList_of_mem {list : List (Element C)} (member : candidate ∈ list) :
    ∃ before removed after, list = before ++ removed :: after ∧
      (∀ other ∈ before, other.component ≠ candidate.component) ∧
      removed.component = candidate.component ∧
      (removeElementList list candidate.component).2 = before ++ after := by
  obtain ⟨removed, before, after, unlike, alike, split, erased⟩ :=
    exists_of_eraseP (p := fun other => other.component = candidate.component) member
      (decide_eq_true rfl)
  have listed : list.isEmpty = false := isEmpty_eq_false_iff.mpr (ne_nil_of_mem member)
  have found : list.any (fun other => other.component = candidate.component) = true :=
    any_eq_true.mpr ⟨candidate, member, decide_eq_true rfl⟩
  refine ⟨before, removed, after, split, ?_, of_decide_eq_true alike, ?_⟩
  · intro other earlier same
    exact unlike other earlier (decide_eq_true same)
  · rw [removeElementList, listed, if_neg Bool.false_ne_true, if_pos found, erased]

theorem freed_of_mem {list : List (Element C)} (member : candidate ∈ list) :
    ∃ removed, freed list candidate.component = some removed ∧
      list.Perm (removed :: (removeElementList list candidate.component).2) := by
  obtain ⟨before, removed, after, split, unlike, alike, kept⟩ := removeElementList_of_mem member
  refine ⟨removed, ?_, ?_⟩
  · have none : before.find? (fun other => other.component = candidate.component) = none :=
      find?_eq_none.mpr fun other earlier => by simp [unlike other earlier]
    rw [freed, split, find?_append, none, Option.none_or]
    simp [alike]
  · rw [kept, split]
    exact perm_middle

theorem freed_mem {list : List (Element C)} {component : C} {removed : Element C}
    (frees : freed list component = some removed) :
    removed ∈ list ∧ removed.component = component := by
  have same := find?_some frees
  exact ⟨mem_of_find?_eq_some frees, of_decide_eq_true same⟩

omit [DecidableEq C] in
theorem setComponents_components (lists : ResourceManager.Lists C) (codec : HwCodec)
    (list : List (Element C)) :
    (lists.setComponents codec list).components codec = list := update_self _ _ _

theorem get_exchanges (lists : ResourceManager.Lists C) (event : Event C) :
    Exchanges lists event := by
  cases event with
  | get codec element stateOf outside =>
    cases codec with
    | none => trivial
    | some codec =>
      dsimp only [Exchanges]
      cases chosen : preempted lists codec element.groupPriority stateOf outside with
      | none =>
        rw [getResource_kept element chosen]
        by_cases free : available lists codec outside = true
        · rw [if_pos free]
          exact Or.inr (setComponents_components _ _ _)
        · rw [if_neg free]
          exact Or.inl rfl
      | some candidate =>
        obtain ⟨member, exchanged⟩ := getResource_preempted element chosen
        obtain ⟨removed, frees, perm⟩ := freed_of_mem member
        rw [exchanged]
        exact ⟨removed, _, frees, perm, setComponents_components _ _ _⟩
  | _ => trivial

theorem justified_iff (lists : ResourceManager.Lists C) (event : Event C) :
    Justified lists event ↔ FirstRecorded lists event := by
  cases event with
  | get codec element stateOf outside =>
    cases codec with
    | none => exact Iff.rfl
    | some codec =>
      refine forall_congr' fun candidate => forall_congr' fun chosen =>
        forall_congr' fun removed => forall_congr' fun frees => ?_
      obtain ⟨_, member, above, largest⟩ := preempted_best chosen
      constructor
      · intro justified
        have upper := largest removed (freed_mem frees).1
        have lower := justified.2 candidate member
        omega
      · intro same
        rw [same]
        exact ⟨above, largest⟩
  | _ => exact Iff.rfl

end

section

def Asks (kind : HwCodec) (c : C) : Event C → Prop
  | .get (some codec) element _ _ => codec = kind ∧ element.component = c
  | _ => False

inductive Change (room : Nat) (asks : C → Prop) (owners : List C) : List C → Prop where
  | same : Change room asks owners owners
  | erased (c : C) : Change room asks owners (owners.erase c)
  | added (c : C) (requested : asks c) (free : owners.length < room) :
      Change room asks owners (owners ++ [c])
  | replaced (v c : C) (requested : asks c) (listed : v ∈ owners) :
      Change room asks owners (owners.erase v ++ [c])

variable {room : Nat} {asks : C → Prop} {owners owners' : List C}

theorem Change.length_le (change : Change room asks owners owners')
    (bounded : owners.length ≤ room) :
    owners'.length ≤ room := by
  cases change with
  | same => exact bounded
  | erased c => exact Nat.le_trans length_erase_le bounded
  | added c requested free =>
    rw [length_append, length_singleton]
    exact free
  | replaced v c requested listed =>
    have positive := length_pos_of_mem listed
    rw [length_append, length_singleton, length_erase_of_mem listed]
    omega

theorem Change.nodup (change : Change room asks owners owners') (single : owners.Nodup)
    (fresh : ∀ c, asks c → c ∉ owners) : owners'.Nodup := by
  cases change with
  | same => exact single
  | erased c => exact single.erase c
  | added c requested _ =>
    exact nodup_append.mpr ⟨single, nodup_singleton c, fun a member b last same =>
      fresh c requested (mem_singleton.mp last ▸ same ▸ member)⟩
  | replaced v c requested _ =>
    exact nodup_append.mpr ⟨single.erase v, nodup_singleton c, fun a member b last same =>
      fresh c requested (mem_singleton.mp last ▸ same ▸ mem_of_mem_erase member)⟩

theorem change_of_update {lists : ResourceManager.Lists C} {codec : HwCodec} {list : List C}
    (asks : HwCodec → C → Prop)
    (change : Change (maxResource codec) (asks codec) (lists.owners codec) list) (kind : HwCodec) :
    Change (maxResource kind) (asks kind) (lists.owners kind)
      (update lists.owners codec list kind) := by
  by_cases here : kind = codec
  · subst here
    rw [update_self]
    exact change
  · rw [update_of_ne here]
    exact .same

theorem get_change (lists : ResourceManager.Lists C) (codec : HwCodec) (element : Element C)
    (stateOf : C → OmxState) (outside : Outside) (kind : HwCodec) :
    Change (maxResource kind) (fun c => codec = kind ∧ element.component = c) (lists.owners kind)
      ((getResource lists (some codec) element stateOf outside).2.owners kind) := by
  cases chosen : preempted lists codec element.groupPriority stateOf outside with
  | none =>
    rw [getResource_kept element chosen]
    by_cases free : available lists codec outside = true
    · have space : (lists.owners codec).length < maxResource codec := by
        have := of_decide_eq_true (Bool.and_eq_true_iff.mp free).1
        rwa [ResourceManager.Lists.owners, names, length_map]
      rw [if_pos free, setComponents_owners, names_append]
      exact change_of_update (fun kind c => codec = kind ∧ element.component = c)
        (.added element.component ⟨rfl, rfl⟩ space) kind
    · rw [if_neg free]
      exact .same
  | some candidate =>
    obtain ⟨member, exchanged⟩ := getResource_preempted element chosen
    have listed : candidate.component ∈ lists.owners codec := mem_map_of_mem member
    rw [exchanged, setComponents_owners, names_append, names_remove]
    refine change_of_update (fun kind c => codec = kind ∧ element.component = c) ?_ kind
    cases outside.malloc with
    | false =>
      show Change _ _ _ ((lists.owners codec).erase candidate.component ++ [])
      rw [append_nil]
      exact .erased candidate.component
    | true => exact .replaced candidate.component element.component ⟨rfl, rfl⟩ listed

theorem step_change (lists : ResourceManager.Lists C) (event : Event C) (kind : HwCodec) :
    Change (maxResource kind) (fun c => Asks kind c event) (lists.owners kind)
      ((step lists event).owners kind) := by
  cases event with
  | get codec element stateOf outside =>
    cases codec with
    | none => exact .same
    | some codec => exact get_change lists codec element stateOf outside kind
  | release codec component outside =>
    cases codec with
    | none => exact .same
    | some codec =>
      rw [step, releaseResource_owners]
      exact change_of_update (fun _ _ => False) (.erased component) kind
  | inWait codec element outside =>
    dsimp only [step, ResourceManager.Lists.owners]
    rw [inWaitForResource_components]
    exact .same
  | outWait codec component =>
    dsimp only [step, ResourceManager.Lists.owners]
    rw [outWaitForResource_components]
    exact .same

end

section

variable (lists : ResourceManager.Lists C) (event : Event C)

theorem step_bounded (bounded : Bounded lists) : Bounded (step lists event) := by
  intro kind
  have count (lists : ResourceManager.Lists C) :
      (lists.owners kind).length = (lists.components kind).length :=
    length_map _
  rw [← count]
  exact (step_change lists event kind).length_le (count lists ▸ bounded kind)

theorem step_nodup (single : ∀ kind, (lists.owners kind).Nodup) (fresh : Single lists event)
    (kind : HwCodec) : ((step lists event).owners kind).Nodup := by
  refine (step_change lists event kind).nodup (single kind) fun c asks => ?_
  cases event with
  | get codec element stateOf outside =>
    cases codec with
    | none => exact asks.elim
    | some codec =>
      obtain ⟨rfl, rfl⟩ := asks
      exact fresh
  | _ => exact asks.elim

theorem firstRecorded_of_nodup (single : ∀ kind, (lists.owners kind).Nodup) :
    FirstRecorded lists event := by
  cases event with
  | get codec element stateOf outside =>
    cases codec with
    | none => trivial
    | some codec =>
      intro candidate chosen removed frees
      obtain ⟨_, member, _⟩ := preempted_best chosen
      obtain ⟨listed, same⟩ := freed_mem frees
      rw [inj_on_of_nodup_map (single codec) listed member same]
  | _ => trivial

end

/-- The lists never hold more elements than there are instances. The element that a request removes
    is exactly then always the right one when it is recorded with the priority of the candidate, and
    this is so when no component asks twice. -/
theorem limits_and_preemption_iff (events : List (Event C)) :
    Visits step Bounded noComponents events ∧ Meets step Exchanges noComponents events ∧
      (Meets step Justified noComponents events ↔ Meets step FirstRecorded noComponents events) ∧
      (Meets step Single noComponents events → Meets step Justified noComponents events) := by
  have none : Bounded (noComponents : ResourceManager.Lists C) := fun _ => Nat.zero_le _
  have single : ∀ kind, ((noComponents : ResourceManager.Lists C).owners kind).Nodup :=
    fun _ => nodup_nil
  have every : Meets step Exchanges (noComponents : ResourceManager.Lists C) events :=
    meets_of_forall events (fun event _ lists => get_exchanges lists event) _
  refine ⟨?_, every, meets_congr justified_iff events _, fun fresh => ?_⟩
  · exact visits_of_meets (fun _ bounded => bounded) (fun lists event bounded _ =>
      step_bounded lists event bounded) events _ none every
  · exact meets_of_meets step_nodup (fun lists event single _ =>
      (justified_iff lists event).mpr (firstRecorded_of_nodup lists event single)) events _ single
      fresh

/-- A component is recorded with priority 1 and again with 9. The request with priority 5 is told
    to replace the latter and replaces the former. -/
theorem first_record_removed :
    let request : Nat → Nat → Event Nat := fun component priority =>
      .get (some .videoDec) ⟨component, priority⟩ (fun _ => .executing) ⟨true, .errorNone⟩
    let lists := [request 0 1, request 1 0, request 0 9].foldl step noComponents
    lists.components .videoDec = [⟨0, 1⟩, ⟨1, 0⟩, ⟨0, 9⟩] ∧
      (step lists (request 2 5)).components .videoDec = [⟨1, 0⟩, ⟨0, 9⟩, ⟨2, 5⟩] ∧
      ¬ Justified lists (request 2 5) := by
  refine ⟨rfl, rfl, fun justified => ?_⟩
  have above := (justified ⟨0, 9⟩ rfl ⟨0, 1⟩ rfl).1
  exact absurd above (by decide)

end ResourceLimits
