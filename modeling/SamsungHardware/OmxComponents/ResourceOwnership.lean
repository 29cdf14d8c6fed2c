import SamsungHardware.Library.StepRuns
import SamsungHardware.OmxComponents.ComponentState

/- Owners of the hardware against the states of the components. A resource is taken in front of
   the transition from Loaded to Idle and given back in front of the transitions out of Idle,
   Executing and Pause; the list and the states disagree as soon as such a transition fails
   behind that point, another component is removed, or Idle is reached from
   WaitForResources. -/
namespace ResourceOwnership
open ResourceManager ComponentState StepRuns List Function

variable {C : Type} [DecidableEq C]

def owners (world : World C) : HwCodec → List C := world.lists.owners

def OwnershipMatches (world : World C) : Prop :=
  ∀ c codec, (world.component c).codecType = some codec →
    (owners world codec).count c = if active (world.component c).currentState then 1 else 0

structure Owned (world : World C) : Prop where
  kinds : ∀ codec, ∀ c ∈ owners world codec, (world.component c).codecType = some codec
  counted : OwnershipMatches world

section

variable {world world' : World C} {c : C}

inductive Good (world world' : World C) (c : C) : Prop where
  | same (lists : owners world' = owners world)
      (state : (world.component c).codecType = none ∨
        active (world'.component c).currentState = active (world.component c).currentState)
  | taken (codec : HwCodec) (kind : (world.component c).codecType = some codec)
      (lists : owners world' = update (owners world) codec (owners world codec ++ [c]))
      (was : active (world.component c).currentState = false)
      (becomes : active (world'.component c).currentState = true)
  | given (codec : HwCodec) (kind : (world.component c).codecType = some codec)
      (lists : owners world' = update (owners world) codec ((owners world codec).erase c))
      (was : active (world.component c).currentState = true)
      (becomes : active (world'.component c).currentState = false)

inductive Bad (world world' : World C) (c : C) : Prop where
  | unlisted (codec : HwCodec) (kind : (world.component c).codecType = some codec)
      (lists : owners world' = owners world)
      (was : active (world.component c).currentState = false)
      (becomes : active (world'.component c).currentState = true)
  | kept (codec : HwCodec) (kind : (world.component c).codecType = some codec)
      (lists : owners world' = update (owners world) codec (owners world codec ++ [c]))
      (was : active (world.component c).currentState = false)
      (becomes : active (world'.component c).currentState = false)
  | dropped (codec : HwCodec) (kind : (world.component c).codecType = some codec)
      (lists : owners world' = update (owners world) codec ((owners world codec).erase c))
      (was : active (world.component c).currentState = true)
      (becomes : active (world'.component c).currentState = true)
  | preempted (codec : HwCodec) (kind : (world.component c).codecType = some codec)
      (candidate : C) (member : candidate ∈ owners world codec) (taken : List C)
      (self : taken ⊆ [c])
      (lists : owners world' = update (owners world) codec
        ((owners world codec).erase candidate ++ taken))
      (was : active (world.component c).currentState = false)

variable {codec : HwCodec}

theorem Owned.not_listed (owned : Owned world) (kind : (world.component c).codecType = some codec)
    (was : active (world.component c).currentState = false) : (owners world codec).count c = 0 := by
  rw [owned.counted c codec kind, was]
  rfl

theorem Owned.listed_once (owned : Owned world) (kind : (world.component c).codecType = some codec)
    (was : active (world.component c).currentState = true) : (owners world codec).count c = 1 := by
  rw [owned.counted c codec kind, was]
  rfl

theorem owned_of_list (owned : Owned world) (framed : Framed world world' c)
    (kind : (world.component c).codecType = some codec) {list : List C}
    (lists : owners world' = update (owners world) codec list)
    (members : ∀ other ∈ list, other = c ∨ other ∈ owners world codec)
    (others : ∀ other, other ≠ c → list.count other = (owners world codec).count other)
    (self : list.count c = if active (world'.component c).currentState then 1 else 0) :
    Owned world' := by
  constructor
  · intro codec' other member
    rw [framed.codecType]
    rw [lists] at member
    by_cases same : codec' = codec
    · subst same
      rw [update_self] at member
      rcases members other member with rfl | old
      · exact kind
      · exact owned.kinds codec' other old
    · rw [update_of_ne same] at member
      exact owned.kinds codec' other member
  · intro other codec' kind'
    rw [framed.codecType] at kind'
    rw [lists]
    by_cases here : other = c
    · subst here
      rw [kind, Option.some_inj] at kind'
      subst kind'
      rw [update_self, self]
    · rw [framed.others other here]
      by_cases same : codec' = codec
      · subst same
        rw [update_self, others other here]
        exact owned.counted other codec' kind'
      · rw [update_of_ne same]
        exact owned.counted other codec' kind'

theorem Good.owned (owned : Owned world) (framed : Framed world world' c)
    (good : Good world world' c) : Owned world' := by
  cases good with
  | same lists state =>
    constructor
    · intro codec other member
      rw [framed.codecType]
      rw [lists] at member
      exact owned.kinds codec other member
    · intro other codec kind
      rw [framed.codecType] at kind
      rw [lists, owned.counted other codec kind]
      by_cases self : other = c
      · subst self
        rcases state with none | state
        · rw [none] at kind
          cases kind
        · rw [state]
      · rw [framed.others other self]
  | taken codec kind lists was becomes =>
    refine owned_of_list owned framed kind lists ?_ ?_ ?_
    · intro other member
      rcases mem_append.mp member with old | new
      · exact Or.inr old
      · exact Or.inl (mem_singleton.mp new)
    · intro other different
      rw [count_append, count_singleton, beq_false_of_ne (Ne.symm different)]
      rfl
    · rw [count_append, owned.not_listed kind was, count_singleton_self, becomes]
      rfl
  | given codec kind lists was becomes =>
    refine owned_of_list owned framed kind lists ?_ ?_ ?_
    · intro other member
      exact Or.inr (mem_of_mem_erase member)
    · intro other different
      exact count_erase_of_ne different
    · rw [count_erase_self, owned.listed_once kind was, becomes]
      rfl

theorem Bad.not_matches (owned : Owned world) (framed : Framed world world' c)
    (bad : Bad world world' c) : ¬ OwnershipMatches world' := by
  intro counted
  cases bad with
  | unlisted codec kind lists was becomes =>
    have count := counted c codec (framed.codec.trans kind)
    rw [lists, becomes, owned.not_listed kind was] at count
    cases count
  | kept codec kind lists was becomes =>
    have count := counted c codec (framed.codec.trans kind)
    rw [lists, becomes, update_self, count_append, owned.not_listed kind was,
      count_singleton_self] at count
    cases count
  | dropped codec kind lists was becomes =>
    have count := counted c codec (framed.codec.trans kind)
    rw [lists, becomes, update_self, count_erase_self, owned.listed_once kind was] at count
    cases count
  | preempted codec kind candidate member taken self lists was =>
    have other : candidate ≠ c := by
      rintro rfl
      exact absurd member (count_eq_zero.mp (owned.not_listed kind was))
    have kindOther := owned.kinds codec candidate member
    have activeOther : active (world.component candidate).currentState = true := by
      by_contra idle
      have none := owned.not_listed kindOther (Bool.eq_false_iff.mpr idle)
      exact absurd member (count_eq_zero.mp none)
    have count := counted candidate codec (by rw [framed.others candidate other]; exact kindOther)
    have absent : taken.count candidate = 0 := count_eq_zero.mpr fun inside =>
      other (mem_singleton.mp (self inside))
    rw [lists, update_self, framed.others candidate other, activeOther,
      count_append, count_erase_self, absent,
      owned.listed_once kindOther activeOther] at count
    cases count

end

/-- The commands that leave a list and a state that do not match: Idle is reached from
    WaitForResources; another component loses its place; a component gets a place and does not
    reach Idle; or it gives its place up and does not leave Idle. -/
def Breaks (world : World C) (command : Command C) : Prop :=
  ∃ codec, (world.component command.component).codecType = some codec ∧
    match (world.component command.component).currentState, command.destState with
    | .waitForResources, some .idle => True
    | .loaded, some .idle =>
      (preempted world.lists codec command.results.groupPriority
        (fun c => (world.component c).currentState) command.results.outside).isSome ∨
      (available world.lists codec command.results.outside = true ∧ starts command.results = false)
    | .idle, some .loaded => freeTunnelBuffers command.results ≠ .errorNone
    | _, _ => False

section

variable {world : World C} {c : C} {destState : Option OmxState} {r : Results} {state : OmxState}

theorem active_nextState (free : ¬ (state = .loaded ∧ destState = some .idle))
    (waits : ¬ (state = .waitForResources ∧ destState = some .idle))
    (keeps : releases state destState = false) :
    active (nextState state destState r) = active state := by
  cases destState with
  | none => cases state <;> rfl
  | some dest => cases dest <;> cases state <;> simp_all [nextState, active, releases]

def Classified (world : World C) (command : Command C) : Prop :=
  (Good world (perform world command) command.component ∧ ¬ Breaks world command) ∨
    (Bad world (perform world command) command.component ∧ Breaks world command)

theorem classified_refused (refused : destState = some (world.component c).currentState ∨
    (world.component c).currentState = .invalid) : Classified world ⟨c, destState, r⟩ := by
  refine Or.inl ⟨?_, ?_⟩
  · rw [perform, stateSet_refused refused]
    exact .same rfl (Or.inr rfl)
  · rintro ⟨codec, _, wrong⟩
    split at wrong <;> simp_all

omit [DecidableEq C] in
theorem no_codec_fits {command : Command C}
    (none : (world.component command.component).codecType = none) : ¬ Breaks world command := by
  rintro ⟨codec, kind, _⟩
  rw [none] at kind
  cases kind

omit [DecidableEq C] in
theorem switched_owners {world' : World C} {runtime : Runtime}
    (switched : Switched world world' c state runtime) : owners world' = owners world := by
  funext codec
  exact congrArg (fun lists => names (lists codec)) switched.owners

section
variable (loaded : (world.component c).currentState = .loaded)
include loaded

theorem acquire_owners :
    owners (perform world ⟨c, some .idle, r⟩) =
      (getResource world.lists (world.component c).codecType ⟨c, r.groupPriority⟩
        (fun c => (world.component c).currentState) r.outside).2.owners := by
  rw [perform, stateSet_acquire loaded rfl]
  split_ifs
  · rfl
  · exact switched_owners (switchState_switched _ c (some .idle) r)

theorem acquire_state :
    ((perform world ⟨c, some .idle, r⟩).component c).currentState =
      if (getResource world.lists (world.component c).codecType ⟨c, r.groupPriority⟩
        (fun c => (world.component c).currentState) r.outside).1 = .errorNone ∧ starts r = true
      then .idle else .loaded := by
  rw [perform, stateSet_acquire loaded rfl]
  by_cases got : (getResource world.lists (world.component c).codecType ⟨c, r.groupPriority⟩
      (fun c => (world.component c).currentState) r.outside).1 = .errorNone
  · rw [if_neg (not_not.mpr got), (switchState_switched _ c (some .idle) r).state]
    simp [got, loaded, nextState]
  · rw [if_pos got, if_neg fun both => got both.1]
    exact loaded

theorem classified_acquire : Classified world ⟨c, some .idle, r⟩ := by
  have was : active (world.component c).currentState = false := by rw [loaded]; rfl
  have lists := acquire_owners (r := r) loaded
  cases kind : (world.component c).codecType with
  | none =>
    rw [kind] at lists
    exact Or.inl ⟨.same lists (Or.inl kind), no_codec_fits kind⟩
  | some codec =>
    rw [kind] at lists
    cases removed : preempted world.lists codec r.groupPriority
        (fun c => (world.component c).currentState) r.outside with
    | some candidate =>
      obtain ⟨member, after⟩ := getResource_preempted ⟨c, r.groupPriority⟩ removed
      rw [after, setComponents_owners] at lists
      refine Or.inr ⟨.preempted codec kind candidate.component (mem_map_of_mem member)
        (names (if r.outside.malloc then [⟨c, r.groupPriority⟩] else [])) ?_ ?_ was, ?_⟩
      · cases r.outside.malloc
        · exact nil_subset _
        · exact fun _ member => member
      · rw [lists, names_append, names_remove]
        rfl
      · refine ⟨codec, kind, ?_⟩
        rw [loaded]
        exact Or.inl (by rw [removed]; rfl)
    | none =>
      have got := getResource_kept ⟨c, r.groupPriority⟩ removed
      have state := acquire_state (r := r) loaded
      rw [kind, got] at state
      rw [got] at lists
      cases room : available world.lists codec r.outside with
      | false =>
        rw [room] at lists state
        refine Or.inl ⟨.same lists (Or.inr ?_), ?_⟩
        · rw [state, loaded]
          simp
        · rintro ⟨codec', kind', wrong⟩
          rw [kind, Option.some_inj] at kind'
          subst kind'
          simp [loaded, removed, room] at wrong
      | true =>
        rw [room] at lists state
        replace lists := lists.trans (setComponents_owners _ _ _)
        rw [names_append] at lists
        cases ok : starts r with
        | true =>
          refine Or.inl ⟨.taken codec kind lists was ?_, ?_⟩
          · rw [state]
            simp [ok, active]
          · rintro ⟨codec', kind', wrong⟩
            rw [kind, Option.some_inj] at kind'
            subst kind'
            simp [loaded, removed, ok] at wrong
        | false =>
          refine Or.inr ⟨.kept codec kind lists was ?_, codec, kind, ?_⟩
          · rw [state]
            simp [ok, active]
          · simp [loaded, room, ok]

end

theorem classified_release (gives : releases (world.component c).currentState destState = true) :
    Classified world ⟨c, destState, r⟩ := by
  have was : active (world.component c).currentState = true := by
    rcases releases_iff.mp gives with ⟨state, _⟩ | ⟨state | state | state, _⟩ <;> rw [state] <;> rfl
  have switched := switchState_switched { world with
    lists := (releaseResource world.lists (world.component c).codecType c r.outside).2 }
    c destState r
  rw [← stateSet_release gives] at switched
  have lists := switched_owners switched
  have becomes := congrArg active switched.state
  cases kind : (world.component c).codecType with
  | none =>
    rw [kind] at lists
    exact Or.inl ⟨.same lists (Or.inl kind), no_codec_fits kind⟩
  | some codec =>
    rw [kind] at lists
    replace lists := lists.trans (releaseResource_owners world.lists codec c r.outside)
    rcases releases_iff.mp gives with ⟨idle, rfl⟩ | ⟨_, rfl⟩
    · by_cases freed : freeTunnelBuffers r = .errorNone
      · refine Or.inl ⟨.given codec kind lists was ?_, ?_⟩
        · refine becomes.trans ?_
          simp [idle, nextState, freed, active]
        · rintro ⟨_, _, wrong⟩
          simp [idle, freed] at wrong
      · refine Or.inr ⟨.dropped codec kind lists was ?_, codec, kind, ?_⟩
        · refine becomes.trans ?_
          simp [idle, nextState, freed, active]
        · simpa [idle] using freed
    · refine Or.inl ⟨.given codec kind lists was becomes, ?_⟩
      rintro ⟨_, _, wrong⟩
      simp at wrong

theorem classified_plain (other : destState ≠ some (world.component c).currentState)
    (valid : (world.component c).currentState ≠ .invalid)
    (free : ¬ ((world.component c).currentState = .loaded ∧ destState = some .idle))
    (keeps : releases (world.component c).currentState destState = false) :
    Classified world ⟨c, destState, r⟩ := by
  have switched := switchState_switched world c destState r
  rw [← stateSet_plain other valid free keeps] at switched
  have lists := switched_owners switched
  by_cases waits : (world.component c).currentState = .waitForResources ∧ destState = some .idle
  · obtain ⟨waiting, rfl⟩ := waits
    cases kind : (world.component c).codecType with
    | none => exact Or.inl ⟨.same lists (Or.inl kind), no_codec_fits kind⟩
    | some codec =>
      refine Or.inr ⟨.unlisted codec kind lists (by rw [waiting]; rfl) ?_, codec, kind, ?_⟩
      · refine (congrArg active switched.state).trans ?_
        rw [waiting]
        rfl
      · dsimp only
        rw [waiting]
        trivial
  · refine Or.inl ⟨.same lists (Or.inr ?_), ?_⟩
    · exact (congrArg active switched.state).trans (active_nextState free waits keeps)
    · rintro ⟨_, -, wrong⟩
      dsimp only at wrong
      split at wrong
      case h_1 waiting => exact waits ⟨waiting, rfl⟩
      case h_2 loaded => exact free ⟨loaded, rfl⟩
      case h_3 idle => rw [idle] at keeps; cases keeps
      case h_4 => exact wrong

theorem command_classified (world : World C) (command : Command C) :
    Classified world command := by
  obtain ⟨c, destState, r⟩ := command
  by_cases refused : destState = some (world.component c).currentState ∨
      (world.component c).currentState = .invalid
  · exact classified_refused refused
  rw [not_or] at refused
  by_cases acquires : (world.component c).currentState = .loaded ∧ destState = some .idle
  · obtain ⟨loaded, rfl⟩ := acquires
    exact classified_acquire loaded
  cases gives : releases (world.component c).currentState destState with
  | true => exact classified_release gives
  | false => exact classified_plain refused.1 refused.2 acquires gives

end

/-- In every run from loaded components and empty lists, list and states match in every state
    if and only if no command is one of those that break the match. -/
theorem ownership_matches_iff (codecType : C → Option HwCodec) (commands : List (Command C)) :
    Visits perform OwnershipMatches (initialWorld codecType) commands ↔
      Meets perform (fun world command => ¬ Breaks world command) (initialWorld codecType)
        commands := by
  have start : Owned (initialWorld codecType) := by
    constructor
    · intro codec c member
      cases member
    · intro c codec _
      rfl
  refine visits_iff_meets (fun _ owned => owned.counted) ?_ ?_ commands _ start
  · intro world command owned keeps
    rcases command_classified world command with ⟨good, _⟩ | ⟨_, breaks⟩
    · exact good.owned owned (command_framed world command)
    · exact absurd breaks keeps
  · intro world command owned breaks
    rcases command_classified world command with ⟨_, keeps⟩ | ⟨bad, _⟩
    · exact absurd keeps breaks
    · exact bad.not_matches owned (command_framed world command)

/-- The hardware fails to initialise, behind the acquisition: the component stays in Loaded and
    keeps its place in the list. -/
theorem failed_start_keeps_place :
    ¬ Visits perform OwnershipMatches (initialWorld fun _ : Unit => some .videoDec)
      [⟨(), some .idle, { allWell with mfcComponentInit := .insufficientResources }⟩] := by
  intro visits
  have listed := visits.2 () .videoDec rfl
  revert listed
  decide

end ResourceOwnership
