import SamsungHardware.RilDaemon.EventLists

/- What each step of the loop thread and each call does to the lists and the table. -/
namespace EventSteps
open RingLists EventLoop EventLists List Function

variable {count : Nat} {s : Loop count} {timerNodes pendingNodes : List (Node count)}

section

variable {phase : Phase count} {rfds : Int → Bool} {n : Int} {ev : Node count}
  (kept : Kept s timerNodes pendingNodes)
include kept

theorem phase_kept (follows : Follows pendingNodes phase)
    (later : fires phase = false → fires s.phase = false) :
    Kept { s with phase := phase } timerNodes pendingNodes :=
  ⟨kept.lists, kept.table, follows, fun gathers => kept.fresh (later gathers)⟩

theorem select_kept (here : s.phase = .waiting) (rfds : Int → Bool) (n : Int) :
    Kept { s with phase := .selected rfds n } timerNodes pendingNodes :=
  phase_kept kept (by simpa [here, Follows] using kept.follows) (by simp [here, fires])

theorem processTimeouts_kept (here : s.phase = .selected rfds n) (now : Timeval) :
    ∃ s', loopStep s (.processTimeouts now) = some s' ∧
      Kept s' (timerNodes.dropWhile (due s now))
        (pendingNodes ++ timerNodes.takeWhile (due s now)) ∧
      s'.phase = .expired rfds n ∧ s'.watchTable = s.watchTable := by
  obtain ⟨next, prev, runs, lists⟩ :=
    processTimeouts_spec (s := { s with phase := .expired rfds n }) now kept.lists
  refine ⟨{ s with phase := .expired rfds n, next := next, prev := prev }, ?_,
    ⟨lists, ?_, trivial, ?_⟩, rfl, rfl⟩
  · rw [loopStep, here]
    exact runs
  · intro i ev entry
    obtain ⟨inside, indexed, events, out⟩ := kept.table i ev entry
    exact ⟨inside, indexed, events, fun member => out ((dropWhile_sublist _).mem member)⟩
  · intro _ i ev entry member
    rcases mem_append.mp member with old | late
    · exact kept.fresh (by rw [here]; rfl) i ev entry old
    · exact (kept.table i ev entry).2.2.2 ((takeWhile_sublist _).mem late)

omit kept in
theorem slots_nodup : slots.Nodup := by decide

theorem processReadReadies_kept (here : s.phase = .expired rfds n) :
    ∃ more s', loopStep s .processReadReadies = some s' ∧ Kept s' timerNodes (pendingNodes ++ more) ∧
      s'.phase = .gathered ∧ (∀ i ev, s'.watchTable i = some ev → s.watchTable i = some ev) ∧
      ∀ ev ∈ more, ∃ i, s.watchTable i = some ev := by
  have fresh : ∀ i ∈ slots, ∀ ev, s.watchTable i = some ev → ev ∉ pendingNodes :=
    fun i _ => kept.fresh (by rw [here]; rfl) i
  obtain ⟨more, s', runs, lists, table, phase, fewer, from_table⟩ :=
    readReadies_spec rfds n { s with phase := .gathered } pendingNodes slots_nodup kept.lists
      kept.table fresh
  refine ⟨more, s', ?_, ⟨lists, table, ?_, ?_⟩, phase, fewer, from_table⟩
  · rw [loopStep, here]
    exact runs
  · rw [phase]
    trivial
  · rw [phase]
    intro out
    cases out

theorem firePending_kept (here : s.phase = .gathered) :
    loopStep s .firePending = some { s with phase := .firing (firstPending pendingNodes) } ∧
      Kept { s with phase := .firing (firstPending pendingNodes) } timerNodes pendingNodes := by
  have whole : Ring s.next s.prev .pendingList ([] ++ pendingNodes) := kept.lists.other
  have first := whole.after
  rw [getLastD_nil] at first
  refine ⟨?_, kept.lists, kept.table, rfl, fun out => by cases out⟩
  rw [loopStep, here]
  rw [first]
  rfl

omit kept in
theorem take_last_kept (kept : Kept s timerNodes []) (here : s.phase = .firing ev) :
    loopStep s .take = some { s with phase := .waiting } ∧
      Kept { s with phase := .waiting } timerNodes [] := by
  have last : ev = .pendingList := by
    have follows := kept.follows
    rw [here] at follows
    exact follows
  refine ⟨?_, kept.lists, kept.table, rfl, ?_⟩
  · rw [loopStep, here]
    exact if_pos last
  · intro _ i ev _ none
    cases none

omit kept in
theorem take_kept {first : Node count} (kept : Kept s timerNodes (first :: pendingNodes))
    (here : s.phase = .firing ev) :
    ∃ s', loopStep s .take = some s' ∧ Kept s' timerNodes pendingNodes ∧
      s'.phase = .taken first (firstPending pendingNodes) ∧ s'.watchTable = s.watchTable := by
  have at_first : ev = first := by
    have follows := kept.follows
    rw [here] at follows
    exact follows
  subst at_first
  have other : ev ≠ .pendingList := by
    rintro rfl
    exact (nodup_cons.mp kept.lists.other.nodup).1 mem_cons_self
  have whole : TwoRings s.next s.prev .pendingList ([] ++ ev :: pendingNodes) .timerList timerNodes :=
    kept.lists.symm
  have after : s.next ev = some (firstPending pendingNodes) := whole.ring.remove.1
  have rings : TwoRings { s with phase := .taken ev (firstPending pendingNodes) }.next
    { s with phase := .taken ev (firstPending pendingNodes) }.prev .pendingList
    ([] ++ ev :: pendingNodes) .timerList timerNodes := whole
  obtain ⟨next, prev, removed, shorter⟩ := removeFromList_rings rings
  refine ⟨{ s with phase := .taken ev (firstPending pendingNodes), next := next, prev := prev }, ?_,
    ⟨shorter.symm, kept.table, rfl, fun out => by cases out⟩, rfl, rfl⟩
  rw [loopStep, here]
  dsimp only
  rw [if_neg other, after]
  exact removed

theorem start_kept {ev next : Node count} (here : s.phase = .taken ev next) :
    loopStep s .start = some { s with phase := .running next } ∧
      Kept { s with phase := .running next } timerNodes pendingNodes :=
  ⟨by rw [loopStep, here], phase_kept kept (by simpa [here, Follows] using kept.follows) nofun⟩

theorem finish_kept {next : Node count} (here : s.phase = .running next) :
    loopStep s .finish = some { s with phase := .firing next } ∧
      Kept { s with phase := .firing next } timerNodes pendingNodes :=
  ⟨by rw [loopStep, here], phase_kept kept (by simpa [here, Follows] using kept.follows) nofun⟩

omit kept in
def Moves (s : Loop count) (timerNodes pendingNodes : List (Node count)) (s' : Loop count) : Prop :=
  ∃ timerNodes' pendingNodes', Kept s' timerNodes' pendingNodes' ∧
    (∀ ev, Attached s' timerNodes' pendingNodes' ev → Attached s timerNodes pendingNodes ev) ∧
    (returned s'.phase = false → returned s.phase = false)

theorem moves_same : Moves s timerNodes pendingNodes s :=
  ⟨timerNodes, pendingNodes, kept, fun _ attached => attached, fun out => out⟩

omit kept in
theorem moves_phase (living : returned s.phase = false) (free : takes phase = none)
    (kept : Kept { s with phase := phase } timerNodes pendingNodes) :
    Moves s timerNodes pendingNodes { s with phase := phase } := by
  refine ⟨timerNodes, pendingNodes, kept, ?_, fun _ => living⟩
  intro ev attached
  rcases attached with timer | pended | taken | ⟨i, entry⟩
  · exact attached_timer timer
  · exact attached_pending pended
  · exact absurd (free.symm.trans taken) (Option.some_ne_none ev).symm
  · exact attached_entry entry

theorem select_moves (here : s.phase = .waiting) (rfds : Int → Bool) (n : Int) (interrupted : Bool) :
    ∃ s', loopStep s (.select rfds n interrupted) = some s' ∧ Moves s timerNodes pendingNodes s' := by
  have living : returned s.phase = false := by rw [here]; rfl
  rw [loopStep, here]
  split_ifs
  · exact ⟨s, rfl, moves_same kept⟩
  · exact ⟨_, rfl, moves_phase living rfl
      (phase_kept kept (by simpa [here, Follows] using kept.follows) (by simp [here, fires]))⟩
  · exact ⟨_, rfl, moves_phase living rfl (select_kept kept here rfds n)⟩

theorem processTimeouts_moves (here : s.phase = .selected rfds n) (now : Timeval) :
    ∃ s', loopStep s (.processTimeouts now) = some s' ∧ Moves s timerNodes pendingNodes s' := by
  obtain ⟨s', runs, kept', phase, table⟩ := processTimeouts_kept kept here now
  refine ⟨s', runs, _, _, kept', ?_, fun _ => by rw [here]; rfl⟩
  intro ev attached
  rcases attached with timer | pended | taken | ⟨i, entry⟩
  · exact attached_timer ((dropWhile_sublist _).mem timer)
  · rcases mem_append.mp pended with old | late
    · exact attached_pending old
    · exact attached_timer ((takeWhile_sublist _).mem late)
  · rw [phase] at taken
    cases taken
  · rw [table] at entry
    exact attached_entry entry

theorem processReadReadies_moves (here : s.phase = .expired rfds n) :
    ∃ s', loopStep s .processReadReadies = some s' ∧ Moves s timerNodes pendingNodes s' := by
  obtain ⟨more, s', runs, kept', phase, fewer, from_table⟩ := processReadReadies_kept kept here
  refine ⟨s', runs, timerNodes, pendingNodes ++ more, kept', ?_, fun _ => by rw [here]; rfl⟩
  intro ev attached
  rcases attached with timer | pended | taken | ⟨i, entry⟩
  · exact attached_timer timer
  · rcases mem_append.mp pended with old | ready
    · exact attached_pending old
    · obtain ⟨i, entry⟩ := from_table ev ready
      exact attached_entry entry
  · rw [phase] at taken
    cases taken
  · exact attached_entry (fewer i ev entry)

theorem take_moves (here : s.phase = .firing ev) :
    ∃ s', loopStep s .take = some s' ∧ Moves s timerNodes pendingNodes s' := by
  cases pendingNodes with
  | nil =>
    obtain ⟨runs, kept'⟩ := take_last_kept kept here
    exact ⟨_, runs, moves_phase (by rw [here]; rfl) rfl kept'⟩
  | cons first rest =>
    obtain ⟨s', runs, kept', phase, table⟩ := take_kept kept here
    refine ⟨s', runs, timerNodes, rest, kept', ?_, fun _ => by rw [here]; rfl⟩
    intro ev attached
    rcases attached with timer | pended | taken | ⟨i, entry⟩
    · exact attached_timer timer
    · exact attached_pending (mem_cons_of_mem _ pended)
    · rw [phase] at taken
      cases taken
      exact attached_pending mem_cons_self
    · rw [table] at entry
      exact attached_entry entry

theorem round_moves (taken : Round) :
    ∃ s', loopStep s taken = some s' ∧ Moves s timerNodes pendingNodes s' := by
  -- a step that is not due in this phase changes nothing
  have still : loopStep s taken = some s →
      ∃ s', loopStep s taken = some s' ∧ Moves s timerNodes pendingNodes s' :=
    fun same => ⟨s, same, moves_same kept⟩
  cases taken with
  | select rfds n interrupted =>
    cases here : s.phase with
    | waiting => exact select_moves kept here rfds n interrupted
    | _ =>
      apply still
      rw [loopStep, here]
  | processTimeouts now =>
    cases here : s.phase with
    | selected rfds n => exact processTimeouts_moves kept here now
    | _ =>
      apply still
      rw [loopStep, here]
  | processReadReadies =>
    cases here : s.phase with
    | expired rfds n => exact processReadReadies_moves kept here
    | _ =>
      apply still
      rw [loopStep, here]
  | firePending =>
    cases here : s.phase with
    | gathered =>
      obtain ⟨runs, kept'⟩ := firePending_kept kept here
      exact ⟨_, runs, moves_phase (by rw [here]; rfl) rfl kept'⟩
    | _ =>
      apply still
      rw [loopStep, here]
  | take =>
    cases here : s.phase with
    | firing ev => exact take_moves kept here
    | _ =>
      apply still
      rw [loopStep, here]
  | start =>
    cases here : s.phase with
    | taken ev next =>
      obtain ⟨runs, kept'⟩ := start_kept kept here
      exact ⟨_, runs, moves_phase (by rw [here]; rfl) rfl kept'⟩
    | _ =>
      apply still
      rw [loopStep, here]
  | finish =>
    cases here : s.phase with
    | running next =>
      obtain ⟨runs, kept'⟩ := finish_kept kept here
      exact ⟨_, runs, moves_phase (by rw [here]; rfl) rfl kept'⟩
    | _ =>
      apply still
      rw [loopStep, here]

end

variable {ev : Fin count}

theorem tableKept_congr {s' : Loop count} (table : TableKept s timerNodes)
    (out : ¬ InTable s (.event ev)) (same : s'.watchTable = s.watchTable)
    (fields : ∀ other, other ≠ .event ev → s'.index other = s.index other) :
    TableKept s' timerNodes := by
  intro i other entry
  rw [same] at entry
  obtain ⟨inside, indexed, events, free⟩ := table i other entry
  have apart : other ≠ .event ev := by
    rintro rfl
    exact out ⟨i, inside, entry⟩
  exact ⟨inside, (fields other apart).trans indexed, events, free⟩

variable (kept : Kept s timerNodes pendingNodes)
include kept

theorem rilEventSet_kept (fd : Int) (persist : Bool) (out : ¬ InTable s (.event ev))
    (no_timer : .event ev ∉ timerNodes) (idle : .event ev ∉ pendingNodes) :
    Kept (rilEventSet s (.event ev) fd persist) timerNodes pendingNodes := by
  refine ⟨?_, tableKept_congr kept.table out rfl ?_, kept.follows, kept.fresh⟩
  · exact kept.lists.update (by simpa using no_timer) (by simpa using idle) _ _
  · intro other apart
    exact update_of_ne apart _ _

theorem rilEventDel_kept (ev : Fin count) :
    Kept (rilEventDel s (.event ev)) timerNodes pendingNodes ∧
      (rilEventDel s (.event ev)).phase = s.phase ∧
      ∀ i other, (rilEventDel s (.event ev)).watchTable i = some other →
        s.watchTable i = some other := by
  have table : TableKept (rilEventDel s (.event ev)) timerNodes := rilEventDel_table kept.table
  unfold rilEventDel at table ⊢
  split_ifs at table ⊢
  · exact ⟨kept, rfl, fun _ _ entry => entry⟩
  · refine ⟨⟨?_, table, ?_, ?_⟩, by simp, fun i other entry => (removeWatch_entry entry).2⟩
    · simpa using kept.lists
    · simpa using kept.follows
    · intro out i other entry
      exact kept.fresh (by simpa using out) i other (removeWatch_entry entry).2

omit kept in
theorem rilEventAdd_entry {i j : Int} {other : Node count} (free : freeSlot s = some i)
    (entry : (rilEventAdd s (.event ev)).watchTable j = some other) :
    (j = i ∧ other = .event ev) ∨ s.watchTable j = some other := by
  rw [rilEventAdd, free] at entry
  dsimp only at entry
  by_cases same : j = i
  · rw [same, update_self] at entry
    cases entry
    exact Or.inl ⟨same, rfl⟩
  · rw [update_of_ne same] at entry
    exact Or.inr entry

theorem rilEventAdd_kept {i : Int} (free : freeSlot s = some i) (out : ¬ InTable s (.event ev))
    (no_timer : .event ev ∉ timerNodes) (idle : fires s.phase = false → .event ev ∉ pendingNodes) :
    Kept (rilEventAdd s (.event ev)) timerNodes pendingNodes := by
  have entries : ∀ j other, (rilEventAdd s (.event ev)).watchTable j = some other →
      (j = i ∧ other = .event ev) ∨ s.watchTable j = some other :=
    fun _ _ => rilEventAdd_entry free
  have phase : (rilEventAdd s (.event ev)).phase = s.phase := by rw [rilEventAdd, free]
  have index : (rilEventAdd s (.event ev)).index = update s.index (.event ev) i := by
    rw [rilEventAdd, free]
  refine ⟨?_, ?_, ?_, ?_⟩
  · rw [rilEventAdd, free]
    exact kept.lists
  · intro j other entry
    rcases entries j other entry with ⟨rfl, rfl⟩ | old
    · refine ⟨mem_of_find?_eq_some free, ?_, ⟨ev, rfl⟩, no_timer⟩
      rw [index, update_self]
    · obtain ⟨inside, indexed, events, unscheduled⟩ := kept.table j other old
      have apart : other ≠ .event ev := by
        rintro rfl
        exact out ⟨j, inside, old⟩
      refine ⟨inside, ?_, events, unscheduled⟩
      rw [index, update_of_ne apart]
      exact indexed
  · rw [phase]
    exact kept.follows
  · rw [phase]
    intro gathers j other entry
    rcases entries j other entry with ⟨_, rfl⟩ | old
    · exact idle gathers
    · exact kept.fresh gathers j other old

theorem rilTimerAdd_kept (now tv : Timeval) (out : ¬ InTable s (.event ev))
    (no_timer : .event ev ∉ timerNodes) (idle : .event ev ∉ pendingNodes) :
    ∃ s' timerNodes', rilTimerAdd s (.event ev) now (some tv) = some s' ∧
      Kept s' timerNodes' pendingNodes ∧ s'.phase = s.phase ∧ s'.watchTable = s.watchTable ∧
      ∀ other ∈ timerNodes', other = .event ev ∨ other ∈ timerNodes := by
  obtain ⟨next, prev, runs, longer⟩ := rilTimerAdd_spec now tv kept.lists no_timer idle
  refine ⟨_, _, runs, ⟨longer, ?_, kept.follows, kept.fresh⟩, rfl, rfl,
    fun other => mem_insertTimer.mp⟩
  intro i other entry
  obtain ⟨inside, indexed, events, free⟩ := kept.table i other entry
  refine ⟨inside, indexed, events, fun member => ?_⟩
  rcases mem_insertTimer.mp member with rfl | old
  · exact out ⟨i, inside, entry⟩
  · exact free old

end EventSteps
