import SamsungHardware.Library.StepRuns
import SamsungHardware.RilDaemon.EventSteps

/- Which events the loop can still start. An event is attached while it is in the watch table, in one
   of the two lists or taken out of the pending list and not yet started; a call of `ril_event_del`
   takes it out of the watch table only. -/
namespace DeletedEvents
open StepRuns EventLoop EventLists EventSteps Function

variable {count : Nat}

structure Watched (count : Nat) where
  loop : Loop count
  deleted : Node count → Bool

/-- A call that finds the table full, or comes without a time, adds nothing. -/
def marked (w : Watched count) : Call count → Node count → Bool
  | .rilEventSet .. => w.deleted
  | .rilEventAdd ev =>
    if (freeSlot w.loop).isSome then update w.deleted (.event ev) false else w.deleted
  | .rilTimerAdd ev _ tv =>
    if tv.isSome then update w.deleted (.event ev) false else w.deleted
  | .rilEventDel ev => update w.deleted (.event ev) true

/-- A call of any thread or callback, or a step of the loop thread. -/
inductive Event (count : Nat) where
  | call (call : Call count)
  | round (round : Round)

/-- There is no state behind a step that reads through a null pointer. -/
def advance : Option (Watched count) → Event count → Option (Watched count)
  | none, _ => none
  | some w, .call made => (call w.loop made).map fun loop => ⟨loop, marked w made⟩
  | some w, .round taken => (loopStep w.loop taken).map fun loop => ⟨loop, w.deleted⟩

def Watched.start (count : Nat) : Option (Watched count) := some ⟨.start count, fun _ => false⟩

/-- A callback that is started belongs to an event that was not deleted. -/
def Lawful : Option (Watched count) → Event count → Prop
  | none, _ => False
  | some w, .round .start => ∀ ev, takes w.loop.phase = some ev → w.deleted ev = false
  | some _, _ => True

/-- Whatever the loop thread does from here on, it starts no deleted event. -/
def Quiet (w : Option (Watched count)) : Prop :=
  ∀ rounds : List Round, Meets advance Lawful w (rounds.map .round)

/-- An event is added only when it is in no place where the call would link it twice. -/
def Proper (s : Loop count) : Call count → Prop
  | .rilEventSet ev _ _ => ¬ InTable s (.event ev) ∧ .event ev ∉ timers s ∧ .event ev ∉ pending s
  | .rilEventAdd ev => ¬ InTable s (.event ev) ∧ .event ev ∉ timers s ∧
    (fires s.phase = false → .event ev ∉ pending s)
  | .rilTimerAdd ev _ tv => tv.isSome = true →
    ¬ InTable s (.event ev) ∧ .event ev ∉ timers s ∧ .event ev ∉ pending s
  | .rilEventDel _ => True

/-- An event is deleted only while the watch table is the one place it can be in, or when the loop has
    returned. -/
def Clean (s : Loop count) : Call count → Prop
  | .rilEventDel ev => returned s.phase = true ∨
    (.event ev ∉ timers s ∧ .event ev ∉ pending s ∧ takes s.phase ≠ some (.event ev))
  | _ => True

/-- A condition on the calls, in the states where nothing has crashed. -/
def OnCalls (Ok : Loop count → Call count → Prop) : Option (Watched count) → Event count → Prop
  | some w, .call made => Ok w.loop made
  | _, _ => True

variable {timerNodes pendingNodes : List (Node count)}

section

variable {w : Watched count}

def Silent (w : Watched count) (timerNodes pendingNodes : List (Node count)) : Prop :=
  returned w.loop.phase = false → ∀ ev, w.deleted ev = true →
    ¬ Attached w.loop timerNodes pendingNodes ev

def Inv : Option (Watched count) → Prop
  | none => False
  | some w => ∃ timerNodes pendingNodes, Kept w.loop timerNodes pendingNodes ∧
    Silent w timerNodes pendingNodes

theorem round_inv (inv : Inv (some w)) (taken : Round) : Inv (advance (some w) (.round taken)) := by
  obtain ⟨timerNodes, pendingNodes, kept, silent⟩ := inv
  obtain ⟨s', runs, timerNodes', pendingNodes', kept', attached, living⟩ := round_moves kept taken
  rw [advance, runs]
  refine ⟨timerNodes', pendingNodes', kept', ?_⟩
  intro still ev deleted here
  exact silent (living still) ev deleted (attached ev here)

theorem inv_lawful (inv : Inv (some w)) (taken : Round) : Lawful (some w) (.round taken) := by
  obtain ⟨timerNodes, pendingNodes, _, silent⟩ := inv
  cases taken with
  | start =>
    intro ev takes_ev
    rw [Bool.eq_false_iff]
    intro deleted
    have living : returned w.loop.phase = false := by
      cases here : w.loop.phase with
      | ended =>
        rw [here] at takes_ev
        cases takes_ev
      | _ => rfl
    exact silent living ev deleted (attached_taken takes_ev)
  | _ => trivial

theorem inv_quiet : ∀ w : Option (Watched count), Inv w → Quiet w := by
  intro w inv rounds
  induction rounds generalizing w with
  | nil => trivial
  | cons taken rest ih =>
    cases w with
    | none => exact inv.elim
    | some w => exact ⟨inv_lawful inv taken, ih _ (round_inv inv taken)⟩

theorem silent_added {s' : Loop count} {timerNodes' pendingNodes' : List (Node count)} {ev : Node count}
    (silent : Silent w timerNodes pendingNodes) (phase : s'.phase = w.loop.phase)
    (attached : ∀ other, Attached s' timerNodes' pendingNodes' other →
      other = ev ∨ Attached w.loop timerNodes pendingNodes other) :
    Silent ⟨s', update w.deleted ev false⟩ timerNodes' pendingNodes' := by
  intro living other deleted here
  dsimp only at living deleted
  have apart : other ≠ ev := by
    rintro rfl
    rw [update_self] at deleted
    cases deleted
  rw [update_of_ne apart] at deleted
  rcases attached other here with same | old
  · exact apart same
  · exact silent (by rw [← phase]; exact living) other deleted old

section
variable (kept : Kept w.loop timerNodes pendingNodes)
include kept

variable (silent : Silent w timerNodes pendingNodes)
include silent

theorem eventAdd_inv {ev : Fin count} (proper : Proper w.loop (.rilEventAdd ev)) :
    Inv (advance (some w) (.call (.rilEventAdd ev))) := by
  rw [Proper, timers_eq kept.lists, pending_eq kept.lists] at proper
  obtain ⟨out, no_timer, idle⟩ := proper
  cases free : freeSlot w.loop with
  | none =>
    have same : rilEventAdd w.loop (.event ev) = w.loop := by rw [rilEventAdd, free]
    refine ⟨timerNodes, pendingNodes, ?_, ?_⟩
    · rw [same]
      exact kept
    · rw [same, marked, free]
      exact silent
  | some i =>
    refine ⟨timerNodes, pendingNodes, rilEventAdd_kept kept free out no_timer idle, ?_⟩
    have phase : (rilEventAdd w.loop (.event ev)).phase = w.loop.phase := by rw [rilEventAdd, free]
    rw [marked, free]
    apply silent_added silent phase
    intro other attached
    rcases attached with timer | pended | taken | ⟨j, entry⟩
    · exact Or.inr (attached_timer timer)
    · exact Or.inr (attached_pending pended)
    · rw [phase] at taken
      exact Or.inr (attached_taken taken)
    · rcases rilEventAdd_entry free entry with ⟨_, same⟩ | old
      · exact Or.inl same
      · exact Or.inr (attached_entry old)

theorem timerAdd_inv {ev : Fin count} {now tv : Timeval}
    (proper : Proper w.loop (.rilTimerAdd ev now (some tv))) :
    Inv (advance (some w) (.call (.rilTimerAdd ev now (some tv)))) := by
  rw [Proper, timers_eq kept.lists, pending_eq kept.lists] at proper
  obtain ⟨out, no_timer, idle⟩ := proper rfl
  obtain ⟨s', timerNodes', runs, kept', phase, table, added⟩ :=
    rilTimerAdd_kept kept now tv out no_timer idle
  rw [advance, call, runs]
  refine ⟨timerNodes', pendingNodes, kept', silent_added silent phase ?_⟩
  intro other attached
  rcases attached with timer | pended | taken | ⟨i, entry⟩
  · exact (added other timer).imp_right attached_timer
  · exact Or.inr (attached_pending pended)
  · rw [phase] at taken
    exact Or.inr (attached_taken taken)
  · rw [table] at entry
    exact Or.inr (attached_entry entry)

theorem eventDel_inv {ev : Fin count} (clean : Clean w.loop (.rilEventDel ev)) :
    Inv (advance (some w) (.call (.rilEventDel ev))) := by
  obtain ⟨kept', phase, fewer⟩ := rilEventDel_kept kept ev
  refine ⟨timerNodes, pendingNodes, kept', ?_⟩
  intro living other deleted attached
  rw [phase] at living
  dsimp only [marked] at deleted
  by_cases same : other = .event ev
  · subst same
    rw [Clean, timers_eq kept.lists, pending_eq kept.lists, living] at clean
    rcases clean with ended | ⟨no_timer, idle, free⟩
    · cases ended
    rcases attached with timer | pended | taken | ⟨i, entry⟩
    · exact no_timer timer
    · exact idle pended
    · rw [phase] at taken
      exact free taken
    · exact rilEventDel_out kept.table i entry
  · rw [update_of_ne same] at deleted
    apply silent living other deleted
    rcases attached with timer | pended | taken | ⟨i, entry⟩
    · exact attached_timer timer
    · exact attached_pending pended
    · rw [phase] at taken
      exact attached_taken taken
    · exact attached_entry (fewer i other entry)

end

theorem call_inv (inv : Inv (some w)) {made : Call count} (proper : Proper w.loop made)
    (clean : Clean w.loop made) : Inv (advance (some w) (.call made)) := by
  obtain ⟨timerNodes, pendingNodes, kept, silent⟩ := inv
  cases made with
  | rilEventSet ev fd persist =>
    rw [Proper, timers_eq kept.lists, pending_eq kept.lists] at proper
    obtain ⟨out, no_timer, idle⟩ := proper
    exact ⟨timerNodes, pendingNodes, rilEventSet_kept kept fd persist out no_timer idle, silent⟩
  | rilEventAdd ev => exact eventAdd_inv kept silent proper
  | rilTimerAdd ev now tv =>
    cases tv with
    | none => exact ⟨timerNodes, pendingNodes, kept, silent⟩
    | some tv => exact timerAdd_inv kept silent proper
  | rilEventDel ev => exact eventDel_inv kept silent clean

end

section

variable {s s' : Loop count} {deleted : Node count → Bool}

theorem Quiet.round (quiet : Quiet (some ⟨s, deleted⟩)) {taken : Round}
    (runs : loopStep s taken = some s') : Quiet (some ⟨s', deleted⟩) := by
  intro rounds
  have meets := (quiet (taken :: rounds)).2
  rw [advance, runs] at meets
  exact meets

theorem Quiet.taken (quiet : Quiet (some ⟨s, deleted⟩)) {ev : Node count}
    (takes_ev : takes s.phase = some ev) : deleted ev = false :=
  (quiet [.start]).1 ev takes_ev

section
variable (kept : Kept s timerNodes pendingNodes)
include kept

theorem drain {ev : Node count} (here : s.phase = .firing ev) (quiet : Quiet (some ⟨s, deleted⟩)) :
    (∀ ev ∈ pendingNodes, deleted ev = false) ∧
      ∃ s', Kept s' timerNodes [] ∧ s'.phase = .waiting ∧ Quiet (some ⟨s', deleted⟩) := by
  induction pendingNodes generalizing s ev with
  | nil =>
    obtain ⟨runs, kept'⟩ := take_last_kept kept here
    refine ⟨?_, _, kept', rfl, quiet.round runs⟩
    intro ev none
    cases none
  | cons first rest ih =>
    obtain ⟨s₁, runs₁, kept₁, phase₁, _⟩ := take_kept kept here
    have quiet₁ := quiet.round runs₁
    obtain ⟨runs₂, kept₂⟩ := start_kept kept₁ phase₁
    have quiet₂ := quiet₁.round runs₂
    obtain ⟨runs₃, kept₃⟩ := finish_kept kept₂ rfl
    obtain ⟨others, ends⟩ := ih kept₃ rfl (quiet₂.round runs₃)
    refine ⟨?_, ends⟩
    intro ev member
    rcases List.mem_cons.mp member with rfl | later
    · exact quiet₁.taken (by rw [phase₁]; rfl)
    · exact others ev later

theorem settle (quiet : Quiet (some ⟨s, deleted⟩))
    (inside : fires s.phase = true ∨ ∃ rfds n, s.phase = .expired rfds n) :
    (∀ ev ∈ pendingNodes, deleted ev = false) ∧
      ∃ s', Kept s' timerNodes [] ∧ s'.phase = .waiting ∧ Quiet (some ⟨s', deleted⟩) := by
  have gathered : ∀ {s : Loop count} {pendingNodes}, Kept s timerNodes pendingNodes →
      s.phase = .gathered → Quiet (some ⟨s, deleted⟩) →
      (∀ ev ∈ pendingNodes, deleted ev = false) ∧
        ∃ s', Kept s' timerNodes [] ∧ s'.phase = .waiting ∧ Quiet (some ⟨s', deleted⟩) := by
    intro s pendingNodes kept here quiet
    obtain ⟨runs, kept'⟩ := firePending_kept kept here
    exact drain kept' rfl (quiet.round runs)
  have running : ∀ {s : Loop count} {next : Node count}, Kept s timerNodes pendingNodes →
      s.phase = .running next → Quiet (some ⟨s, deleted⟩) →
      (∀ ev ∈ pendingNodes, deleted ev = false) ∧
        ∃ s', Kept s' timerNodes [] ∧ s'.phase = .waiting ∧ Quiet (some ⟨s', deleted⟩) := by
    intro s next kept here quiet
    obtain ⟨runs, kept'⟩ := finish_kept kept here
    exact drain kept' rfl (quiet.round runs)
  rcases inside with fires_now | ⟨rfds, n, here⟩
  · cases here : s.phase with
    | gathered => exact gathered kept here quiet
    | firing ev => exact drain kept here quiet
    | taken ev next =>
      obtain ⟨runs, kept'⟩ := start_kept kept here
      exact running kept' rfl (quiet.round runs)
    | running next => exact running kept here quiet
    | _ =>
      rw [here] at fires_now
      cases fires_now
  · obtain ⟨more, s', runs, kept', phase, _⟩ := processReadReadies_kept kept here
    obtain ⟨alive, ends⟩ := gathered kept' phase (quiet.round runs)
    exact ⟨fun ev member => alive ev (List.mem_append_left _ member), ends⟩

omit kept in
theorem late_clock (s : Loop count) (nodes : List (Node count)) :
    ∃ now, ∀ ev ∈ nodes, due s now ev = true := by
  have bound : ∃ sec : Int, ∀ ev ∈ nodes, (s.timeout ev).sec < sec := by
    induction nodes with
    | nil => exact ⟨0, fun ev none => by cases none⟩
    | cons first rest ih =>
      obtain ⟨sec, later⟩ := ih
      refine ⟨max sec ((s.timeout first).sec + 1), ?_⟩
      intro ev member
      rcases List.mem_cons.mp member with rfl | member
      · omega
      · have := later ev member
        omega
  obtain ⟨sec, later⟩ := bound
  refine ⟨⟨sec, 0⟩, ?_⟩
  intro ev member
  have less := later ev member
  unfold due Timeval.before
  rw [if_neg (by dsimp only; omega)]
  exact decide_eq_true less

theorem selected_timers {rfds : Int → Bool} {n : Int} (here : s.phase = .selected rfds n)
    (quiet : Quiet (some ⟨s, deleted⟩)) : ∀ ev ∈ timerNodes, deleted ev = false := by
  obtain ⟨now, late⟩ := late_clock s timerNodes
  obtain ⟨s', runs, kept', phase, _⟩ := processTimeouts_kept kept here now
  rw [List.takeWhile_eq_self_iff.mpr late] at kept'
  obtain ⟨alive, _⟩ := settle kept' (quiet.round runs) (Or.inr ⟨rfds, n, phase⟩)
  exact fun ev member => alive ev (List.mem_append_right _ member)

theorem waiting_timers (here : s.phase = .waiting) (quiet : Quiet (some ⟨s, deleted⟩)) :
    ∀ ev ∈ timerNodes, deleted ev = false := by
  have runs : loopStep s (.select (fun _ => false) 0 false) =
      some { s with phase := .selected (fun _ => false) 0 } := by
    rw [loopStep, here]
    rfl
  exact selected_timers (select_kept kept here _ 0) rfl (quiet.round runs)

/-- What is in a list or taken out is started by some rounds of a loop that has not returned. -/
theorem listed_fires (living : returned s.phase = false) (quiet : Quiet (some ⟨s, deleted⟩)) :
    (∀ ev ∈ timerNodes, deleted ev = false) ∧ ∀ ev ∈ pendingNodes, deleted ev = false := by
  have empty : Follows pendingNodes s.phase := kept.follows
  have inside : fires s.phase = true ∨ (∃ rfds n, s.phase = .expired rfds n) →
      (∀ ev ∈ timerNodes, deleted ev = false) ∧ ∀ ev ∈ pendingNodes, deleted ev = false := by
    intro within
    obtain ⟨alive, s', kept', phase, quiet'⟩ := settle kept quiet within
    exact ⟨waiting_timers kept' phase quiet', alive⟩
  cases here : s.phase with
  | waiting =>
    rw [here] at empty
    rw [show pendingNodes = [] from empty]
    exact ⟨waiting_timers kept here quiet, fun ev none => by cases none⟩
  | selected rfds n =>
    rw [here] at empty
    rw [show pendingNodes = [] from empty]
    exact ⟨selected_timers kept here quiet, fun ev none => by cases none⟩
  | expired rfds n => exact inside (Or.inr ⟨rfds, n, here⟩)
  | ended =>
    rw [here] at living
    cases living
  | _ => exact inside (Or.inl (by rw [here]; rfl))

end

theorem unclean_fires {w : Watched count} (inv : Inv (some w)) {made : Call count}
    (unclean : ¬ Clean w.loop made) : ¬ Quiet (advance (some w) (.call made)) := by
  obtain ⟨timerNodes, pendingNodes, kept, _⟩ := inv
  cases made with
  | rilEventDel ev =>
    rw [Clean, timers_eq kept.lists, pending_eq kept.lists] at unclean
    obtain ⟨kept', phase, _⟩ := rilEventDel_kept kept ev
    intro quiet
    have mark : update w.deleted (.event ev) true (.event ev) = true :=
      update_self _ _ _
    have living : returned w.loop.phase = false :=
      Bool.eq_false_iff.mpr fun ended => unclean (Or.inl ended)
    obtain ⟨timers_alive, pending_alive⟩ := listed_fires kept' (by rw [phase]; exact living) quiet
    refine unclean (Or.inr ⟨?_, ?_, ?_⟩)
    · intro timer
      cases mark.symm.trans (timers_alive _ timer)
    · intro pended
      cases mark.symm.trans (pending_alive _ pended)
    · intro taken
      cases mark.symm.trans (quiet.taken (by rw [phase]; exact taken))
  | _ => exact absurd trivial unclean

end

theorem quiet_lawful (w : Option (Watched count)) (event : Event count) (quiet : Quiet w) :
    Lawful w event := by
  cases w with
  | none => exact (quiet [.start]).1.elim
  | some w =>
    cases event with
    | call made => trivial
    | round taken => exact (quiet [taken]).1

/-- For every run in which no event is linked twice: in no state a deleted event can still be started
    if and only if every event that is deleted is in neither list and not about to be started, or the
    loop has returned; and then no deleted event is started in the run. -/
theorem deleted_quiet_iff (events : List (Event count))
    (proper : Meets advance (OnCalls Proper) (Watched.start count) events) :
    (Visits advance Quiet (Watched.start count) events ↔
        Meets advance (OnCalls Clean) (Watched.start count) events) ∧
      (Meets advance (OnCalls Clean) (Watched.start count) events →
        Meets advance Lawful (Watched.start count) events) := by
  have start : Inv (Watched.start count) := by
    refine ⟨[], [], kept_start, ?_⟩
    intro _ ev deleted
    cases deleted
  have keep : ∀ w event, Inv w → @OnCalls count Proper w event → OnCalls Clean w event →
      Inv (advance w event) := by
    intro w event inv proper clean
    cases w with
    | none => exact inv
    | some w =>
      cases event with
      | call made => exact call_inv inv proper clean
      | round taken => exact round_inv inv taken
  have fails : ∀ w event, Inv w → @OnCalls count Proper w event →
      ¬ OnCalls Clean w event → ¬ Quiet (advance w event) := by
    intro w event inv _ unclean
    cases w with
    | none => exact inv.elim
    | some w =>
      cases event with
      | call made => exact unclean_fires inv unclean
      | round taken => exact absurd trivial unclean
  have exact_condition := visits_iff_meets_within inv_quiet keep fails events _ start proper
  refine ⟨exact_condition, ?_⟩
  intro clean
  exact meets_of_visits quiet_lawful events _ (exact_condition.mpr clean)

instance (s : Loop count) (made : Call count) : Decidable (Proper s made) :=
  match made with
  | .rilEventSet _ _ _ => inferInstanceAs (Decidable (_ ∧ _ ∧ _))
  | .rilEventAdd _ => inferInstanceAs (Decidable (_ ∧ _ ∧ (_ → _)))
  | .rilTimerAdd _ _ _ => inferInstanceAs (Decidable (_ → _ ∧ _ ∧ _))
  | .rilEventDel _ => inferInstanceAs (Decidable True)

instance (s : Loop count) (made : Call count) : Decidable (Clean s made) :=
  match made with
  | .rilEventDel _ => inferInstanceAs (Decidable (_ ∨ _ ∧ _ ∧ _))
  | .rilEventSet _ _ _ | .rilEventAdd _ | .rilTimerAdd _ _ _ => inferInstanceAs (Decidable True)

instance (Ok : Loop count → Call count → Prop) [∀ s made, Decidable (Ok s made)]
    (w : Option (Watched count)) (event : Event count) : Decidable (OnCalls Ok w event) :=
  match w, event with
  | some w, .call made => inferInstanceAs (Decidable (Ok w.loop made))
  | none, _ | some _, .round _ => inferInstanceAs (Decidable True)

def oneRound (ready : List Int) (now : Timeval) : List (Event count) :=
  [.round (.select (fun fd => ready.contains fd) ready.length false), .round (.processTimeouts now),
    .round .processReadReadies, .round .firePending, .round .take]

def deletesItself : List (Event 1) :=
  [.call (.rilEventSet 0 5 true), .call (.rilEventAdd 0)] ++ oneRound [5] ⟨0, 0⟩ ++
    [.round .start, .call (.rilEventDel 0), .round .finish, .round .take]

theorem deletes_itself_quiet : Visits advance Quiet (Watched.start 1) deletesItself :=
  (deleted_quiet_iff deletesItself (by decide)).1.mpr (by decide)

def startsDeleted : Option (Watched count) → Bool
  | none => false
  | some w => (takes w.loop.phase).any w.deleted

theorem unlawful_start {w : Option (Watched count)} (starts : startsDeleted w = true) :
    ¬ Lawful w (.round .start) := by
  cases w with
  | none => cases starts
  | some w =>
    intro lawful
    cases here : takes w.loop.phase with
    | none =>
      rw [startsDeleted, here] at starts
      cases starts
    | some ev =>
      have kept := lawful ev here
      rw [startsDeleted, here, Option.any_some, kept] at starts
      cases starts

def deletedTimer : List (Event 1) :=
  [.call (.rilTimerAdd 0 ⟨0, 0⟩ (some ⟨1, 0⟩)), .call (.rilEventDel 0)] ++ oneRound [] ⟨2, 0⟩

def deletedPending : List (Event 2) :=
  [.call (.rilEventSet 0 5 true), .call (.rilEventAdd 0), .call (.rilEventSet 1 6 true),
    .call (.rilEventAdd 1)] ++ oneRound [5, 6] ⟨0, 0⟩ ++
    [.round .start, .call (.rilEventDel 1), .round .finish, .round .take]

def deletedOnce : List (Event 1) :=
  [.call (.rilEventSet 0 5 true), .call (.rilEventAdd 0), .call (.rilEventAdd 0),
    .call (.rilEventDel 0)] ++ oneRound [5] ⟨0, 0⟩

/-- In each of these runs the event that is started next was deleted. -/
theorem deleted_events_fire :
    ¬ Lawful (deletedTimer.foldl advance (Watched.start 1)) (.round .start) ∧
      ¬ Lawful (deletedPending.foldl advance (Watched.start 2)) (.round .start) ∧
      ¬ Lawful (deletedOnce.foldl advance (Watched.start 1)) (.round .start) :=
  ⟨unlawful_start (by decide), unlawful_start (by decide), unlawful_start (by decide)⟩

end DeletedEvents
