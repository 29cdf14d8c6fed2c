import SamsungHardware.Library.StepRuns
import SamsungHardware.RilDaemon.EventLists

/- The order of the timer list. `ril_timer_add` puts an event in front of the first that is not
   earlier, and `processTimeouts` stops at the first that is not due, so the list has to be in the
   order of the timeouts for the timers that are due to be found. The lists are compared with what
   the calls have armed and what has expired since. -/
namespace TimerOrder
open StepRuns RingLists EventLoop EventLists

variable {count : Nat}

inductive TimerCall (count : Nat) where
  | rilTimerAdd (ev : Fin count) (now : Timeval) (tv : Option Timeval)
  | processTimeouts (now : Timeval)

def step (s : Loop count) : TimerCall count → Option (Loop count)
  | .rilTimerAdd ev now tv => rilTimerAdd s (.event ev) now tv
  | .processTimeouts now => processTimeouts s now

/-- An event is added only while it is in neither list; without a time nothing is added. -/
def Allowed (s : Loop count) : TimerCall count → Prop
  | .rilTimerAdd ev _ tv => tv.isSome = true → .event ev ∉ timers s ∧ .event ev ∉ pending s
  | .processTimeouts _ => True

def Sorted (s : Loop count) (nodes : List (Node count)) : Prop :=
  nodes.Pairwise fun a b => due s (s.timeout a) b = false

structure Ordered (s : Loop count) : Prop where
  rings : TwoRings s.next s.prev .timerList (timers s) .pendingList (pending s)
  sorted : Sorted s (timers s)

/-- What the calls have armed, each event with its timeout, and what of it has expired. -/
structure Record (count : Nat) where
  (armed expired : List (Node count × Timeval))

def record (past : Record count) : TimerCall count → Record count
  | .rilTimerAdd _ _ none => past
  | .rilTimerAdd ev now (some tv) =>
    { past with armed := (.event ev, timeradd now tv) :: past.armed }
  | .processTimeouts now =>
    ⟨past.armed.filter (!·.2.before now), past.expired ++ past.armed.filter (·.2.before now)⟩

def withTimeout (s : Loop count) (ev : Node count) : Node count × Timeval := (ev, s.timeout ev)

structure Recorded (past : Record count) (s : Loop count) : Prop where
  ordered : Ordered s
  armed : ((timers s).map (withTimeout s)).Perm past.armed
  expired : ((pending s).map (withTimeout s)).Perm past.expired

variable {s : Loop count}

section

variable {a b c : Timeval} {nodes : List (Node count)} {ev : Node count}

theorem before_asymm (earlier : a.before b = true) : b.before a = false := by
  grind [Timeval.before]

theorem not_before_trans (first : b.before a = false) (second : c.before b = false) :
    c.before a = false := by
  grind [Timeval.before]

theorem Sorted.insert (sorted : Sorted s nodes) :
    Sorted s (insertTimer s ev (s.timeout ev) nodes) := by
  induction nodes with
  | nil => simp [insertTimer, Sorted]
  | cons node rest ih =>
    obtain ⟨first, others⟩ := List.pairwise_cons.mp sorted
    by_cases early : due s (s.timeout ev) node = true
    · have next : insertTimer s ev (s.timeout ev) (node :: rest) =
          node :: insertTimer s ev (s.timeout ev) rest := by
        simp [insertTimer, early]
      rw [next]
      refine List.pairwise_cons.mpr ⟨?_, ih others⟩
      intro other member
      rcases mem_insertTimer.mp member with rfl | old
      · exact before_asymm early
      · exact first other old
    · have here : insertTimer s ev (s.timeout ev) (node :: rest) = ev :: node :: rest := by
        simp [insertTimer, early]
      rw [here]
      refine List.pairwise_cons.mpr ⟨?_, sorted⟩
      have late := Bool.eq_false_iff.mpr early
      intro other member
      rcases List.mem_cons.mp member with rfl | later
      · exact late
      · exact not_before_trans late (first other later)

theorem Sorted.split (sorted : Sorted s nodes) (now : Timeval) :
    nodes.takeWhile (due s now) = nodes.filter (due s now) ∧
      nodes.dropWhile (due s now) = nodes.filter (!due s now ·) := by
  induction nodes with
  | nil => exact ⟨rfl, rfl⟩
  | cons node rest ih =>
    obtain ⟨first, others⟩ := List.pairwise_cons.mp sorted
    obtain ⟨taken, left⟩ := ih others
    by_cases late : due s now node = true
    · simp [late, taken, left]
    · have later : ∀ other ∈ rest, due s now other = false := fun other member =>
        not_before_trans (Bool.eq_false_iff.mpr late) (first other member)
      have left : rest.filter (!due s now ·) = rest := by simpa using later
      simpa [late, left] using later

end

theorem insertTimer_perm (ev : Node count) (timeout : Timeval) (nodes : List (Node count)) :
    (insertTimer s ev timeout nodes).Perm (ev :: nodes) := by
  refine List.perm_middle.trans ?_
  rw [List.takeWhile_append_dropWhile]

variable {past : Record count}

theorem rilTimerAdd_recorded (recorded : Recorded past s) {ev : Fin count} (now tv : Timeval)
    (allowed : .event ev ∉ timers s ∧ .event ev ∉ pending s) :
    ∃ s', rilTimerAdd s (.event ev) now (some tv) = some s' ∧
      Recorded (record past (.rilTimerAdd ev now (some tv))) s' := by
  obtain ⟨ordered, armed, expired⟩ := recorded
  obtain ⟨next, prev, runs, rings⟩ := rilTimerAdd_spec now tv ordered.rings allowed.1 allowed.2
  refine ⟨_, runs, ?_⟩
  have own : (dated s (.event ev) (timeradd now tv)).timeout (.event ev) = timeradd now tv :=
    Function.update_self _ _ _
  have same : ∀ node, node ≠ .event ev →
      (dated s (.event ev) (timeradd now tv)).timeout node = s.timeout node :=
    fun node other => Function.update_of_ne other _ _
  have sorted : Sorted (dated s (.event ev) (timeradd now tv)) (timers s) := by
    refine ordered.sorted.imp_of_mem fun {a b} here there later => ?_
    rw [due, same a (ne_of_mem_of_not_mem here allowed.1),
      same b (ne_of_mem_of_not_mem there allowed.1)]
    exact later
  have inserted : Sorted (dated s (.event ev) (timeradd now tv)) (insertTimer _ (.event ev) _ _) :=
    sorted.insert
  rw [own] at inserted
  -- the events in the two lists keep their timeouts
  have kept : ∀ nodes : List (Node count), .event ev ∉ nodes →
      nodes.map (withTimeout (dated s (.event ev) (timeradd now tv))) = nodes.map (withTimeout s) := by
    intro nodes out
    refine List.map_congr_left fun node member => ?_
    rw [withTimeout, withTimeout, same node (ne_of_mem_of_not_mem member out)]
  refine ⟨⟨by rwa [timers_eq rings, pending_eq rings], by rwa [timers_eq rings]⟩, ?_, ?_⟩
  · rw [timers_eq rings]
    refine ((insertTimer_perm _ _ _).map _).trans ?_
    change (_ :: (timers s).map (withTimeout (dated s (.event ev) _))).Perm _
    rw [kept _ allowed.1, withTimeout]
    change ((_, (dated s (.event ev) _).timeout (.event ev)) :: _).Perm _
    rw [own]
    exact armed.cons _
  · rw [pending_eq rings]
    change ((pending s).map (withTimeout (dated s (.event ev) _))).Perm _
    rw [kept _ allowed.2]
    exact expired

theorem processTimeouts_ordered (ordered : Ordered s) (now : Timeval) :
    ∃ next prev, processTimeouts s now = some { s with next := next, prev := prev } ∧
      Ordered { s with next := next, prev := prev } ∧
      timers { s with next := next, prev := prev } = (timers s).filter (!due s now ·) ∧
      pending { s with next := next, prev := prev } =
        pending s ++ (timers s).filter (due s now) := by
  obtain ⟨next, prev, runs, rings⟩ := processTimeouts_spec now ordered.rings
  obtain ⟨taken, left⟩ := ordered.sorted.split now
  rw [taken, left] at rings
  have timers := timers_eq (s := { s with next := next, prev := prev }) rings
  have pending := pending_eq (s := { s with next := next, prev := prev }) rings
  refine ⟨next, prev, runs, ⟨?_, ?_⟩, timers, pending⟩
  · rwa [timers, pending]
  · rw [timers]
    exact ordered.sorted.filter _

theorem processTimeouts_recorded (recorded : Recorded past s) (now : Timeval) :
    ∃ s', processTimeouts s now = some s' ∧ Recorded (record past (.processTimeouts now)) s' := by
  obtain ⟨ordered, armed, expired⟩ := recorded
  obtain ⟨next, prev, runs, ordered', left, moved⟩ := processTimeouts_ordered ordered now
  refine ⟨_, runs, ordered', ?_, ?_⟩
  · rw [left]
    change (((timers s).filter ((fun timer => !timer.2.before now) ∘ withTimeout s)).map
      (withTimeout s)).Perm _
    rw [← List.filter_map]
    exact armed.filter _
  · rw [moved, List.map_append]
    refine expired.append ?_
    change (((timers s).filter ((fun timer => timer.2.before now) ∘ withTimeout s)).map
      (withTimeout s)).Perm _
    rw [← List.filter_map]
    exact armed.filter _

theorem recorded_start : Recorded ⟨[], []⟩ (Loop.start count) := by
  have rings := (@kept_start count).lists
  have timers := timers_eq rings
  have pending := pending_eq rings
  refine ⟨⟨by rwa [timers, pending], ?_⟩, ?_, ?_⟩
  · rw [timers]
    exact List.Pairwise.nil
  · rw [timers]
    exact List.Perm.nil
  · rw [pending]
    exact List.Perm.nil

/-- Every sequence of the two calls runs to a state in which both lists are well formed and the
    timers are in the order of their timeouts. The timer list holds the events that were added and
    have not expired, each with the time of its call and its delay added up, and the pending list
    those that have expired. From there `processTimeouts` moves exactly the timers with an earlier
    timeout to the end of the pending list, in their order, and changes nothing else. -/
theorem timer_list_sorted (events : List (TimerCall count))
    (allowed : Admits step Allowed (Loop.start count) events) :
    ∃ s, run step (Loop.start count) events = some s ∧ Ordered s ∧
      ((timers s).map fun ev => (ev, s.timeout ev)).Perm (events.foldl record ⟨[], []⟩).armed ∧
      ((pending s).map fun ev => (ev, s.timeout ev)).Perm (events.foldl record ⟨[], []⟩).expired ∧
      ∀ now, ∃ next prev, processTimeouts s now = some { s with next := next, prev := prev } ∧
        Ordered { s with next := next, prev := prev } ∧
        timers { s with next := next, prev := prev } =
          (timers s).filter (fun ev => !(s.timeout ev).before now) ∧
        pending { s with next := next, prev := prev } =
          pending s ++ (timers s).filter fun ev => (s.timeout ev).before now := by
  have keep : ∀ (past : Record count) (s : Loop count) (event : TimerCall count),
      Recorded past s → Allowed s event →
        ∃ s', step s event = some s' ∧ Recorded (record past event) s' := by
    intro past s event recorded allowed
    cases event with
    | rilTimerAdd ev now tv =>
      cases tv with
      | none => exact ⟨s, rfl, recorded⟩
      | some tv => exact rilTimerAdd_recorded recorded now tv (allowed rfl)
    | processTimeouts now => exact processTimeouts_recorded recorded now
  obtain ⟨s, runs, ordered, armed, expired⟩ :=
    run_watched keep events _ _ recorded_start allowed
  exact ⟨s, runs, ordered, armed, expired, processTimeouts_ordered ordered⟩

def twoTimers : List (TimerCall 2) :=
  [.rilTimerAdd ⟨0, Nat.zero_lt_two⟩ ⟨0, 0⟩ (some ⟨2, 0⟩),
    .rilTimerAdd ⟨1, Nat.one_lt_two⟩ ⟨0, 0⟩ (some ⟨1, 0⟩),
    .processTimeouts ⟨1, 500000⟩]

/-- The second timer is the earlier one; it expires and the first is left. -/
theorem two_timers_sorted : ∃ s, run step (Loop.start 2) twoTimers = some s ∧ Ordered s ∧
    (timers s).map (withTimeout s) = [(.event ⟨0, Nat.zero_lt_two⟩, ⟨2, 0⟩)] ∧
    (pending s).map (withTimeout s) = [(.event ⟨1, Nat.one_lt_two⟩, ⟨1, 0⟩)] := by
  obtain ⟨s, runs, ordered, armed, expired, _⟩ := timer_list_sorted twoTimers (by
    refine ⟨fun _ => ⟨by decide, by decide⟩, fun s taken => ?_⟩
    cases taken
    refine ⟨fun _ => ⟨by decide, by decide⟩, fun s taken => ?_⟩
    cases taken
    exact ⟨trivial, fun _ _ => trivial⟩)
  exact ⟨s, runs, ordered, armed.eq_singleton, expired.eq_singleton⟩

end TimerOrder
