import SamsungHardware.RilDaemon.EventLoop
import SamsungHardware.Library.RingLists

/- The two lists and the watch table of the event loop. In every state that is reached the lists are two
   rings, what is in the table is in no timer list, and the loop variable of `firePending` is at the
   first pending event. The walks of the code along the lists are brought to lists of events here. -/
namespace EventLists
open RingLists EventLoop List Function Option Nat

variable {count : Nat}

def takes : Phase count → Option (Node count)
  | .taken ev _ => some ev
  | _ => none

def fires : Phase count → Bool
  | .gathered | .firing _ | .taken .. | .running _ => true
  | _ => false

def returned : Phase count → Bool
  | .ended => true
  | _ => false

def timers (s : Loop count) : List (Node count) :=
  walk s.next .timerList count (s.next .timerList)

def pending (s : Loop count) : List (Node count) :=
  walk s.next .pendingList count (s.next .pendingList)

def InTable (s : Loop count) (ev : Node count) : Prop := ∃ i ∈ slots, s.watchTable i = some ev

instance (s : Loop count) (ev : Node count) : Decidable (InTable s ev) :=
  inferInstanceAs (Decidable (∃ i ∈ slots, s.watchTable i = some ev))

variable {s : Loop count}

section

variable {head other ev : Node count} {front back others : List (Node count)}

theorem addToList_rings
    (rings : TwoRings s.next s.prev head (front ++ back) other others)
    (new : ev ∉ head :: (front ++ back)) (outside : ev ∉ other :: others) :
    ∃ next prev, addToList s ev (back.headD head) = some { s with next := next, prev := prev } ∧
      TwoRings next prev head (front ++ ev :: back) other others := by
  have before := rings.ring.before
  refine ⟨_, _, ?_, rings.insert new outside⟩
  unfold addToList
  dsimp only
  rw [update_self, before]
  rfl

theorem removeFromList_rings
    (rings : TwoRings s.next s.prev head (front ++ ev :: back) other others) :
    ∃ next prev, removeFromList s ev = some { s with next := next, prev := prev } ∧
      TwoRings next prev head (front ++ back) other others := by
  obtain ⟨after, before, _⟩ := rings.ring.remove
  refine ⟨_, _, ?_, rings.remove⟩
  have same : update s.prev (back.headD head) (s.prev ev) ev = s.prev ev := by
    by_cases here : ev = back.headD head
    · rw [← here, update_self]
    · exact update_of_ne here _ _
  unfold removeFromList
  rw [after]
  dsimp only [bind_eq_bind, bind_some]
  rw [same, before]
  rfl

end

variable {timerNodes pendingNodes : List (Node count)} {ev : Node count}

section

/-- The node the loop variable of `firePending` has to be at. -/
def firstPending (pendingNodes : List (Node count)) : Node count := pendingNodes.headD .pendingList

def Follows (pendingNodes : List (Node count)) : Phase count → Prop
  | .waiting | .selected .. | .ended => pendingNodes = []
  | .expired .. | .gathered => True
  | .firing ev => ev = firstPending pendingNodes
  | .taken _ next | .running next => next = firstPending pendingNodes

def TableKept (s : Loop count) (timerNodes : List (Node count)) : Prop :=
  ∀ i ev, s.watchTable i = some ev →
    i ∈ slots ∧ s.index ev = i ∧ (∃ address, ev = .event address) ∧ ev ∉ timerNodes

structure Kept (s : Loop count) (timerNodes pendingNodes : List (Node count)) : Prop where
  lists : TwoRings s.next s.prev .timerList timerNodes .pendingList pendingNodes
  table : TableKept s timerNodes
  follows : Follows pendingNodes s.phase
  fresh : fires s.phase = false → ∀ i ev, s.watchTable i = some ev → ev ∉ pendingNodes

def Attached (s : Loop count) (timerNodes pendingNodes : List (Node count)) (ev : Node count) : Prop :=
  ev ∈ timerNodes ∨ ev ∈ pendingNodes ∨ takes s.phase = some ev ∨ ∃ i, s.watchTable i = some ev

theorem attached_timer (timer : ev ∈ timerNodes) : Attached s timerNodes pendingNodes ev :=
  Or.inl timer

theorem attached_pending (pended : ev ∈ pendingNodes) : Attached s timerNodes pendingNodes ev :=
  Or.inr (Or.inl pended)

theorem attached_taken (taken : takes s.phase = some ev) : Attached s timerNodes pendingNodes ev :=
  Or.inr (Or.inr (Or.inl taken))

theorem attached_entry {i : Int} (entry : s.watchTable i = some ev) :
    Attached s timerNodes pendingNodes ev :=
  Or.inr (Or.inr (Or.inr ⟨i, entry⟩))

theorem nodes_length {cells : List (Node count)} (events : ∀ node ∈ cells, ∃ ev, node = .event ev)
    (nodup : cells.Nodup) : cells.length ≤ count := by
  have listed : ∃ evs : List (Fin count), cells = evs.map Node.event := by
    induction cells with
    | nil => exact ⟨[], rfl⟩
    | cons node rest ih =>
      obtain ⟨ev, rfl⟩ := events node mem_cons_self
      obtain ⟨evs, rfl⟩ := ih (fun node member => events node (mem_cons_of_mem _ member))
        (nodup_cons.mp nodup).2
      exact ⟨ev :: evs, rfl⟩
  obtain ⟨evs, rfl⟩ := listed
  have bound := List.Nodup.length_le_card (List.Nodup.of_map _ nodup)
  rw [Fintype.card_fin] at bound
  rw [length_map]
  exact bound

section

variable (rings : TwoRings s.next s.prev .timerList timerNodes .pendingList pendingNodes)

include rings

theorem ring_event {node : Node count} (member : node ∈ timerNodes ∨ node ∈ pendingNodes) :
    ∃ ev, node = .event ev := by
  have own := rings.ring.nodup
  have others := rings.other.nodup
  have apart := rings.apart
  cases node with
  | event ev => exact ⟨ev, rfl⟩
  | _ => grind

theorem timers_length : timerNodes.length ≤ count :=
  nodes_length (fun _ timer => ring_event rings (Or.inl timer)) (nodup_cons.mp rings.ring.nodup).2

theorem timers_eq : timers s = timerNodes :=
  rings.ring.forward.walk_eq (nodup_cons.mp rings.ring.nodup).1 (timers_length rings)

theorem pending_eq : pending s = pendingNodes := by
  obtain ⟨outside, nodup⟩ := nodup_cons.mp rings.other.nodup
  exact rings.other.forward.walk_eq outside
    (nodes_length (fun _ pended => ring_event rings (Or.inr pended)) nodup)

end

theorem kept_start : Kept (Loop.start count) [] [] := by
  refine ⟨⟨⟨rfl, rfl, nodup_singleton _⟩, ⟨rfl, rfl, nodup_singleton _⟩, ?_⟩, ?_, rfl, ?_⟩
  · intro cell member other
    rw [mem_singleton.mp member] at other
    cases mem_singleton.mp other
  · intro i ev here
    cases here
  · intro _ i ev here
    cases here

end

section

variable {timerNodes : List (Node count)} {i : Int}

@[simp]
theorem removeWatch_fields :
    (removeWatch s ev i).next = s.next ∧ (removeWatch s ev i).prev = s.prev ∧
      (removeWatch s ev i).phase = s.phase ∧ (removeWatch s ev i).fd = s.fd ∧
      (removeWatch s ev i).watchTable = update s.watchTable i none ∧
      (removeWatch s ev i).index = update s.index ev (-1) ∧
      (removeWatch s ev i).readFds = update s.readFds (s.fd ev) false := by
  unfold removeWatch
  dsimp only
  split_ifs <;> simp

theorem removeWatch_entry {j : Int} {found : Node count}
    (entry : (removeWatch s ev i).watchTable j = some found) : j ≠ i ∧ s.watchTable j = some found := by
  simp only [removeWatch_fields] at entry
  by_cases same : j = i
  · rw [same, update_self] at entry
    cases entry
  · rw [update_of_ne same] at entry
    exact ⟨same, entry⟩

theorem removeWatch_table (table : TableKept s timerNodes) (here : s.index ev = i) :
    TableKept (removeWatch s ev i) timerNodes := by
  intro j found entry
  obtain ⟨apart, old⟩ := removeWatch_entry entry
  obtain ⟨inside, indexed, events, out⟩ := table j found old
  have different : found ≠ ev := by
    rintro rfl
    exact apart (indexed.symm.trans here)
  refine ⟨inside, ?_, events, out⟩
  simp [update_of_ne different, indexed]

theorem mem_slots (inside : i ∈ slots) : ¬ (i < 0 ∨ i ≥ maxFdEvents) := by
  obtain ⟨n, below, rfl⟩ := mem_map.mp inside
  have bound := mem_range.mp below
  simp only [Int.ofNat_eq_natCast]
  omega

theorem rilEventDel_out (table : TableKept s timerNodes) (i : Int) :
    (rilEventDel s ev).watchTable i ≠ some ev := by
  intro here
  unfold rilEventDel at here
  split_ifs at here with unlisted
  · obtain ⟨inside, indexed, _⟩ := table i ev here
    rw [indexed] at unlisted
    exact mem_slots inside unlisted
  · obtain ⟨apart, old⟩ := removeWatch_entry here
    exact apart (table i ev old).2.1.symm

theorem rilEventDel_table (table : TableKept s timerNodes) :
    TableKept (rilEventDel s ev) timerNodes := by
  unfold rilEventDel
  split_ifs
  · exact table
  · exact removeWatch_table table rfl

end

theorem pend_rings {ev : Node count}
    (rings : TwoRings s.next s.prev .timerList timerNodes .pendingList pendingNodes)
    (new : ev ∉ .pendingList :: pendingNodes) (outside : ev ∉ .timerList :: timerNodes) :
    ∃ next prev, addToList s ev .pendingList = some { s with next := next, prev := prev } ∧
      TwoRings next prev .timerList timerNodes .pendingList (pendingNodes ++ [ev]) := by
  have queue : TwoRings s.next s.prev .pendingList (pendingNodes ++ []) .timerList timerNodes := by
    rw [append_nil]
    exact rings.symm
  obtain ⟨next, prev, added, longer⟩ :=
    addToList_rings queue (by rw [append_nil]; exact new) outside
  exact ⟨next, prev, added, longer.symm⟩

def due (s : Loop count) (now : Timeval) (ev : Node count) : Bool := (s.timeout ev).before now

theorem expire_spec (now : Timeval) :
    ∀ (fuel : Nat) (s : Loop count) (pendingNodes : List (Node count)),
      TwoRings s.next s.prev .timerList timerNodes .pendingList pendingNodes →
      timerNodes.length < fuel →
      ∃ next prev, expire now fuel (timerNodes.headD .timerList) s =
          some { s with next := next, prev := prev } ∧
        TwoRings next prev .timerList (timerNodes.dropWhile (due s now)) .pendingList
          (pendingNodes ++ timerNodes.takeWhile (due s now)) := by
  induction timerNodes with
  | nil =>
    intro fuel s pendingNodes rings enough
    obtain ⟨fuel, rfl⟩ := exists_eq_succ_of_ne_zero (ne_of_gt enough)
    exact ⟨s.next, s.prev, by simp [expire], by simpa using rings⟩
  | cons tev rest ih =>
    intro fuel s pendingNodes rings enough
    obtain ⟨fuel, rfl⟩ := exists_eq_succ_of_ne_zero (ne_of_gt (zero_lt_of_lt enough))
    obtain ⟨first, distinct⟩ := nodup_cons.mp rings.ring.nodup
    have other : tev ≠ .timerList := (ne_of_not_mem_cons first).symm
    rw [headD_cons, expire]
    by_cases late : due s now tev = true
    · have whole : TwoRings s.next s.prev .timerList ([] ++ tev :: rest) .pendingList pendingNodes :=
        rings
      have after := whole.ring.remove.1
      obtain ⟨next, prev, removed, shorter⟩ := removeFromList_rings whole
      have out : tev ∉ .pendingList :: pendingNodes :=
        rings.apart tev (mem_cons_of_mem _ mem_cons_self)
      have gone : tev ∉ .timerList :: rest := by
        simpa [other] using (nodup_cons.mp distinct).1
      obtain ⟨next', prev', added, longer⟩ :=
        pend_rings (s := { s with next := next, prev := prev }) shorter out gone
      obtain ⟨next'', prev'', runs, rings''⟩ :=
        ih fuel { s with next := next', prev := prev' } (pendingNodes ++ [tev]) longer
          (lt_of_succ_lt_succ enough)
      refine ⟨next'', prev'', ?_, ?_⟩
      · rw [if_pos ⟨other, late⟩, after, removed]
        change (addToList _ tev .pendingList).bind _ = _
        rw [added]
        exact runs
      · rw [dropWhile_cons_of_pos late, takeWhile_cons_of_pos late, append_cons]
        exact rings''
    · refine ⟨s.next, s.prev, if_neg fun both => late both.2, ?_⟩
      rw [dropWhile_cons_of_neg late, takeWhile_cons_of_neg late, append_nil]
      exact rings

theorem processTimeouts_spec (now : Timeval)
    (rings : TwoRings s.next s.prev .timerList timerNodes .pendingList pendingNodes) :
    ∃ next prev, processTimeouts s now = some { s with next := next, prev := prev } ∧
      TwoRings next prev .timerList (timerNodes.dropWhile (due s now)) .pendingList
        (pendingNodes ++ timerNodes.takeWhile (due s now)) := by
  have whole : Ring s.next s.prev .timerList ([] ++ timerNodes) := rings.ring
  have first := whole.after
  rw [getLastD_nil] at first
  unfold processTimeouts
  rw [first]
  exact expire_spec now (count + 1) s pendingNodes rings (lt_succ_of_le (timers_length rings))

/-- The walk of `ril_timer_add` ends at the first timer that is not earlier. -/
theorem place_spec (ev : Node count) {back : List (Node count)} :
    ∀ (fuel : Nat) (front : List (Node count)),
      Ring s.next s.prev .timerList (front ++ back) → back.length < fuel →
      place s ev fuel (back.headD .timerList) =
        some ((back.dropWhile (due s (s.timeout ev))).headD .timerList) := by
  induction back with
  | nil =>
    intro fuel front ring enough
    obtain ⟨fuel, rfl⟩ := exists_eq_succ_of_ne_zero (ne_of_gt enough)
    simp [place]
  | cons node rest ih =>
    intro fuel front ring enough
    obtain ⟨fuel, rfl⟩ := exists_eq_succ_of_ne_zero (ne_of_gt (zero_lt_of_lt enough))
    have after := ring.remove.1
    have other : node ≠ .timerList := by
      rintro rfl
      simpa using ring.nodup
    rw [append_cons] at ring
    have later := ih fuel (front ++ [node]) ring (lt_of_succ_lt_succ enough)
    rw [headD_cons, place]
    by_cases early : due s (s.timeout ev) node = true
    · rw [if_pos ⟨early, other⟩, after, dropWhile_cons_of_pos early]
      exact later
    · rw [if_neg fun both => early both.1, dropWhile_cons_of_neg early]
      rfl

def dated (s : Loop count) (ev : Node count) (timeout : Timeval) : Loop count :=
  { s with
    fd := update s.fd ev (-1)
    timeout := update s.timeout ev timeout }

def insertTimer (s : Loop count) (ev : Node count) (timeout : Timeval) (nodes : List (Node count)) :
    List (Node count) :=
  nodes.takeWhile (due s timeout) ++ ev :: nodes.dropWhile (due s timeout)

theorem mem_insertTimer {ev other : Node count} {timeout : Timeval} {nodes : List (Node count)} :
    other ∈ insertTimer s ev timeout nodes ↔ other = ev ∨ other ∈ nodes := by
  have parts := congrArg (other ∈ ·) (takeWhile_append_dropWhile (p := due s timeout) (l := nodes))
  simp only [mem_append, eq_iff_iff] at parts
  rw [insertTimer, mem_append, mem_cons, ← parts]
  tauto

theorem rilTimerAdd_spec {ev : Fin count} (now tv : Timeval)
    (rings : TwoRings s.next s.prev .timerList timerNodes .pendingList pendingNodes)
    (new : .event ev ∉ timerNodes) (idle : .event ev ∉ pendingNodes) :
    let s' := dated s (.event ev) (timeradd now tv)
    ∃ next prev, rilTimerAdd s (.event ev) now (some tv) =
        some { s' with next := next, prev := prev } ∧
      TwoRings next prev .timerList (insertTimer s' (.event ev) (timeradd now tv) timerNodes)
        .pendingList pendingNodes := by
  intro s'
  have whole : Ring s'.next s'.prev .timerList ([] ++ timerNodes) := rings.ring
  have first : s.next .timerList = some (timerNodes.headD .timerList) := whole.after
  have walked := place_spec (.event ev) (count + 1) [] whole (lt_succ_of_le (timers_length rings))
  rw [show s'.timeout (.event ev) = timeradd now tv from update_self _ _ _] at walked
  have parts := takeWhile_append_dropWhile (p := due s' (timeradd now tv)) (l := timerNodes)
  have parted : TwoRings s'.next s'.prev .timerList _ .pendingList pendingNodes := parts.symm ▸ rings
  have outside : .event ev ∉ .pendingList :: pendingNodes := by simpa using idle
  obtain ⟨next, prev, added, longer⟩ := addToList_rings parted (by rw [parts]; simpa using new) outside
  refine ⟨next, prev, ?_, longer⟩
  rw [rilTimerAdd, first]
  change (place s' (.event ev) (count + 1) _).bind (addToList s' (.event ev)) = _
  rw [walked]
  exact added

structure Gathered (timerNodes pendingNodes more : List (Node count)) (s s' : Loop count) : Prop where
  rings : TwoRings s'.next s'.prev .timerList timerNodes .pendingList (pendingNodes ++ more)
  table : TableKept s' timerNodes
  phase : s'.phase = s.phase
  fewer : ∀ i ev, s'.watchTable i = some ev → s.watchTable i = some ev
  ready : ∀ ev ∈ more, ∃ i, s.watchTable i = some ev

theorem Gathered.nothing
    (rings : TwoRings s.next s.prev .timerList timerNodes .pendingList pendingNodes)
    (table : TableKept s timerNodes) : Gathered timerNodes pendingNodes [] s s := by
  refine ⟨?_, table, rfl, fun _ _ same => same, ?_⟩
  · rw [append_nil]
    exact rings
  · intro ev none
    cases none

theorem Gathered.cons {s middle s' : Loop count} {more : List (Node count)} {rev : Node count} {i : Int}
    (later : Gathered timerNodes (pendingNodes ++ [rev]) more middle s')
    (here : s.watchTable i = some rev) (phase : middle.phase = s.phase)
    (fewer : ∀ j ev, middle.watchTable j = some ev → s.watchTable j = some ev) :
    Gathered timerNodes pendingNodes (rev :: more) s s' := by
  refine ⟨?_, later.table, later.phase.trans phase, ?_, ?_⟩
  · rw [append_cons]
    exact later.rings
  · intro j ev entry
    exact fewer j ev (later.fewer j ev entry)
  · intro ev member
    rcases mem_cons.mp member with rfl | member
    · exact ⟨i, here⟩
    · obtain ⟨j, entry⟩ := later.ready ev member
      exact ⟨j, fewer j ev entry⟩

theorem readReadies_spec (rfds : Int → Bool) {indices : List Int} :
    ∀ (n : Int) (s : Loop count) (pendingNodes : List (Node count)), indices.Nodup →
      TwoRings s.next s.prev .timerList timerNodes .pendingList pendingNodes →
      TableKept s timerNodes →
      (∀ i ∈ indices, ∀ ev, s.watchTable i = some ev → ev ∉ pendingNodes) →
      ∃ more s', readReadies rfds indices n s = some s' ∧
        Gathered timerNodes pendingNodes more s s' := by
  induction indices with
  | nil =>
    intro n s pendingNodes _ rings table _
    exact ⟨[], s, rfl, Gathered.nothing rings table⟩
  | cons i rest ih =>
    intro n s pendingNodes nodup rings table fresh
    obtain ⟨apart, nodup⟩ := nodup_cons.mp nodup
    have later : ∀ j ∈ rest, ∀ ev, s.watchTable j = some ev → ev ∉ pendingNodes :=
      fun j member => fresh j (mem_cons_of_mem _ member)
    rw [readReadies]
    by_cases some_left : n > 0
    · rw [if_pos some_left]
      cases here : s.watchTable i with
      | none => exact ih n s pendingNodes nodup rings table later
      | some rev =>
        obtain ⟨_, indexed, ⟨address, events⟩, out⟩ := table i rev here
        dsimp only
        by_cases ready : rfds (s.fd rev) = true
        · rw [if_pos ready]
          have new : rev ∉ .pendingList :: pendingNodes :=
            not_mem_cons_of_ne_of_not_mem (events ▸ nofun) (fresh i mem_cons_self rev here)
          have outside : rev ∉ .timerList :: timerNodes :=
            not_mem_cons_of_ne_of_not_mem (events ▸ nofun) out
          obtain ⟨next, prev, added, longer⟩ := pend_rings rings new outside
          rw [added]
          dsimp only [bind_eq_bind, bind_some]
          -- an event stands in the table once, so the later entries are others
          have others : ∀ j ∈ rest, ∀ ev, s.watchTable j = some ev → ev ∉ pendingNodes ++ [rev] := by
            intro j member ev entry
            rw [mem_append, mem_singleton]
            rintro (old | rfl)
            · exact later j member ev entry old
            · rw [← (table j ev entry).2.1, indexed] at member
              exact apart member
          split_ifs with keeps
          · obtain ⟨more, s', runs, gathered⟩ :=
              ih (n - 1) (removeWatch { s with next := next, prev := prev } rev i)
                (pendingNodes ++ [rev]) nodup (by simpa using longer)
                (removeWatch_table table indexed)
                (fun j member ev entry => others j member ev (removeWatch_entry entry).2)
            exact ⟨rev :: more, s', runs, gathered.cons here (by simp)
              fun j ev entry => (removeWatch_entry entry).2⟩
          · obtain ⟨more, s', runs, gathered⟩ :=
              ih (n - 1) { s with next := next, prev := prev } (pendingNodes ++ [rev]) nodup
                longer table others
            exact ⟨rev :: more, s', runs, gathered.cons here rfl fun j ev entry => entry⟩
        · rw [if_neg ready]
          exact ih n s pendingNodes nodup rings table later
    · rw [if_neg some_left]
      exact ⟨[], s, rfl, Gathered.nothing rings table⟩

end EventLists
