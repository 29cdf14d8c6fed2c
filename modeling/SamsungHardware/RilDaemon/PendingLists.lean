import SamsungHardware.RilDaemon.PendingRequests

/- The pending lists against the requests that were added and not yet removed. -/
namespace PendingLists
open StepRuns LinkedLists PendingRequests Function Prod
open List (count_append count_cons map_cons mem_append_left mem_cons mem_map_of_mem nodup_cons perm_middle)

section

variable (build : Build)

/-- The block of a request as addRequestToList has filled it, with an entry of the tables. -/
structure Holds (info : RequestInfo) (request : Request) : Prop where
  token : info.token = request.serial
  socketId : info.socketId = request.slotId
  command : ∃ command, build.commandInfo request.request = some command ∧ info.pCI = some command
  global : info.isLocal = 0
  active : info.cancelled = 0

def cells (s : Ril) (hook : Hook) : List Nat :=
  (s.pending.filter fun entry => build.addHook entry.2.slotId = hook).map Prod.fst

def origin (call : Call) : Int × Int × Option CommandInfo :=
  (call.socketId, call.token, some call.command)

def ownCall (request : Request) : Int × Int × Option CommandInfo :=
  (request.slotId, request.serial, build.commandInfo request.request)

/-- Each list holds the pending requests of its socket, every search of it ends, and every request
    removed so far has had one call of its own or waits for it. No call went to NULL. -/
structure Consistent (s : Ril) : Prop where
  lists : ∀ hook, Chain s.next (s.heads hook) (cells build s hook)
  ends : ∀ hook address, s.search hook address ≠ .running
  distinct : (s.pending.map Prod.fst).Nodup
  own : ∀ entry ∈ s.pending, Holds build (s.heap entry.1) entry.2
  answers : (s.calls.map origin ++ s.dequeued.map fun c => ownCall build c.request).Perm
    (s.completed.map (ownCall build))
  alive : s.crashed = false

def owned (s : Ril) : List Nat :=
  s.pending.map Prod.fst ++ (s.adding.map Adding.address ++
    (s.dequeued.map Completing.address ++ s.answered))

structure Kept (s : Ril) : Prop where
  lists : ∀ hook, Chain s.next (s.heads hook) (cells build s hook)
  nodup : (owned s).Nodup
  within : ∀ address ∈ owned s, address ∈ s.allocated
  own : ∀ entry ∈ s.pending, Holds build (s.heap entry.1) entry.2
  adding : ∀ add ∈ s.adding, Holds build (s.heap add.address) add.request ∧
    add.hook = build.addHook add.request.slotId
  searching : ∀ c ∈ s.searching, (c.address, c.request) ∈ s.pending ∧
    c.hook = build.addHook c.request.slotId
  single : (s.searching.map Completing.address).Nodup
  dequeued : ∀ c ∈ s.dequeued, Holds build (s.heap c.address) c.request
  answers : (s.calls.map origin ++ s.dequeued.map fun c => ownCall build c.request).Perm
    (s.completed.map (ownCall build))
  alive : s.crashed = false

end

variable {build : Build} {s : Ril} {address : Nat} {request : Request}

theorem dequeueHook_eq_addHook (socketId : Int) :
    build.dequeueHook socketId = build.addHook socketId := by
  unfold Build.dequeueHook Build.addHook
  by_cases two : 2 ≤ build.simCount ∧ socketId = 1
  · simp [two]
  · by_cases three : 3 ≤ build.simCount ∧ socketId = 2
    · simp [three]
    · simp [two, three]

theorem addHook_socket {socketId : Int} (known : 0 ≤ socketId ∧ socketId < build.simCount) :
    socketId = 0 ∧ build.addHook socketId = .socket1 ∨
      socketId = 1 ∧ build.addHook socketId = .socket2 ∨
      socketId = 2 ∧ build.addHook socketId = .socket3 ∨
      socketId = 3 ∧ build.addHook socketId = .socket4 := by
  have sockets := build.sockets
  unfold Build.addHook
  split
  · exact .inr (.inl ⟨by omega, rfl⟩)
  · split
    · exact .inr (.inr (.inl ⟨by omega, rfl⟩))
    · split
      · exact .inr (.inr (.inr ⟨by omega, rfl⟩))
      · exact .inl ⟨by omega, rfl⟩

theorem addHook_injective {socketId other : Int}
    (known : 0 ≤ socketId ∧ socketId < build.simCount) (known' : 0 ≤ other ∧ other < build.simCount)
    (same : build.addHook socketId = build.addHook other) : socketId = other := by
  rcases addHook_socket known with ⟨rfl, hook⟩ | ⟨rfl, hook⟩ | ⟨rfl, hook⟩ | ⟨rfl, hook⟩ <;>
    rcases addHook_socket known' with ⟨rfl, hook'⟩ | ⟨rfl, hook'⟩ | ⟨rfl, hook'⟩ | ⟨rfl, hook'⟩ <;>
    first | rfl | (rw [hook, hook'] at same; cases same)

theorem perm_of_getElem? {Item : Type} {items : List Item} {i : Nat} {item : Item}
    (found : items[i]? = some item) : items.Perm (item :: items.eraseIdx i) := by
  obtain ⟨less, rfl⟩ := List.getElem?_eq_some_iff.mp found
  exact (List.getElem_cons_eraseIdx_perm less).symm

theorem entry_unique (nodup : (s.pending.map fst).Nodup) {r r' : Request}
    (first : (address, r) ∈ s.pending) (second : (address, r') ∈ s.pending) : r = r' := by
  have same := List.inj_on_of_nodup_map nodup first second rfl
  exact congrArg snd same

theorem mem_cells {hook : Hook} :
    address ∈ cells build s hook ↔
      ∃ r, (address, r) ∈ s.pending ∧ build.addHook r.slotId = hook := by
  unfold cells
  simp

theorem cells_nodup (nodup : (s.pending.map fst).Nodup) (hook : Hook) :
    (cells build s hook).Nodup :=
  nodup.sublist (List.filter_sublist.map _)

theorem cells_disjoint (nodup : (s.pending.map fst).Nodup) {hook hook' : Hook}
    (first : address ∈ cells build s hook) (second : address ∈ cells build s hook') :
    hook = hook' := by
  obtain ⟨r, member, rfl⟩ := mem_cells.mp first
  obtain ⟨r', member', rfl⟩ := mem_cells.mp second
  rw [entry_unique nodup member member']

theorem Kept.distinct (kept : Kept build s) : (s.pending.map fst).Nodup :=
  kept.nodup.of_append_left

theorem setNext_next (address : Nat) (link : Option Nat) :
    (s.setNext address link).next = update s.next address link := by
  funext other
  by_cases same : other = address
  · subst same
    simp [Ril.next, Ril.setNext]
  · simp [Ril.next, Ril.setNext, same]

theorem Holds.update {address other : Nat} {info : RequestInfo}
    (keeps : ∀ r, Holds build (s.heap address) r → Holds build info r)
    (holds : Holds build (s.heap other) request) :
    Holds build (update s.heap address info other) request := by
  by_cases same : other = address
  · subst same
    rw [update_self]
    exact keeps request holds
  · rw [update_of_ne same]
    exact holds

theorem Holds.setNext {address other : Nat} {link : Option Nat}
    (holds : Holds build (s.heap other) request) :
    Holds build ((s.setNext address link).heap other) request :=
  holds.update fun _ held => { held with }

theorem Kept.search_eq (kept : Kept build s) (hook : Hook) (address : Nat) :
    s.search hook address = searched address none (cells build s hook) := by
  apply seek_chain _ _ (kept.lists hook)
  have few : (cells build s hook).length ≤ (s.pending.map fst).length :=
    (List.filter_sublist.map _).length_le
  have all : (owned s).length ≤ s.allocated.length :=
    (List.subperm_of_subset kept.nodup kept.within).length_le
  have part : (s.pending.map fst).length ≤ (owned s).length := by
    simp [owned]
  omega

theorem searched_ends (address : Nat) (list : List Nat) (previous : Option Nat) :
    searched address previous list ≠ .running := by
  by_cases member : address ∈ list
  · rcases searched_found member previous with ⟨_, _, found⟩ | ⟨_, _, _, _, found⟩ <;>
      rw [found] <;> simp
  · rw [searched_absent member]
    simp

theorem Kept.consistent (kept : Kept build s) : Consistent build s := by
  refine ⟨kept.lists, fun hook address => ?_, kept.distinct, kept.own, kept.answers,
    kept.alive⟩
  rw [kept.search_eq]
  exact searched_ends _ _ _

section

theorem Kept.start (heap : Nat → RequestInfo) : Kept build (Ril.start heap) :=
  ⟨fun _ => rfl, List.nodup_nil, fun _ member => (by cases member), fun _ member => (by cases member),
    fun _ member => (by cases member), fun _ member => (by cases member), List.nodup_nil,
    fun _ member => (by cases member), List.Perm.refl _, rfl⟩

theorem pending_owned {entry : Nat × Request} (member : entry ∈ s.pending) : entry.1 ∈ owned s :=
  mem_append_left _ (mem_map_of_mem member)

theorem adding_owned {add : Adding} (member : add ∈ s.adding) : add.address ∈ owned s :=
  List.mem_append_right _ (mem_append_left _ (mem_map_of_mem member))

theorem dequeued_owned {c : Completing} (member : c ∈ s.dequeued) : c.address ∈ owned s :=
  List.mem_append_right _ (List.mem_append_right _
    (mem_append_left _ (mem_map_of_mem member)))

variable {hook : Hook}

theorem cell_owned (member : address ∈ cells build s hook) : address ∈ owned s := by
  obtain ⟨r, pending, _⟩ := mem_cells.mp member
  exact pending_owned pending

variable (kept : Kept build s)
include kept

theorem Kept.allocate (address : Nat) (request : Request)
    (listed : (build.commandInfo request.request).isSome = true) :
    Kept build (s.allocate build address request) := by
  unfold Ril.allocate
  split
  · exact kept
  · rename_i fresh
    obtain ⟨command, entry⟩ := Option.isSome_iff_exists.mp listed
    have old : ∀ other ∈ owned s, ∀ info,
        update s.heap address info other = s.heap other := by
      intro other member info
      refine update_of_ne ?_ _ _
      rintro rfl
      exact fresh (kept.within other member)
    refine ⟨fun hook => ?_, ?_, ?_, fun e member => ?_, fun add member => ?_, kept.searching,
      kept.single, fun c member => ?_, kept.answers, kept.alive⟩
    · refine (kept.lists hook).congr fun cell member => ?_
      exact congrArg RequestInfo.pNext (old cell (cell_owned member) _)
    · refine (perm_middle.nodup_iff).mpr (nodup_cons.mpr ⟨fun member => ?_, kept.nodup⟩)
      exact fresh (kept.within address member)
    · intro other member
      rcases mem_cons.mp (perm_middle.mem_iff.mp member) with rfl | earlier
      · exact List.mem_cons_self
      · exact List.mem_cons_of_mem _ (kept.within other earlier)
    · change Holds build (update s.heap address _ e.1) e.2
      rw [old e.1 (pending_owned member)]
      exact kept.own e member
    · rcases mem_cons.mp member with rfl | earlier
      · change Holds build (update s.heap address _ address) request ∧ _
        rw [update_self]
        exact ⟨⟨rfl, rfl, ⟨command, entry, entry⟩, rfl, rfl⟩, rfl⟩
      · change Holds build (update s.heap address _ add.address) add.request ∧ _
        rw [old add.address (adding_owned earlier)]
        exact kept.adding add earlier
    · change Holds build (update s.heap address _ c.address) c.request
      rw [old c.address (dequeued_owned member)]
      exact kept.dequeued c member

omit kept in
theorem cells_push (add : Nat) (request : Request) (hook : Hook) :
    cells build { s with pending := (add, request) :: s.pending } hook =
      if build.addHook request.slotId = hook then add :: cells build s hook
      else cells build s hook := by
  unfold cells
  rw [List.filter_cons]
  split
  · rename_i same
    rw [if_pos (by simpa using same)]
    rfl
  · rename_i other
    rw [if_neg (by simpa using other)]

variable (i : Nat)

theorem Kept.push : Kept build (s.push i) := by
  unfold Ril.push
  split
  · exact kept
  · rename_i add found
    have perm := perm_of_getElem? found
    have member : add ∈ s.adding := List.mem_of_getElem? found
    obtain ⟨holds, hooked⟩ := kept.adding add member
    have moved : (owned s).Perm (add.address :: (s.pending.map fst ++
        ((s.adding.eraseIdx i).map Adding.address ++
          (s.dequeued.map Completing.address ++ s.answered)))) := by
      refine List.Perm.trans ?_ perm_middle
      exact ((perm.map Adding.address).append_right _).append_left _
    have nodup := moved.nodup_iff.mp kept.nodup
    have outside : ∀ hook, add.address ∉ cells build s hook := by
      intro hook inside
      obtain ⟨r, pending, _⟩ := mem_cells.mp inside
      exact (nodup_cons.mp nodup).1 (mem_append_left _ (mem_map_of_mem pending))
    refine ⟨fun hook => ?_, nodup, fun other member => ?_, fun e member => ?_, fun a member => ?_,
      fun c member => ?_, kept.single, fun c member => (kept.dequeued c member).setNext,
      kept.answers, kept.alive⟩
    · have chain := kept.lists hook
      have linked : ∀ head cells', Chain (update s.next add.address (s.heads add.hook)) head
          cells' → Chain (s.setNext add.address (s.heads add.hook)).next head cells' := by
        intro head cells' chain
        rw [setNext_next]
        exact chain
      apply linked
      change Chain _ (update s.heads add.hook (some add.address) hook)
        (cells build { s with pending := (add.address, add.request) :: s.pending } hook)
      rw [cells_push, ← hooked]
      by_cases same : add.hook = hook
      · subst same
        rw [if_pos rfl, update_self]
        exact chain.push (outside _)
      · rw [if_neg same, update_of_ne (Ne.symm same)]
        exact chain.update (outside hook) _
    · exact kept.within other (moved.mem_iff.mpr member)
    · rcases mem_cons.mp member with rfl | earlier
      · exact holds.setNext
      · exact (kept.own e earlier).setNext
    · obtain ⟨held, hook⟩ := kept.adding a ((List.eraseIdx_subset) member)
      exact ⟨held.setNext, hook⟩
    · obtain ⟨pending, hook⟩ := kept.searching c member
      exact ⟨List.mem_cons_of_mem _ pending, hook⟩

theorem Kept.complete (address : Nat) (error : Int) :
    Kept build (s.complete build address error) := by
  unfold Ril.complete
  split
  · exact kept
  · rename_i entry found
    have member := List.mem_of_find?_eq_some found
    have same : entry.1 = address := by simpa using List.find?_some found
    split
    · exact kept
    · rename_i free
      have holds := kept.own entry member
      rw [same] at holds
      refine { kept with searching := fun c started => ?_, single := ?_ }
      · rcases mem_cons.mp started with rfl | earlier
        · refine ⟨?_, ?_⟩
          · rw [← same]
            exact member
          · change build.dequeueHook (s.heap address).socketId = build.addHook entry.2.slotId
            rw [dequeueHook_eq_addHook, holds.socketId]
        · exact kept.searching c earlier
      · refine nodup_cons.mpr ⟨fun again => free ?_, kept.single⟩
        obtain ⟨c, earlier, at_address⟩ := List.mem_map.mp again
        exact List.any_eq_true.mpr ⟨c, earlier, by simpa using at_address⟩

omit kept in
theorem cells_remove (address : Nat) (hook : Hook) :
    cells build { s with pending := s.pending.filter fun entry => entry.1 ≠ address } hook =
      (cells build s hook).filter fun cell => cell ≠ address := by
  unfold cells
  rw [List.filter_map, List.filter_filter, List.filter_filter]
  congr 1
  apply List.filter_congr
  intro entry _
  simp [Bool.and_comm]

omit kept in
theorem filter_ne_self {list : List Nat} (outside : address ∉ list) :
    (list.filter fun cell => cell ≠ address) = list := by
  apply List.filter_eq_self.mpr
  intro cell member
  simp only [ne_eq, decide_not, Bool.not_eq_true', decide_eq_false_iff_not]
  rintro rfl
  exact outside member

omit kept in
theorem filter_ne_middle {before after : List Nat} (nodup : (before ++ address :: after).Nodup) :
    ((before ++ address :: after).filter fun cell => cell ≠ address) = before ++ after := by
  have distinct := nodup_cons.mp (perm_middle.nodup_iff.mp nodup)
  have outside : address ∉ before ++ after := distinct.1
  rw [List.mem_append, not_or] at outside
  rw [List.filter_append, List.filter_cons_of_neg (by simp), filter_ne_self outside.1,
    filter_ne_self outside.2]

theorem Kept.unlink (pending : (address, request) ∈ s.pending) :
    ∃ previous, s.search (build.addHook request.slotId) address = .found previous ∧
      ∀ hook, Chain (s.unlink (build.addHook request.slotId) previous address).next
        ((s.unlink (build.addHook request.slotId) previous address).heads hook)
        ((cells build s hook).filter fun cell => cell ≠ address) := by
  obtain ⟨own, eq⟩ : ∃ own, own = build.addHook request.slotId := ⟨_, rfl⟩
  have inside : address ∈ cells build s own := mem_cells.mpr ⟨request, pending, eq.symm⟩
  have nodup : (cells build s own).Nodup := cells_nodup kept.distinct own
  have elsewhere : ∀ hook cell, hook ≠ own → cell ∈ cells build s own →
      cell ∉ cells build s hook := by
    intro hook cell other member again
    exact other (cells_disjoint kept.distinct again member)
  rw [← eq, kept.search_eq]
  rcases searched_found inside none with ⟨after, split, found⟩ | ⟨before, cell, after, split, found⟩
  · refine ⟨none, found, fun hook => ?_⟩
    change Chain s.next (update s.heads own (s.next address) hook) _
    by_cases same : hook = own
    · subst same
      have chain := kept.lists hook
      rw [split] at chain nodup ⊢
      rw [update_self, ← List.nil_append (address :: after), filter_ne_middle nodup]
      exact chain.2
    · rw [update_of_ne same, filter_ne_self (elsewhere hook address same inside)]
      exact kept.lists hook
  · refine ⟨some cell, found, fun hook => ?_⟩
    change Chain (s.setNext cell (s.next address)).next (s.heads hook) _
    rw [setNext_next]
    by_cases same : hook = own
    · subst same
      have chain := kept.lists hook
      rw [split] at chain nodup ⊢
      have shape : before ++ cell :: address :: after = (before ++ [cell]) ++ address :: after := by
        simp
      have kept_cells : ((before ++ cell :: address :: after).filter fun x => x ≠ address) =
          before ++ cell :: after := by
        rw [shape, filter_ne_middle (shape ▸ nodup), List.append_assoc]
        rfl
      rw [kept_cells]
      exact chain.unlink nodup
    · have member : cell ∈ cells build s own := by
        rw [split]
        simp
      rw [filter_ne_self (elsewhere hook address same inside)]
      exact (kept.lists hook).update (elsewhere hook cell same member) _

omit kept in
theorem unlink_holds {previous : Option Nat} {address other : Nat}
    (holds : Holds build (s.heap other) request) :
    Holds build ((s.unlink hook previous address).heap other) request := by
  cases previous with
  | none => exact holds
  | some cell => exact holds.setNext

omit kept in
theorem pending_remove (nodup : (s.pending.map fst).Nodup)
    (member : (address, request) ∈ s.pending) :
    (s.pending.map fst).Perm
      (address :: (s.pending.filter fun entry => entry.1 ≠ address).map fst) := by
  obtain ⟨before, after, split⟩ := List.append_of_mem member
  have apart : (s.pending.filter fun entry => entry.1 ≠ address).map fst =
      (s.pending.map fst).filter fun cell => cell ≠ address := by
    rw [List.filter_map]
    rfl
  rw [apart]
  rw [split, List.map_append, map_cons] at nodup ⊢
  rw [filter_ne_middle nodup]
  exact perm_middle

theorem Kept.dequeue : Kept build (s.dequeue i) := by
  unfold Ril.dequeue
  split
  · exact kept
  · rename_i c found
    have perm := perm_of_getElem? found
    have member : c ∈ s.searching := List.mem_of_getElem? found
    obtain ⟨pending, hooked⟩ := kept.searching c member
    obtain ⟨previous, search, chains⟩ := kept.unlink pending
    rw [hooked, search]
    dsimp only
    have single := (perm.map Completing.address).nodup_iff.mp kept.single
    have moved : (owned s).Perm ((s.pending.filter fun entry => entry.1 ≠ c.address).map fst ++
        (s.adding.map Adding.address ++
          (c.address :: s.dequeued.map Completing.address ++ s.answered))) := by
      rw [List.perm_iff_count]
      intro x
      have counts := (pending_remove kept.distinct pending).count_eq x
      simp only [owned, count_append, count_cons, List.cons_append] at counts ⊢
      omega
    -- only the heads and the links change by the removal itself
    have unlinked : Ril.unlink
        { s with
          searching := s.searching.eraseIdx i
          pending := s.pending.filter fun entry => entry.1 ≠ c.address
          completed := c.request :: s.completed } (build.addHook c.request.slotId) previous c.address =
        { s with
          heap := (s.unlink (build.addHook c.request.slotId) previous c.address).heap
          heads := (s.unlink (build.addHook c.request.slotId) previous c.address).heads
          searching := s.searching.eraseIdx i
          pending := s.pending.filter fun entry => entry.1 ≠ c.address
          completed := c.request :: s.completed } := by
      cases previous <;> rfl
    rw [unlinked]
    refine ⟨fun hook => ?_, moved.nodup_iff.mp kept.nodup, fun other inside => ?_, fun e inside => ?_,
      fun add inside => ?_, fun c' inside => ?_, (nodup_cons.mp single).2, fun c' inside => ?_,
      ?_, kept.alive⟩
    · have chain := chains hook
      rw [← cells_remove] at chain
      exact chain
    · exact kept.within other (moved.mem_iff.mpr inside)
    · exact unlink_holds (kept.own e (List.mem_of_mem_filter inside))
    · obtain ⟨holds, hook⟩ := kept.adding add inside
      exact ⟨unlink_holds holds, hook⟩
    · obtain ⟨pending', hook⟩ := kept.searching c' (List.eraseIdx_subset inside)
      refine ⟨List.mem_filter.mpr ⟨pending', ?_⟩, hook⟩
      have apart : c'.address ≠ c.address := by
        intro same
        have again := mem_map_of_mem (f := Completing.address) inside
        rw [same] at again
        exact (nodup_cons.mp single).1 again
      simpa using apart
    · rcases mem_cons.mp inside with rfl | earlier
      · exact unlink_holds (kept.own _ pending)
      · exact unlink_holds (kept.dequeued c' earlier)
    · exact perm_middle.trans (kept.answers.cons _)

omit kept in
/-- The command of a request that is answered has a response function. -/
def Callable (build : Build) (s : Ril) : Event → Prop
  | .respond i => ∀ c ∈ s.dequeued[i]?, ∀ command ∈ build.commandInfo c.request.request,
    command.responseFunction.isSome = true
  | _ => True

omit kept in
instance (build : Build) (s : Ril) : ∀ event, Decidable (Callable build s event)
  | .respond i => inferInstanceAs (Decidable (∀ c ∈ s.dequeued[i]?, ∀ command ∈ _, _ = true))
  | .allocate _ _ | .push _ | .complete _ _ | .dequeue _ | .free _ | .ack _ | .mark _
  | .acknowledge _ => isTrue trivial

theorem Kept.respond (callable : Callable build s (.respond i)) :
    Kept build (s.respond build i) := by
  unfold Ril.respond
  split
  · exact kept
  · rename_i c found
    have perm := perm_of_getElem? found
    have holds := kept.dequeued c (List.mem_of_getElem? found)
    obtain ⟨command, entry, pCI⟩ := holds.command
    have call : origin ⟨(s.heap c.address).socketId, s.responseType build c.address,
        (s.heap c.address).token, c.error, command⟩ = ownCall build c.request := by
      rw [origin, ownCall, holds.socketId, holds.token, entry]
    have function := callable c found command entry
    simp only [holds.global, holds.active, pCI, gt_iff_lt, Int.lt_irrefl, if_false, if_true,
      Option.isNone_eq_false_iff.mpr function, Bool.false_eq_true]
    have moved : (owned s).Perm (s.pending.map fst ++ (s.adding.map Adding.address ++
        ((s.dequeued.eraseIdx i).map Completing.address ++ c.address :: s.answered))) := by
      rw [List.perm_iff_count]
      intro x
      have counts := (perm.map Completing.address).count_eq x
      simp only [owned, count_append, count_cons, map_cons] at counts ⊢
      omega
    have nodup := moved.nodup_iff.mp kept.nodup
    refine { kept with nodup := nodup, within := ?_, dequeued := ?_, answers := ?_ }
    · intro other inside
      exact kept.within other (moved.mem_iff.mpr inside)
    · intro c' inside
      exact kept.dequeued c' (List.eraseIdx_subset inside)
    · refine List.Perm.trans ?_ kept.answers
      have answered := perm.map fun c => ownCall build c.request
      change (origin _ :: s.calls.map origin ++ _).Perm _
      rw [call]
      refine List.Perm.trans ?_ (answered.symm.append_left _)
      exact perm_middle.symm

theorem Kept.crashes (null : ¬ Callable build s (.respond i)) :
    (s.respond build i).crashed = true := by
  rw [Callable] at null
  push Not at null
  obtain ⟨c, found, command, entry, missing⟩ := null
  have holds := kept.dequeued c (List.mem_of_getElem? found)
  obtain ⟨own, same, pCI⟩ := holds.command
  obtain rfl : own = command := Option.some.inj (same.symm.trans entry)
  have null : own.responseFunction = none := by simpa using missing
  rw [Ril.respond, found]
  simp [holds.global, holds.active, pCI, null]

theorem Kept.free : Kept build (s.free i) := by
  unfold Ril.free
  split
  · exact kept
  · rename_i address found
    have perm := perm_of_getElem? found
    have moved : (owned s).Perm (address :: (s.pending.map fst ++ (s.adding.map Adding.address ++
        (s.dequeued.map Completing.address ++ s.answered.eraseIdx i)))) := by
      rw [List.perm_iff_count]
      intro x
      have counts := perm.count_eq x
      simp only [owned, count_append, count_cons] at counts ⊢
      omega
    have nodup := nodup_cons.mp (moved.nodup_iff.mp kept.nodup)
    refine { kept with nodup := nodup.2, within := ?_ }
    intro other inside
    refine List.mem_filter.mpr ⟨kept.within other (moved.mem_iff.mpr (.tail _ inside)), ?_⟩
    simp only [ne_eq, decide_not, Bool.not_eq_true', decide_eq_false_iff_not]
    rintro rfl
    exact nodup.1 inside

theorem Kept.marked (address : Nat) (acking : List Acking) :
    Kept build { s with
      heap := update s.heap address { s.heap address with wasAckSent := 1 }
      acking := acking } := by
  have keeps : ∀ r, Holds build (s.heap address) r →
      Holds build { s.heap address with wasAckSent := 1 } r :=
    fun r held => { held with }
  have links : ∀ other, (update s.heap address
      { s.heap address with wasAckSent := 1 } other).pNext = s.next other := by
    intro other
    by_cases same : other = address
    · subst same
      rw [update_self]
      rfl
    · rw [update_of_ne same]
      rfl
  refine { kept with lists := ?_, own := ?_, adding := ?_, dequeued := ?_ }
  · intro hook
    exact (kept.lists hook).congr fun cell _ => links cell
  · intro entry member
    exact (kept.own entry member).update keeps
  · intro add member
    obtain ⟨holds, hook⟩ := kept.adding add member
    exact ⟨holds.update keeps, hook⟩
  · intro c member
    exact (kept.dequeued c member).update keeps

theorem Kept.acking (acking : List Acking) (acknowledged : List (Int × Int)) :
    Kept build { s with acking := acking, acknowledged := acknowledged } :=
  { kept with }

theorem Kept.mark : Kept build (s.mark i) := by
  unfold Ril.mark
  split
  · exact kept
  · split
    · exact kept
    · split
      · exact kept.marked _ _
      · exact kept.acking _ _
      · exact kept

theorem Kept.acknowledge : Kept build (s.acknowledge i) := by
  unfold Ril.acknowledge
  split
  · exact kept
  · split
    · exact kept.acking _ _
    · exact kept

omit kept in
def Listed (build : Build) : Event → Prop
  | .allocate _ request => (build.commandInfo request.request).isSome = true
  | _ => True

omit kept in
instance (build : Build) : ∀ event, Decidable (Listed build event)
  | .allocate _ _ => inferInstanceAs (Decidable (_ = true))
  | .push _ | .complete _ _ | .dequeue _ | .respond _ | .free _ | .ack _ | .mark _
  | .acknowledge _ => isTrue trivial

theorem Kept.step (event : Event) (listed : Listed build event)
    (callable : Callable build s event) : Kept build (step build s event) := by
  cases event with
  | allocate address request => exact kept.allocate address request listed
  | push i => exact kept.push i
  | complete address error => exact kept.complete address error
  | dequeue i => exact kept.dequeue i
  | respond i => exact kept.respond i callable
  | free i => exact kept.free i
  | ack address => exact kept.acking _ _
  | mark i => exact kept.mark i
  | acknowledge i => exact kept.acknowledge i

end

section

variable (build : Build)

def OfAck : Event → Prop
  | .ack _ | .mark _ | .acknowledge _ => True
  | _ => False

structure Keeps (s t : Ril) : Prop where
  heads : t.heads = s.heads
  links : t.next = s.next
  pending : t.pending = s.pending
  calls : t.calls = s.calls

theorem keeps_of_ack (s : Ril) (event : Event) (ofAck : OfAck event) :
    Keeps s (step build s event) := by
  cases event with
  | ack address => exact ⟨rfl, rfl, rfl, rfl⟩
  | mark i =>
    change Keeps s (s.mark i)
    unfold Ril.mark
    split
    · exact ⟨rfl, rfl, rfl, rfl⟩
    · split
      · exact ⟨rfl, rfl, rfl, rfl⟩
      · split
        · refine ⟨rfl, ?_, rfl, rfl⟩
          funext other
          rename_i a _ _ _ _ _
          by_cases same : other = a.address
          · subst same
            simp [Ril.next]
          · simp [Ril.next, same]
        · exact ⟨rfl, rfl, rfl, rfl⟩
        · exact ⟨rfl, rfl, rfl, rfl⟩
  | acknowledge i =>
    change Keeps s (s.acknowledge i)
    unfold Ril.acknowledge
    split
    · exact ⟨rfl, rfl, rfl, rfl⟩
    · split <;> exact ⟨rfl, rfl, rfl, rfl⟩
  | _ => cases ofAck

end

theorem visits_consistent_iff {heap : Nat → RequestInfo} {events : List Event}
    (listed : ∀ event ∈ events, Listed build event) :
    Visits (step build) (Consistent build) (Ril.start heap) events ↔
      Meets (step build) (Callable build) (Ril.start heap) events := by
  refine visits_iff_meets_within (fun _ kept => kept.consistent)
    (fun _ event kept listed callable => kept.step event listed callable) ?_ events _
    (Kept.start heap) (meets_of_forall events (fun event member _ => listed event member) _)
  intro s event kept _ null consistent
  cases event with
  | respond i =>
    have crashed := kept.crashes i null
    rw [show (s.respond build i).crashed = false from consistent.alive] at crashed
    cases crashed
  | _ => exact null trivial

def twoSims : Build := ⟨2, Nat.le_add_right 2 2, [⟨0, none⟩, ⟨1, some 10⟩, ⟨2, some 20⟩], [], 13⟩

def blank : RequestInfo := ⟨0, none, none, 0, 0, 0, 0⟩

def traffic : List Event :=
  [.allocate 5 ⟨100, 0, 1⟩, .push 0, .allocate 6 ⟨101, 0, 2⟩, .allocate 7 ⟨102, 1, 1⟩, .push 1, .push 0,
    .allocate 8 ⟨103, 0, 1⟩, .push 0, .ack 6, .mark 0, .complete 6 0, .acknowledge 0, .dequeue 0,
    .respond 0, .free 0, .allocate 6 ⟨104, 1, 2⟩, .push 0]

example : (traffic.foldl (step twoSims) (Ril.start fun _ => blank)).calls =
    [⟨0, .solicitedAckExp, 101, 0, ⟨2, some 20⟩⟩] := by
  decide +kernel

/-- The first entry of the table has no response function. -/
def nullEntry : List Event := [.allocate 5 ⟨100, 0, 0⟩, .push 0, .complete 5 0, .dequeue 0, .respond 0]

end PendingLists
