import SamsungHardware.Library.StepRuns

/- Pending requests of a SAP socket: RilSapSocket.cpp and the queue of rilSocketQueue.h. -/
namespace SapRequests
open StepRuns List

/-- A request with its message header; both were allocated for it and have its number. -/
structure Request where
  number : Nat
  (id token : Int)
  deriving DecidableEq

/-- `queue` begins with `front`. `pending` are the requests that were dispatched and not completed, and
    `stale` says that a request was read that had been freed. -/
structure Socket where
  queue : List Request
  (freedRequests freedHeaders : List Nat)
  responses : List (Int × Int)
  stale : Bool
  next : Nat
  (pending completed : List Request)

inductive Event where
  | dispatchRequest (id token : Int)
  | onRequestComplete (t : Nat)

def Request.matches (id token : Int) (r : Request) : Bool := token == r.token && id == r.id

/-- The request that is freed, and the rest of the queue. -/
def checkAndDequeue (id token : Int) (queue : List Request) : Option Request × List Request :=
  (queue.find? (·.matches id token), queue.eraseP (·.matches id token))

/-- The vendor library completes a request only while it is pending. -/
def step (s : Socket) : Event → Socket
  | .dispatchRequest id token =>
    let r := ⟨s.next, id, token⟩
    { s with queue := r :: s.queue, pending := r :: s.pending, next := s.next + 1 }
  | .onRequestComplete t =>
    match s.pending.find? (·.number = t) with
    | none => s
    | some r =>
      let (found, rest) := checkAndDequeue r.id r.token s.queue
      { s with
        queue := rest
        freedRequests := (found.map Request.number).toList ++ s.freedRequests
        freedHeaders := t :: s.freedHeaders
        responses := (r.id, r.token) :: s.responses
        stale := s.stale || decide (t ∈ s.freedRequests)
        pending := s.pending.erase r
        completed := r :: s.completed }

def Socket.start : Socket := ⟨[], [], [], [], false, 0, [], []⟩

/-- Exactly the completed requests are answered and freed, with their headers. -/
structure Right (s : Socket) : Prop where
  queue : s.queue = s.pending
  freedRequests : s.freedRequests = s.completed.map Request.number
  freedHeaders : s.freedHeaders = s.completed.map Request.number
  responses : s.responses = s.completed.map fun r => (r.id, r.token)
  stale : s.stale = false

/-- No newer pending request has the id and the token of the one that is completed. -/
def Newest (s : Socket) : Event → Prop
  | .dispatchRequest _ _ => True
  | .onRequestComplete t => ∀ r, s.pending.find? (·.number = t) = some r →
      s.pending.find? (·.matches r.id r.token) = some r

structure Kept (s : Socket) : Prop where
  right : Right s
  distinct : (s.pending.map Request.number).Nodup
  old : ∀ r ∈ s.pending ++ s.completed, r.number < s.next
  apart : ∀ r ∈ s.pending, r.number ∉ s.completed.map Request.number

theorem matches_self (r : Request) : r.matches r.id r.token = true := by simp [Request.matches]

theorem eraseP_of_find {p : Request → Bool} {r : Request} (l : List Request)
    (first : l.find? p = some r) : l.eraseP p = l.erase r := by
  induction l with
  | nil => cases first
  | cons a rest ih =>
    cases holds : p a with
    | true =>
      rw [find?_cons_of_pos holds] at first
      cases first
      rw [eraseP_cons_of_pos holds, erase_cons_head]
    | false =>
      have other : a ≠ r := by
        rintro rfl
        rw [find?_some first] at holds
        cases holds
      rw [find?_cons_of_neg (by simp [holds])] at first
      rw [eraseP_cons_of_neg (by simp [holds]), ih first, erase_cons_tail (by simpa)]

theorem step_newest {s : Socket} (kept : Kept s) (e : Event) (newest : Newest s e) :
    Kept (step s e) := by
  cases e with
  | dispatchRequest id token =>
    have new : ∀ r ∈ s.pending ++ s.completed, r.number ≠ s.next :=
      fun r member => Nat.ne_of_lt (kept.old r member)
    constructor
    case right =>
      have queue := congrArg (cons ⟨s.next, id, token⟩) kept.right.queue
      exact { kept.right with queue := queue }
    case distinct =>
      refine nodup_cons.mpr ⟨?_, kept.distinct⟩
      intro listed
      obtain ⟨r, member, same⟩ := mem_map.mp listed
      exact new r (mem_append_left _ member) same
    case old =>
      refine forall_mem_cons.mpr ⟨Nat.lt_succ_self _, ?_⟩
      exact fun r member => Nat.lt_succ_of_lt (kept.old r member)
    case apart =>
      refine forall_mem_cons.mpr ⟨?_, kept.apart⟩
      intro listed
      obtain ⟨r, member, same⟩ := mem_map.mp listed
      exact new r (mem_append_right _ member) same
  | onRequestComplete t =>
    rw [step]
    split
    case h_1 => exact kept
    case h_2 r found =>
      have member := mem_of_find?_eq_some found
      have number : r.number = t := by simpa using find?_some found
      have first := newest r found
      have gone : ∀ other ∈ s.pending.erase r, other ∈ s.pending ∧ other.number ≠ t := by
        intro other left
        have nodup := List.Nodup.of_map _ kept.distinct
        obtain ⟨different, there⟩ := nodup.mem_erase_iff.mp left
        refine ⟨there, fun same => different ?_⟩
        exact inj_on_of_nodup_map kept.distinct there member (same.trans number.symm)
      simp only [checkAndDequeue, kept.right.queue, first, eraseP_of_find _ first]
      constructor
      case right =>
        constructor
        case queue => rfl
        case freedRequests =>
          rw [kept.right.freedRequests]
          rfl
        case freedHeaders =>
          rw [kept.right.freedHeaders, ← number]
          rfl
        case responses =>
          rw [kept.right.responses]
          rfl
        case stale =>
          rw [kept.right.stale, kept.right.freedRequests]
          simpa [number] using kept.apart r member
      case distinct => exact kept.distinct.sublist ((erase_sublist).map _)
      case old =>
        intro other listed
        rcases mem_append.mp listed with left | done
        · exact kept.old other (mem_append_left _ (gone other left).1)
        · rcases mem_cons.mp done with rfl | before
          · exact kept.old other (mem_append_left _ member)
          · exact kept.old other (mem_append_right _ before)
      case apart =>
        intro other left
        obtain ⟨there, different⟩ := gone other left
        refine not_mem_cons_of_ne_of_not_mem ?_ (kept.apart other there)
        exact fun same => different (same.trans number)

theorem step_hidden {s : Socket} (kept : Kept s) (e : Event) (hidden : ¬ Newest s e) :
    ¬ Right (step s e) := by
  cases e with
  | dispatchRequest id token => exact absurd trivial hidden
  | onRequestComplete t =>
    simp only [Newest, not_forall] at hidden
    obtain ⟨r, found, first⟩ := hidden
    have member := mem_of_find?_eq_some found
    intro right
    have freed := right.freedRequests
    rw [step, found] at freed
    simp only [checkAndDequeue, kept.right.queue, kept.right.freedRequests] at freed
    cases other : s.pending.find? (·.matches r.id r.token) with
    | none => exact find?_eq_none.mp other r member (matches_self r)
    | some r' =>
      rw [other] at freed first
      have same : r'.number = r.number := (cons.inj freed).1
      refine first (congrArg some ?_)
      exact inj_on_of_nodup_map kept.distinct (mem_of_find?_eq_some other) member same

/-- Completions free exactly their own requests as long as each is the newest of its kind. -/
theorem completions_right_iff (events : List Event) :
    Visits step Right .start events ↔ Meets step Newest .start events := by
  have start : Kept .start := ⟨⟨rfl, rfl, rfl, rfl, rfl⟩, nodup_nil, nofun, nofun⟩
  exact visits_iff_meets (fun _ kept => kept.right) (fun _ e kept => step_newest kept e)
    (fun _ e kept => step_hidden kept e) events _ start

/-- The older of two requests with the same id and token is completed first: the newer one is freed,
    and read when it is completed. -/
theorem older_completed_first :
    let s := [Event.dispatchRequest 1 5, .dispatchRequest 1 5, .onRequestComplete 0].foldl step .start
    s.queue = [⟨0, 1, 5⟩] ∧ s.freedRequests = [1] ∧ s.freedHeaders = [0] ∧
      (step s (.onRequestComplete 1)).stale = true := by
  decide

end SapRequests
