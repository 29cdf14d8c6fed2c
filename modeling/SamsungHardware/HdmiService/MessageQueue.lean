import SamsungHardware.Library.StepRuns

/- The message queue of the HDMI service, MessageQueue.cpp. A message is known by its address and
   keeps its time in its own field `when`, so that queueing it a second time dates both places. What
   a thread does with `mLock` held is one step: a call of `queueMessage` or `invalidate`, or one pass
   of the loop in `waitMessage`. -/
namespace MessageQueue
open StepRuns List

section

/- `android::List` is a ring with a sentinel. An iterator is a position; the sentinel has the
   position behind the last element. -/
variable {α : Type}

/-- `++` leads from the sentinel to the first element. -/
def next (list : List α) (pos : Nat) : Nat := if pos < list.length then pos + 1 else 0

def insertBefore (list : List α) (pos : Nat) (x : α) : List α := list.take pos ++ x :: list.drop pos

end

/-- A place in the list. The number counts the calls of `queueMessage`; the code does not keep it. -/
structure Posting where
  (message number : Nat)
  deriving DecidableEq, Repr

structure Queue where
  when : Nat → Int
  mMessages : List Posting
  mInvalidate : Bool
  (mInvalidateMessage posted : Nat)

def Queue.start (mInvalidateMessage : Nat) : Queue := ⟨fun _ => 0, [], false, mInvalidateMessage, 0⟩

def Queue.date (q : Queue) (message : Nat) (time : Int) : Queue :=
  { q with when := Function.update q.when message time }

section

variable (when : Nat → Int) (node : Posting) (list : List Posting)

/-- The loop of `MessageList::insert` at the position `cur`, with the elements from there on. -/
def insertFrom : Nat → List Posting → List Posting
  | _, [] => insertBefore list (next list list.length) node
  | cur, x :: rest =>
    if when node.message < when x.message then insertBefore list cur node
    else insertFrom (cur + 1) rest

def insert : List Posting := insertFrom when node list 0 list

end

/-- Time is a signed word of 64 bits. -/
def queueMessage (q : Queue) (message : Nat) (relTime now : Int) : Queue :=
  let q := q.date message (Int.bmod (now + relTime) (2 ^ 64))
  { q with
    mMessages := insert q.when ⟨message, q.posted⟩ q.mMessages
    posted := q.posted + 1 }

def invalidate (q : Queue) : Queue := { q with mInvalidate := true }

inductive Outcome where
  | deliver (posting : Posting)
  | invalidated
  | timedOut
  | wait (nextEventTime : Int)
  deriving DecidableEq, Repr

def awaitNext (q : Queue) (timeout timeoutTime now nextEventTime : Int) : Outcome × Queue :=
  if q.mInvalidate then
    (.invalidated, { q.date q.mInvalidateMessage now with mInvalidate := false })
  else if timeout ≥ 0 then
    if timeoutTime < now then (.timedOut, q)
    else if nextEventTime > 0 then
      (.wait (if nextEventTime > timeoutTime then timeoutTime else nextEventTime), q)
    else (.wait timeoutTime, q)
  else (.wait nextEventTime, q)

def waitPass (q : Queue) (timeout timeoutTime now : Int) : Outcome × Queue :=
  match q.mMessages with
  | [] => awaitNext q timeout timeoutTime now (-1)
  | first :: rest =>
    if q.when first.message ≤ now then (.deliver first, { q with mMessages := rest })
    else awaitNext q timeout timeoutTime now (q.when first.message)

inductive Event where
  | queueMessage (message : Nat) (relTime now : Int)
  | invalidate
  | waitPass (timeout timeoutTime now : Int)

def step (q : Queue) : Event → Queue
  | .queueMessage message relTime now => queueMessage q message relTime now
  | .invalidate => invalidate q
  | .waitPass timeout timeoutTime now => (waitPass q timeout timeoutTime now).2

def Before (when : Nat → Int) (a b : Posting) : Prop :=
  when a.message < when b.message ∨ when a.message = when b.message ∧ a.number < b.number

def Ordered (q : Queue) : Prop := q.mMessages.Pairwise (Before q.when)

/-- A message that the pass takes from the list is the earliest of all that were queued. -/
def TakesEarliest (q : Queue) : Event → Prop
  | .waitPass timeout timeoutTime now => ∀ posting,
    (waitPass q timeout timeoutTime now).1 = .deliver posting →
      posting ∈ q.mMessages ∧ ∀ other ∈ q.mMessages, other ≠ posting → Before q.when posting other
  | _ => True

/-- A message is queued only into an empty list or before one that is due later, and a new date of a
    message leaves the order of those that are queued. A pass dates the message of the invalidation
    when there is one and no message is due. -/
def InTime (q : Queue) : Event → Prop
  | .queueMessage message relTime now =>
    let dated := q.date message (Int.bmod (now + relTime) (2 ^ 64))
    Ordered dated ∧ (q.mMessages = [] ∨
      ∃ posting ∈ q.mMessages, dated.when message < dated.when posting.message)
  | .waitPass _ _ now =>
    q.mInvalidate = true → (∀ first ∈ q.mMessages.head?, now < q.when first.message) →
      Ordered (q.date q.mInvalidateMessage now)
  | .invalidate => True

structure Kept (q : Queue) : Prop where
  ordered : Ordered q
  numbered : ∀ posting ∈ q.mMessages, posting.number < q.posted

section

variable {when : Nat → Int} {node x : Posting} {list before after : List Posting}

theorem insertFrom_sooner (after : List Posting) (later : when node.message < when x.message) :
    ∀ (rest skipped : List Posting), (∀ y ∈ rest, ¬ when node.message < when y.message) →
      list = skipped ++ (rest ++ x :: after) →
      insertFrom when node list skipped.length (rest ++ x :: after) =
        (skipped ++ rest) ++ node :: x :: after := by
  intro rest
  induction rest with
  | nil =>
    intro skipped _ whole
    rw [nil_append, insertFrom, if_pos later, insertBefore, whole, append_nil,
      nil_append, take_left, drop_left]
  | cons y rest ih =>
    intro skipped none whole
    have first := none y mem_cons_self
    rw [cons_append, insertFrom, if_neg first]
    have moved : skipped.length + 1 = (skipped ++ [y]).length := by simp
    rw [moved, ih (skipped ++ [y]) (fun z member => none z (mem_cons_of_mem _ member))
      (by rw [whole]; simp)]
    simp

theorem insert_sooner (later : when node.message < when x.message)
    (none : ∀ y ∈ before, ¬ when node.message < when y.message) :
    insert when node (before ++ x :: after) = before ++ node :: x :: after :=
  insertFrom_sooner after later before [] none rfl

theorem insert_latest (none : ∀ y ∈ list, ¬ when node.message < when y.message) :
    insert when node list = node :: list := by
  have walk : ∀ (rest : List Posting) (cur : Nat),
      (∀ y ∈ rest, ¬ when node.message < when y.message) →
      insertFrom when node list cur rest = insertBefore list (next list list.length) node := by
    intro rest
    induction rest with
    | nil => intro cur _; rfl
    | cons y rest ih =>
      intro cur none
      rw [insertFrom, if_neg (none y mem_cons_self)]
      exact ih (cur + 1) fun z member => none z (mem_cons_of_mem _ member)
  rw [insert, walk list 0 none, next, if_neg (Nat.lt_irrefl _), insertBefore]
  rfl

theorem first_later (some_later : ∃ y ∈ list, when node.message < when y.message) :
    ∃ before x after, list = before ++ x :: after ∧ when node.message < when x.message ∧
      ∀ y ∈ before, ¬ when node.message < when y.message := by
  have some_found : (list.find? fun y => when node.message < when y.message).isSome := by
    simpa using some_later
  obtain ⟨x, found⟩ := Option.isSome_iff_exists.mp some_found
  obtain ⟨first, before, after, split, none⟩ := find?_eq_some_iff_append.mp found
  exact ⟨before, x, after, split, of_decide_eq_true first, by simpa using none⟩

theorem insert_perm (when : Nat → Int) (node : Posting) (list : List Posting) :
    (insert when node list).Perm (node :: list) := by
  by_cases some_later : ∃ y ∈ list, when node.message < when y.message
  · obtain ⟨before, x, after, rfl, later, none⟩ := first_later some_later
    rw [insert_sooner later none]
    exact perm_middle
  · rw [insert_latest fun y member later => some_later ⟨y, member, later⟩]

theorem Before.trans {a b c : Posting} (first : Before when a b) (second : Before when b c) :
    Before when a c := by
  unfold Before at *
  omega

theorem insert_ordered (ordered : list.Pairwise (Before when))
    (newest : ∀ y ∈ list, y.number < node.number)
    (some_later : ∃ y ∈ list, when node.message < when y.message) :
    (insert when node list).Pairwise (Before when) := by
  obtain ⟨before, x, after, rfl, later, none⟩ := first_later some_later
  rw [insert_sooner later none]
  obtain ⟨front, back, across⟩ := pairwise_append.mp ordered
  have behind : ∀ y ∈ x :: after, Before when node y := by
    intro y member
    rcases mem_cons.mp member with rfl | deeper
    · exact Or.inl later
    · have first : Before when node x := Or.inl later
      exact first.trans ((pairwise_cons.mp back).1 y deeper)
  refine pairwise_append.mpr ⟨front, pairwise_cons.mpr ⟨behind, back⟩, ?_⟩
  intro y member z there
  rcases mem_cons.mp there with rfl | deeper
  · have date := none y member
    have number := newest y (mem_append_left _ member)
    unfold Before
    omega
  · exact across y member z deeper

theorem insert_disordered (newest : ∀ y ∈ list, y.number < node.number) (filled : list ≠ [])
    (none : ∀ y ∈ list, ¬ when node.message < when y.message) :
    ¬ (insert when node list).Pairwise (Before when) := by
  rw [insert_latest none]
  intro ordered
  obtain ⟨y, member⟩ := exists_mem_of_ne_nil list filled
  have first := (pairwise_cons.mp ordered).1 y member
  have date := none y member
  have number := newest y member
  unfold Before at first
  omega

theorem ordered_of_insert (ordered : (insert when node list).Pairwise (Before when)) :
    list.Pairwise (Before when) := by
  by_cases some_later : ∃ y ∈ list, when node.message < when y.message
  · obtain ⟨before, x, after, rfl, later, none⟩ := first_later some_later
    rw [insert_sooner later none] at ordered
    exact ordered.sublist ((List.Sublist.refl before).append (sublist_cons_self node _))
  · rw [insert_latest fun y member later => some_later ⟨y, member, later⟩] at ordered
    exact (pairwise_cons.mp ordered).2

end

section

variable (q : Queue) (timeout timeoutTime now : Int)

theorem awaitNext_cases (nextEventTime : Int) :
    (q.mInvalidate = false ∧ ∃ outcome, (∀ posting, outcome ≠ .deliver posting) ∧
        awaitNext q timeout timeoutTime now nextEventTime = (outcome, q)) ∨
      (q.mInvalidate = true ∧ awaitNext q timeout timeoutTime now nextEventTime =
        (.invalidated, { q.date q.mInvalidateMessage now with mInvalidate := false })) := by
  unfold awaitNext
  cases q.mInvalidate with
  | true => exact Or.inr ⟨rfl, if_pos rfl⟩
  | false =>
    refine Or.inl ⟨rfl, ?_⟩
    rw [if_neg Bool.false_ne_true]
    split_ifs
    all_goals exact ⟨_, by simp, rfl⟩

theorem waitPass_cases :
    (∃ first rest, q.mMessages = first :: rest ∧ q.when first.message ≤ now ∧
        waitPass q timeout timeoutTime now = (.deliver first, { q with mMessages := rest })) ∨
      (q.mInvalidate = false ∧ ∃ outcome, (∀ posting, outcome ≠ .deliver posting) ∧
        waitPass q timeout timeoutTime now = (outcome, q)) ∨
      ((∀ first ∈ q.mMessages.head?, now < q.when first.message) ∧ q.mInvalidate = true ∧
        waitPass q timeout timeoutTime now =
          (.invalidated, { q.date q.mInvalidateMessage now with mInvalidate := false })) := by
  unfold waitPass
  cases queued : q.mMessages with
  | nil =>
    refine Or.inr ((awaitNext_cases q timeout timeoutTime now _).imp_right fun pass => ⟨?_, pass⟩)
    intro first member
    cases member
  | cons first rest =>
    by_cases due : q.when first.message ≤ now
    · refine Or.inl ⟨first, rest, rfl, due, ?_⟩
      dsimp only
      rw [if_pos due]
    · dsimp only
      rw [if_neg due]
      refine Or.inr ((awaitNext_cases q timeout timeoutTime now _).imp_right fun pass => ⟨?_, pass⟩)
      intro front member
      cases member
      exact not_le.mp due

theorem takesEarliest_of_ordered {q : Queue} (ordered : Ordered q) (event : Event) : TakesEarliest q event := by
  cases event with
  | queueMessage => trivial
  | invalidate => trivial
  | waitPass timeout timeoutTime now =>
    intro posting delivered
    rcases waitPass_cases q timeout timeoutTime now with
      ⟨first, rest, queued, _, pass⟩ | ⟨_, outcome, other, pass⟩ | ⟨_, _, pass⟩
    · rw [pass] at delivered
      cases delivered
      rw [Ordered, queued] at ordered
      rw [queued]
      refine ⟨mem_cons_self, ?_⟩
      intro other member apart
      rcases mem_cons.mp member with same | behind
      · exact absurd same apart
      · exact (pairwise_cons.mp ordered).1 other behind
    · rw [pass] at delivered
      exact absurd delivered (other posting)
    · rw [pass] at delivered
      cases delivered

end

theorem kept_start (mInvalidateMessage : Nat) : Kept (Queue.start mInvalidateMessage) := by
  constructor
  · exact List.Pairwise.nil
  · intro posting member
    cases member

theorem step_kept {q : Queue} {event : Event} (kept : Kept q) (inTime : InTime q event) :
    Kept (step q event) := by
  obtain ⟨ordered, numbered⟩ := kept
  cases event with
  | queueMessage message relTime now =>
    obtain ⟨dated, room⟩ := inTime
    constructor
    · rcases room with empty | some_later
      · simp [Ordered, step, queueMessage, Queue.date, empty, insert, insertFrom, insertBefore]
      · exact insert_ordered dated numbered some_later
    · intro posting member
      rcases mem_cons.mp ((insert_perm _ _ _).mem_iff.mp member) with rfl | old
      · exact Nat.lt_succ_self q.posted
      · exact Nat.lt_succ_of_lt (numbered posting old)
  | invalidate => exact ⟨ordered, numbered⟩
  | waitPass timeout timeoutTime now =>
    rcases waitPass_cases q timeout timeoutTime now with
      ⟨first, rest, queued, _, pass⟩ | ⟨_, outcome, _, pass⟩ | ⟨quiet, invalid, pass⟩
    · rw [step, pass]
      rw [Ordered, queued] at ordered
      rw [queued] at numbered
      exact ⟨(pairwise_cons.mp ordered).2,
        fun posting member => numbered posting (mem_cons_of_mem _ member)⟩
    · rw [step, pass]
      exact ⟨ordered, numbered⟩
    · have dated := inTime invalid quiet
      rw [step, pass]
      exact ⟨dated, numbered⟩

theorem step_disordered {q : Queue} {event : Event} (kept : Kept q) (late : ¬ InTime q event) :
    ¬ Ordered (step q event) := by
  cases event with
  | queueMessage message relTime now =>
    intro ordered
    have dated := ordered_of_insert ordered
    apply late
    refine ⟨dated, ?_⟩
    by_contra room
    obtain ⟨filled, none⟩ := not_or.mp room
    exact insert_disordered kept.numbered filled
      (fun y member later => none ⟨y, member, later⟩) ordered
  | invalidate => exact absurd trivial late
  | waitPass timeout timeoutTime now =>
    obtain ⟨invalid, late⟩ := Classical.not_imp.mp late
    obtain ⟨quiet, disordered⟩ := Classical.not_imp.mp late
    rcases waitPass_cases q timeout timeoutTime now with
      ⟨first, _, queued, due, _⟩ | ⟨valid, _⟩ | ⟨_, _, same⟩
    · exact absurd due (not_le.mpr (quiet first (by rw [queued]; rfl)))
    · cases valid.symm.trans invalid
    · rw [step, same]
      exact disordered

/-- For every run of calls and passes: the list is in order in every state, and every message that is
    taken is the earliest, if and only if every call comes in time. -/
theorem queue_ordered_iff (mInvalidateMessage : Nat) (events : List Event) :
    (Visits step Ordered (Queue.start mInvalidateMessage) events ∧
        Meets step TakesEarliest (Queue.start mInvalidateMessage) events) ↔
      Meets step InTime (Queue.start mInvalidateMessage) events := by
  have start := kept_start mInvalidateMessage
  have keep : ∀ q event, Kept q → InTime q event → Kept (step q event) :=
    fun _ _ kept ok => step_kept kept ok
  have order := visits_iff_meets (fun _ kept => kept.ordered) keep
    (fun _ _ kept late => step_disordered kept late) events _ start
  have earliest : ∀ q event, Kept q → InTime q event → TakesEarliest q event :=
    fun _ event kept _ => takesEarliest_of_ordered kept.ordered event
  constructor
  · rintro ⟨ordered, _⟩
    exact order.mp ordered
  · intro inTime
    exact ⟨order.mpr inTime, meets_of_meets keep earliest events _ start inTime⟩

/-- Message 1 for the time 10, then message 2 for the time 20: message 2 stands in front and is taken
    first. -/
theorem later_message_first :
    let posted := step (step (Queue.start 0) (.queueMessage 1 10 0)) (.queueMessage 2 20 0)
    posted.mMessages = [⟨2, 1⟩, ⟨1, 0⟩] ∧ ¬ Ordered posted ∧
      (waitPass posted (-1) 0 30).1 = .deliver ⟨2, 1⟩ ∧
      ¬ TakesEarliest posted (.waitPass (-1) 0 30) := by
  refine ⟨by decide, ?_, by decide, ?_⟩
  · intro ordered
    have first := (pairwise_cons.mp ordered).1 ⟨1, 0⟩ (by decide)
    revert first
    unfold Before
    decide
  · intro earliest
    have first := (earliest ⟨2, 1⟩ (by decide)).2 ⟨1, 0⟩ (by decide) (by decide)
    revert first
    unfold Before
    decide

end MessageQueue
