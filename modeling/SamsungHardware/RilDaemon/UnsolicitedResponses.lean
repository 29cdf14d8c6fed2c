import SamsungHardware.Library.StepRuns

/- Unsolicited responses in ril.cpp: the choice of a response function, and the NITZ time that is
   kept for a client that connects later. -/
namespace UnsolicitedResponses
open StepRuns Function List

section

inductive WakeType where
  | dontWake
  | wakePartial
  deriving DecidableEq

structure UnsolResponseInfo (φ : Type) where
  requestNumber : Int
  responseFunction : Option φ
  wakeType : WakeType

/-- The two tables, and the numbers at which their codes begin. -/
structure Tables (φ : Type) where
  (responseBase samsungBase : Int)
  (unsolResponses unsolResponsesV : List (UnsolResponseInfo φ))

variable {φ : Type}

/-- The loop over the vendor table. It goes on behind an entry with the code. -/
def samsungIndex (code : Int) (entries : List (UnsolResponseInfo φ × Nat)) (index : Int) : Int :=
  entries.foldl (fun index entry => if entry.1.requestNumber = code then entry.2 else index) index

def Tables.table (t : Tables φ) (code : Int) : List (UnsolResponseInfo φ) :=
  if code > t.samsungBase then t.unsolResponsesV else t.unsolResponses

/-- Outside of the table `pRI` is left at the first entry. -/
def Tables.entry (t : Tables φ) (code index : Int) : Option (UnsolResponseInfo φ) :=
  if 0 ≤ index ∧ index < (t.table code).length then (t.table code)[index.toNat]?
  else (t.table code)[0]?

def Tables.index (t : Tables φ) (code : Int) : Int :=
  if code > t.samsungBase then
    samsungIndex code t.unsolResponsesV.zipIdx (code - t.responseBase)
  else code - t.responseBase

def Tables.function (t : Tables φ) (code index : Int) : Option φ :=
  (t.entry code index).bind (·.responseFunction)

/-- The call of a response function, whether a wake lock is grabbed for it, and whether an
    acknowledgement is expected. -/
structure Call (φ : Type) where
  responseFunction : φ
  (grabs ackExpected : Bool)

def onUnsolicitedResponse (t : Tables φ) (registerCalled : Bool) (version code : Int) :
    Option (Call φ) :=
  if registerCalled then
    (t.entry code (t.index code)).bind fun info => info.responseFunction.map fun f =>
      let grabs := decide (info.wakeType = .wakePartial)
      ⟨f, grabs, version ≥ 13 && grabs⟩
  else none

/-- The check of `RIL_register`. -/
def Tables.Indexed (t : Tables φ) : Prop :=
  ∀ (i : Nat) (info : UnsolResponseInfo φ), t.unsolResponses[i]? = some info →
    info.requestNumber = i + t.responseBase

def Tables.Listed (t : Tables φ) (code : Int) : Prop :=
  ∃ info ∈ t.table code, info.requestNumber = code

/-- The function, or its absence, belongs to the code, in either table. -/
def Tables.Carries (t : Tables φ) (code : Int) (f : Option φ) : Prop :=
  ∃ info ∈ t.unsolResponses ++ t.unsolResponsesV,
    info.requestNumber = code ∧ info.responseFunction = f

/-- Where a code without an entry ends up: as many entries behind the first as the code is above
    the base, or at the first entry if the table has no entry there. -/
def Tables.Stray (t : Tables φ) (code : Int) (info : UnsolResponseInfo φ) : Prop :=
  ∃ i : Nat, (t.table code)[i]? = some info ∧ (code = t.responseBase + i ∨
    i = 0 ∧ (code < t.responseBase ∨ t.responseBase + (t.table code).length ≤ code))

theorem samsungIndex_cases (code : Int) (entries : List (UnsolResponseInfo φ × Nat)) :
    ∀ index, (∃ entry ∈ entries, entry.1.requestNumber = code ∧
        samsungIndex code entries index = entry.2) ∨
      (∀ entry ∈ entries, entry.1.requestNumber ≠ code) ∧
        samsungIndex code entries index = index := by
  induction entries with
  | nil =>
    intro index
    exact Or.inr ⟨by simp, rfl⟩
  | cons entry rest ih =>
    intro index
    rw [samsungIndex, foldl_cons, ← samsungIndex]
    rcases ih (if entry.1.requestNumber = code then entry.2 else index) with
      ⟨later, listed, found⟩ | ⟨absent, same⟩
    · exact Or.inl ⟨later, .tail _ listed, found⟩
    · by_cases here : entry.1.requestNumber = code
      · exact Or.inl ⟨entry, mem_cons_self, here, by rw [same, if_pos here]⟩
      · refine Or.inr ⟨?_, by rw [same, if_neg here]⟩
        exact forall_mem_cons.mpr ⟨here, absent⟩

theorem entry_at {t : Tables φ} {code : Int} {i : Nat} {info : UnsolResponseInfo φ}
    (at_i : (t.table code)[i]? = some info) : t.entry code i = some info := by
  obtain ⟨bound, _⟩ := List.getElem?_eq_some_iff.mp at_i
  rw [Tables.entry, if_pos (by omega), Int.toNat_natCast, at_i]

variable {t : Tables φ} {code : Int}

theorem entry_listed (indexed : t.Indexed) (listed : t.Listed code) :
    ∃ info ∈ t.table code, t.entry code (t.index code) = some info ∧
      info.requestNumber = code := by
  obtain ⟨info, member, number⟩ := listed
  by_cases vendor : code > t.samsungBase
  · have table : t.table code = t.unsolResponsesV := if_pos vendor
    rcases samsungIndex_cases code t.unsolResponsesV.zipIdx (code - t.responseBase) with
      ⟨⟨last, i⟩, place, same, found⟩ | ⟨absent, _⟩
    · have at_i : (t.table code)[i]? = some last := by
        rw [table]
        exact mem_zipIdx_iff_getElem?.mp place
      refine ⟨last, mem_of_getElem? at_i, ?_, same⟩
      rw [Tables.index, if_pos vendor, found]
      exact entry_at at_i
    · rw [table] at member
      obtain ⟨i, at_i⟩ := mem_iff_getElem?.mp member
      exact absurd number (absent (info, i) (mem_zipIdx_iff_getElem?.mpr at_i))
  · have table : t.table code = t.unsolResponses := if_neg vendor
    obtain ⟨i, at_i⟩ := mem_iff_getElem?.mp member
    refine ⟨info, member, ?_, number⟩
    have index : t.index code = i := by
      have place := indexed i info (table ▸ at_i)
      rw [Tables.index, if_neg vendor]
      omega
    rw [index]
    exact entry_at at_i

theorem index_unlisted (unlisted : ¬ t.Listed code) : t.index code = code - t.responseBase := by
  by_cases vendor : code > t.samsungBase
  · have table : t.table code = t.unsolResponsesV := if_pos vendor
    rw [Tables.index, if_pos vendor]
    rcases samsungIndex_cases code t.unsolResponsesV.zipIdx (code - t.responseBase) with
      ⟨⟨last, i⟩, place, same, _⟩ | ⟨_, same⟩
    · have member := mem_of_getElem? (mem_zipIdx_iff_getElem?.mp place)
      exact absurd ⟨last, table ▸ member, same⟩ unlisted
    · exact same
  · exact if_neg vendor

theorem table_subset {info : UnsolResponseInfo φ} (member : info ∈ t.table code) :
    info ∈ t.unsolResponses ++ t.unsolResponsesV := by
  rw [Tables.table] at member
  split at member
  · exact mem_append_right _ member
  · exact mem_append_left _ member

theorem called_function (version : Int) :
    (onUnsolicitedResponse t true version code).map (·.responseFunction) =
      t.function code (t.index code) := by
  rw [onUnsolicitedResponse, if_pos rfl, Tables.function]
  cases t.entry code (t.index code) with
  | none => rfl
  | some info =>
    cases own : info.responseFunction with
    | none => simp [own]
    | some f => simp [own]

theorem stray_iff {info : UnsolResponseInfo φ} :
    t.entry code (code - t.responseBase) = some info ↔ t.Stray code info := by
  unfold Tables.entry Tables.Stray
  split_ifs with inside
  · constructor
    · exact fun found => ⟨_, found, Or.inl (by omega)⟩
    · rintro ⟨i, found, same | ⟨-, outside⟩⟩
      · rwa [show (code - t.responseBase).toNat = i by omega]
      · omega
  · constructor
    · exact fun found => ⟨0, found, Or.inr ⟨rfl, by omega⟩⟩
    · rintro ⟨i, found, same | ⟨rfl, -⟩⟩
      · obtain ⟨bound, -⟩ := List.getElem?_eq_some_iff.mp found
        omega
      · exact found

/-- A code that its table lists is answered by its own function. Any other code is answered by the
    function of a stray entry, which has to be the function of the code by chance. -/
theorem response_function_iff (t : Tables φ) (indexed : t.Indexed) (version code : Int) :
    let called := (onUnsolicitedResponse t true version code).map (·.responseFunction)
    ((∀ f, called = some f → t.Carries code (some f)) ↔ t.Listed code ∨ ∀ info, t.Stray code info →
      info.responseFunction = none ∨ t.Carries code info.responseFunction) ∧
    ((∀ info ∈ t.unsolResponses ++ t.unsolResponsesV, info.requestNumber ≠ code) →
      (called = none ↔ ∀ info, t.Stray code info → info.responseFunction = none)) := by
  intro called
  have chosen : called = t.function code (t.index code) := called_function version
  have unlisted (missing : ¬ t.Listed code) :
      called = (t.entry code (code - t.responseBase)).bind (·.responseFunction) := by
    rw [chosen, index_unlisted missing, Tables.function]
  simp only [← stray_iff]
  constructor
  · by_cases listed : t.Listed code
    · refine iff_of_true ?_ (Or.inl listed)
      intro f own
      obtain ⟨info, member, entry, number⟩ := entry_listed indexed listed
      rw [chosen, Tables.function, entry] at own
      exact ⟨info, table_subset member, number, own⟩
    · rw [unlisted listed, or_iff_right listed]
      cases t.entry code (code - t.responseBase) with
      | none => simp
      | some info => cases own : info.responseFunction <;> simp [own]
  · intro absent
    have missing : ¬ t.Listed code := by
      rintro ⟨info, member, number⟩
      exact absent info (table_subset member) number
    rw [unlisted missing]
    cases t.entry code (code - t.responseBase) with
    | none => simp
    | some info => simp

/-- The first entry of the AOSP table has a function, that of the vendor table has none. -/
def sampleTables : Tables Nat where
  responseBase := 1000
  samsungBase := 11000
  unsolResponses := [⟨1000, some 0, .wakePartial⟩, ⟨1001, some 1, .dontWake⟩]
  unsolResponsesV := [⟨11000, none, .wakePartial⟩, ⟨20017, some 2, .wakePartial⟩]

theorem sampleTables_indexed : sampleTables.Indexed := by
  intro i info at_i
  match i, at_i with
  | 0, at_i =>
    cases at_i
    rfl
  | 1, at_i =>
    cases at_i
    rfl

theorem vendor_code_answered : sampleTables.Carries 20017 (some 2) :=
  (response_function_iff sampleTables sampleTables_indexed 12 20017).1.mpr
    (Or.inl ⟨⟨20017, some 2, .wakePartial⟩, .tail _ (.head _), rfl⟩) 2 rfl

/-- A code in front of the table is answered by the first function of the table. -/
theorem unknown_code_answered :
    onUnsolicitedResponse sampleTables true 12 5 = some ⟨0, true, false⟩ ∧
      ∀ f, ¬ sampleTables.Carries 5 f := by
  refine ⟨rfl, ?_⟩
  rintro f ⟨info, member, number, _⟩
  simp [sampleTables] at member
  rcases member with rfl | rfl | rfl | rfl
  all_goals cases number

end

/-- Where a thread is: outside of both functions, in `resendLastNITZTimeData` from the test of the
    pointer in front of its call on, or in `RIL_onUnsolicitedResponse` behind the failed indication
    of a NITZ time. -/
inductive Point where
  | idle
  | connecting (socket : Nat)
  | locked (socket : Nat)
  | found (socket : Nat)
  | sending (socket : Nat) (response : Option Nat)
  | sent (socket : Nat)
  | clearing (socket : Nat)
  | unlocking (socket : Nat)
  | failed
  | replacing
  | forgetting
  | storing
  | copying
  deriving DecidableEq

/-- `locks` are the sockets whose lock the thread holds for reading. -/
structure Thread where
  point : Point
  locks : List Nat

/-- Buffers have numbers, and `next` is the first that was never allocated. `stale` says that a
    buffer was accessed that had been freed. -/
structure Buffers where
  lastNITZTimeData : Option Nat
  next : Nat
  freed : List Nat
  stale : Bool

def Buffers.free (m : Buffers) : Buffers := { m with freed := m.lastNITZTimeData.toList ++ m.freed }

def Buffers.clear (m : Buffers) : Buffers := { m with lastNITZTimeData := none }

def Buffers.calloc (m : Buffers) : Buffers :=
  { m with lastNITZTimeData := some m.next, next := m.next + 1 }

def Buffers.access (m : Buffers) (buffer : Option Nat) : Buffers :=
  { m with stale := m.stale || buffer.any (fun b => decide (b ∈ m.freed)) }

/-- What a thread does next; `ret` is what `nitzTimeReceivedInd` returns, and 0 when `calloc` does
    not fail. -/
def Thread.go (th : Thread) (m : Buffers) (ret : Int) : Buffers × Thread :=
  match th.point with
  | .idle => (m, th)
  | .connecting socket => (m, ⟨.locked socket, socket :: th.locks⟩)
  -- without the pointer the lock is not given up
  | .locked socket =>
    (m, ⟨if m.lastNITZTimeData.isSome then .found socket else .idle, th.locks⟩)
  | .found socket => (m, ⟨.sending socket m.lastNITZTimeData, th.locks⟩)
  | .sending socket response =>
    if ret = 0 then (m.access response, ⟨.sent socket, th.locks⟩)
    else (m, ⟨.unlocking socket, th.locks⟩)
  | .sent socket => (m.free, ⟨.clearing socket, th.locks⟩)
  | .clearing socket => (m.clear, ⟨.unlocking socket, th.locks⟩)
  | .unlocking socket => (m, ⟨.idle, th.locks.erase socket⟩)
  | .failed => (m, ⟨if m.lastNITZTimeData.isSome then .replacing else .storing, th.locks⟩)
  | .replacing => (m.free, ⟨.forgetting, th.locks⟩)
  | .forgetting => (m.clear, ⟨.storing, th.locks⟩)
  | .storing => if ret = 0 then (m.calloc, ⟨.copying, th.locks⟩) else (m.clear, ⟨.idle, th.locks⟩)
  | .copying => (m.access m.lastNITZTimeData, ⟨.idle, th.locks⟩)

structure Nitz (k : Nat) where
  buffers : Buffers
  thread : Fin k → Thread

inductive Event (k : Nat) where
  | connect (t : Fin k) (socket : Nat)
  | receive (t : Fin k) (socket : Nat) (ret : Int)
  | go (t : Fin k) (ret : Int)

variable {k : Nat}

def Nitz.move (n : Nitz k) (t : Fin k) (next : Buffers × Thread) : Nitz k :=
  ⟨next.1, update n.thread t next.2⟩

/-- The write lock of a socket is taken and given up in one step, as soon as nobody reads. -/
def step (n : Nitz k) : Event k → Nitz k
  | .connect t socket =>
    if (n.thread t).point = .idle ∧ n.buffers.lastNITZTimeData.isSome then
      n.move t (n.buffers, ⟨.connecting socket, (n.thread t).locks⟩)
    else n
  | .receive t socket ret =>
    if (n.thread t).point = .idle ∧ (∀ u, socket ∉ (n.thread u).locks) ∧ ret ≠ 0 then
      n.move t (n.buffers, ⟨.failed, (n.thread t).locks⟩)
    else n
  | .go t ret => n.move t ((n.thread t).go n.buffers ret)

def Nitz.start (k : Nat) : Nitz k := ⟨⟨none, 0, [], false⟩, fun _ => ⟨.idle, []⟩⟩

def Safe (n : Nitz k) : Prop :=
  n.buffers.freed.Nodup ∧ n.buffers.stale = false ∧
    ∀ t, (n.thread t).point = .idle → (n.thread t).locks = []

/-- Between the first test of the pointer and the last access to it. -/
def Point.inside : Point → Bool
  | .idle | .unlocking _ | .failed => false
  | _ => true

/-- A thread tests the pointer first only while no thread is inside. -/
def Apart (n : Nitz k) : Event k → Prop
  | .connect _ _ => n.buffers.lastNITZTimeData = none ∨ ∀ u, (n.thread u).point.inside = false
  | .receive _ _ _ => True
  | .go t _ => (n.thread t).point = .failed → ∀ u, (n.thread u).point.inside = false

instance (n : Nitz k) (e : Event k) : Decidable (Apart n e) := by
  cases e with
  | connect t socket => exact inferInstanceAs (Decidable (_ ∨ _))
  | receive t socket ret => exact isTrue trivial
  | go t ret => exact inferInstanceAs (Decidable (_ → _))

instance (n : Nitz k) : Decidable (Safe n) := inferInstanceAs (Decidable (_ ∧ _))

def Point.holds : Point → List Nat
  | .locked s | .found s | .sending s _ | .sent s | .clearing s | .unlocking s => [s]
  | _ => []

/-- The buffer is freed, and the pointer to it is about to be cleared. -/
def Point.dirty : Point → Bool
  | .clearing _ | .forgetting => true
  | _ => false

def Needs (m : Buffers) : Point → Prop
  | .connecting _ | .locked _ => m.lastNITZTimeData.isSome = true
  | .sending _ response => response = m.lastNITZTimeData
  | _ => True

structure Good (m : Buffers) (th : Thread) : Prop where
  held : th.locks = th.point.holds
  needs : Needs m th.point

def Live (m : Buffers) : Prop := ∀ b, m.lastNITZTimeData = some b → b ∉ m.freed

structure Sound (m : Buffers) : Prop where
  distinct : m.freed.Nodup
  old : ∀ b ∈ m.freed, b < m.next
  known : ∀ b, m.lastNITZTimeData = some b → b < m.next
  fresh : m.stale = false

/-- A pointer to a freed buffer is kept only by the thread that clears it next. -/
structure Kept (n : Nitz k) : Prop where
  sound : Sound n.buffers
  good : ∀ t, Good n.buffers (n.thread t)
  single : ∀ t u, (n.thread t).point.inside = true → (n.thread u).point.inside = true → t = u
  live : (∀ t, (n.thread t).point.dirty = false) → Live n.buffers

variable {m : Buffers} {th : Thread}

theorem sound_free (sound : Sound m) (live : Live m) : Sound m.free := by
  obtain ⟨data, next, freed, stale⟩ := m
  cases data with
  | none => exact sound
  | some b =>
    constructor
    case distinct => exact nodup_cons.mpr ⟨live b rfl, sound.distinct⟩
    case old => exact forall_mem_cons.mpr ⟨sound.known b rfl, sound.old⟩
    case known => exact sound.known
    case fresh => exact sound.fresh

theorem sound_clear (sound : Sound m) : Sound m.clear :=
  ⟨sound.distinct, sound.old, nofun, sound.fresh⟩

theorem sound_calloc (sound : Sound m) : Sound m.calloc := by
  constructor
  case distinct => exact sound.distinct
  case old => exact fun b freed => Nat.lt_succ_of_lt (sound.old b freed)
  case known =>
    rintro b ⟨⟩
    exact Nat.lt_succ_self _
  case fresh => exact sound.fresh

theorem live_calloc (sound : Sound m) : Live m.calloc := by
  rintro b ⟨⟩ freed
  exact absurd (sound.old _ freed) (Nat.lt_irrefl _)

theorem access_live (live : Live m) : m.access m.lastNITZTimeData = m := by
  cases data : m.lastNITZTimeData with
  | none => simp [Buffers.access]
  | some b => simp [Buffers.access, live b data]

theorem go_alone (ret : Int) (good : Good m th) (sound : Sound m)
    (live : th.point.dirty = false → Live m) :
    Sound (th.go m ret).1 ∧ Good (th.go m ret).1 (th.go m ret).2 ∧
      ((th.go m ret).2.point.dirty = false → Live (th.go m ret).1) := by
  obtain ⟨point, locks⟩ := th
  obtain ⟨held, needs⟩ := good
  obtain rfl : locks = point.holds := held
  cases point with
  | idle => exact ⟨sound, ⟨rfl, trivial⟩, live⟩
  | connecting socket => exact ⟨sound, ⟨rfl, needs⟩, live⟩
  | locked socket =>
    have there : m.lastNITZTimeData.isSome = true := needs
    simp only [Thread.go, there, if_true]
    exact ⟨sound, ⟨rfl, trivial⟩, live⟩
  | found socket => exact ⟨sound, ⟨rfl, rfl⟩, live⟩
  | sending socket response =>
    have same : response = m.lastNITZTimeData := needs
    by_cases done : ret = 0
    · simp only [Thread.go, done, if_true, same, access_live (live rfl)]
      exact ⟨sound, ⟨rfl, trivial⟩, live⟩
    · simp only [Thread.go, done, if_false]
      exact ⟨sound, ⟨rfl, trivial⟩, live⟩
  | sent socket => exact ⟨sound_free sound (live rfl), ⟨rfl, trivial⟩, nofun⟩
  | clearing socket => exact ⟨sound_clear sound, ⟨rfl, trivial⟩, fun _ => nofun⟩
  | unlocking socket =>
    refine ⟨sound, ⟨?_, trivial⟩, live⟩
    simp [Thread.go, Point.holds]
  | failed =>
    simp only [Thread.go]
    split
    · exact ⟨sound, ⟨rfl, trivial⟩, live⟩
    · exact ⟨sound, ⟨rfl, trivial⟩, live⟩
  | replacing => exact ⟨sound_free sound (live rfl), ⟨rfl, trivial⟩, nofun⟩
  | forgetting => exact ⟨sound_clear sound, ⟨rfl, trivial⟩, fun _ => nofun⟩
  | storing =>
    by_cases done : ret = 0
    · simp only [Thread.go, done, if_true]
      exact ⟨sound_calloc sound, ⟨rfl, trivial⟩, fun _ => live_calloc sound⟩
    · simp only [Thread.go, done, if_false]
      exact ⟨sound_clear sound, ⟨rfl, trivial⟩, fun _ => nofun⟩
  | copying =>
    simp only [Thread.go, access_live (live rfl)]
    exact ⟨sound, ⟨rfl, trivial⟩, live⟩

theorem needs_outside {point : Point} (outside : point.inside = false) : Needs m point := by
  cases point with
  | idle => trivial
  | unlocking socket => trivial
  | failed => trivial
  | _ => cases outside

theorem clean_outside {point : Point} (outside : point.inside = false) : point.dirty = false := by
  cases point with
  | clearing socket => cases outside
  | forgetting => cases outside
  | _ => rfl

variable {n : Nitz k} {t u : Fin k} {next : Buffers × Thread} {ret : Int}

theorem move_self : (n.move t next).thread t = next.2 := update_self _ _ _

theorem move_other (other : u ≠ t) : (n.move t next).thread u = n.thread u := update_of_ne other _ _

theorem move_alone (kept : Kept n) (others : ∀ u, u ≠ t → (n.thread u).point.inside = false)
    (sound : Sound next.1) (good : Good next.1 next.2)
    (live : next.2.point.dirty = false → Live next.1) : Kept (n.move t next) := by
  have inside (u : Fin k) (here : ((n.move t next).thread u).point.inside = true) : u = t := by
    by_contra other
    rw [move_other other, others u other] at here
    cases here
  constructor
  case sound => exact sound
  case good =>
    intro u
    by_cases other : u = t
    · rw [other, move_self]
      exact good
    · rw [move_other other]
      exact ⟨(kept.good u).held, needs_outside (others u other)⟩
  case single =>
    intro u v u_inside v_inside
    rw [inside u u_inside, inside v v_inside]
  case live =>
    intro clean
    have own := clean t
    rw [move_self] at own
    exact live own

theorem move_outside (kept : Kept n) (before : (n.thread t).point.inside = false)
    (behind : th.point.inside = false) (held : th.locks = th.point.holds) :
    Kept (n.move t (n.buffers, th)) := by
  have still (u : Fin k) (here : ((n.move t (n.buffers, th)).thread u).point.inside = true) :
      (n.thread u).point.inside = true := by
    by_cases other : u = t
    · rw [other, move_self, behind] at here
      cases here
    · rw [move_other other] at here
      exact here
  constructor
  case sound => exact kept.sound
  case good =>
    intro u
    by_cases other : u = t
    · rw [other, move_self]
      exact ⟨held, needs_outside behind⟩
    · rw [move_other other]
      exact kept.good u
  case single =>
    intro u v u_inside v_inside
    exact kept.single u v (still u u_inside) (still v v_inside)
  case live =>
    intro clean
    refine kept.live fun u => ?_
    by_cases other : u = t
    · rw [other]
      exact clean_outside before
    · have same := clean u
      rw [move_other other] at same
      exact same

theorem go_kept (kept : Kept n) (others : ∀ u, u ≠ t → (n.thread u).point.inside = false) :
    Kept (step n (.go t ret)) := by
  have live (clean : (n.thread t).point.dirty = false) : Live n.buffers := by
    refine kept.live fun u => ?_
    by_cases other : u = t
    · rw [other]
      exact clean
    · exact clean_outside (others u other)
  obtain ⟨sound, good, live⟩ := go_alone ret (kept.good t) kept.sound live
  exact move_alone kept others sound good live

theorem step_kept (kept : Kept n) (e : Event k) (apart : Apart n e) : Kept (step n e) := by
  cases e with
  | connect t socket =>
    rw [step]
    split
    case isTrue enabled =>
      have outside : ∀ u, (n.thread u).point.inside = false := by
        refine apart.resolve_left fun missing => ?_
        rw [missing] at enabled
        cases enabled.2
      have held := (kept.good t).held
      rw [enabled.1] at held
      exact move_alone kept (fun u _ => outside u) kept.sound ⟨held, enabled.2⟩
        fun _ => kept.live fun u => clean_outside (outside u)
    case isFalse => exact kept
  | receive t socket ret =>
    rw [step]
    split
    case isTrue enabled =>
      have held := (kept.good t).held
      rw [enabled.1] at held
      exact move_outside kept (by rw [enabled.1]; rfl) rfl held
    case isFalse => exact kept
  | go t ret =>
    cases inside : (n.thread t).point.inside with
    | true =>
      apply go_kept kept
      intro u other
      by_contra both
      exact other (kept.single u t (Bool.not_eq_false _ ▸ both) inside)
    | false =>
      have held := (kept.good t).held
      cases here : (n.thread t).point with
      | idle =>
        rw [step, Thread.go, here]
        exact move_outside kept inside inside held
      | unlocking socket =>
        rw [step, Thread.go, here]
        refine move_outside kept inside rfl ?_
        rw [held, here]
        simp [Point.holds]
      | failed => exact go_kept kept fun u _ => apart here u
      | _ =>
        rw [here] at inside
        cases inside

/-- The threads come apart in their accesses to the pointer: every buffer is freed once and not
    accessed behind that, and no lock is held outside of the functions. -/
theorem nitz_data_safe (k : Nat) (events : List (Event k))
    (apart : Meets step Apart (Nitz.start k) events) :
    Visits step Safe (Nitz.start k) events := by
  have start : Kept (Nitz.start k) := by
    constructor
    case sound => exact ⟨nodup_nil, nofun, nofun, rfl⟩
    case good => exact fun t => ⟨rfl, trivial⟩
    case single => exact fun t u inside => nomatch inside
    case live => exact fun _ => nofun
  have holds : ∀ n : Nitz k, Kept n → Safe n := by
    intro n kept
    refine ⟨kept.sound.distinct, kept.sound.fresh, ?_⟩
    intro t idle
    rw [(kept.good t).held, idle]
    rfl
  exact visits_of_meets holds (fun _ e kept => step_kept kept e) events _ start apart

/-- A NITZ time is kept for a client that is not there yet. -/
def keep (t : Fin 2) : List (Event 2) :=
  [.receive t 0 (-1), .go t 0, .go t 0, .go t 0]

/-- A client connects, and takes these steps. -/
def resend (t : Fin 2) (steps : Nat) : List (Event 2) :=
  .connect t t.val :: List.replicate steps (.go t 0)

theorem resend_safe : Visits step Safe (Nitz.start 2) (keep 0 ++ resend 0 7 ++ keep 1) :=
  nitz_data_safe 2 _ (by decide)

/-- Two clients: the second one finds the pointer cleared behind its lock; or it frees the buffer
    again; or it reads the freed buffer. -/
theorem resend_unsafe :
    ¬ ∃ events ∈ [keep 0 ++ [.connect 1 1] ++ resend 0 7 ++ replicate 2 (.go 1 0),
      keep 0 ++ resend 1 4 ++ resend 0 5 ++ [.go 1 0],
      keep 0 ++ resend 1 3 ++ resend 0 5 ++ [.go 1 0]],
    Safe (events.foldl step (Nitz.start 2)) := by
  decide

end UnsolicitedResponses
