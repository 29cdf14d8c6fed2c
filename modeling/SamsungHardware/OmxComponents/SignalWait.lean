import Mathlib

/- `SEC_OSAL_SignalWait`: the deadline of a timed wait is computed in 32-bit arithmetic. -/
namespace SignalWait

structure TimeVal where
  (tvSec tvUsec : Nat)
  normal : tvUsec < 1000000

structure TimeSpec where
  (tvSec tvNsec : Nat)
  deriving DecidableEq

inductive OmxError where
  | none | timeout | badParameter

/-- A return of the condition wait, with the flag of the event that is found after it. -/
structure Wake where
  (timedOut signal : Bool)

def defMaxWaitTime : UInt32 := 0xFFFFFFFF

def deadline (now : TimeVal) (ms : UInt32) : TimeSpec :=
  let tvUs := UInt32.ofNat now.tvUsec + ms * 1000
  ⟨now.tvSec + (tvUs / 1000000).toNat, (tvUs % 1000000 * 1000).toNat⟩

/-- The deadlines of the waits, and the result unless the last wait does not return. -/
def timedWait (limit : TimeSpec) : Bool → List Wake → List TimeSpec × Option OmxError
  | true, _ => ([], some .none)
  | false, [] => ([limit], none)
  | false, wake :: wakes =>
    if !wake.signal && wake.timedOut then ([limit], some .timeout)
    else
      let rest := timedWait limit wake.signal wakes
      (limit :: rest.1, rest.2)

/-- An event is its flag; `locked` is whether its mutex could be taken. -/
def signalWait (event : Option Bool) (now : TimeVal) (locked : Bool) (ms : UInt32)
    (wakes : List Wake) : List TimeSpec × Option OmxError :=
  match event, locked with
  | some signal, true =>
    if ms = 0 then ([], some (if signal then .none else .timeout))
    else if ms = defMaxWaitTime then
      ([], if signal || wakes.any Wake.signal then some .none else none)
    else timedWait (deadline now ms) signal wakes
  | _, _ => ([], some .badParameter)

variable (now : TimeVal) (ms : UInt32) (event : Option Bool) (locked : Bool) (wakes : List Wake)

/-- In nanoseconds, the limit is the given time later. -/
def Exact (limit : TimeSpec) : Prop :=
  limit.tvNsec < 10 ^ 9 ∧ limit.tvSec * 10 ^ 9 + limit.tvNsec =
    now.tvSec * 10 ^ 9 + now.tvUsec * 1000 + ms.toNat * 10 ^ 6

theorem deadline_exact_iff : Exact now ms (deadline now ms) ↔
    now.tvUsec + ms.toNat * 1000 < 2 ^ 32 := by
  have normal := now.normal
  have fits (us : Nat) : us % 1000000 * 1000 % 4294967296 = us % 1000000 * 1000 := by omega
  simp only [Exact, deadline, UInt32.reduceToNat, UInt32.toNat_add, UInt32.toNat_mul,
    UInt32.toNat_div, UInt32.toNat_mod, UInt32.toNat_ofNat', Nat.reducePow, ← Nat.add_mod, fits]
  omega

theorem timedWait_limit (limit : TimeSpec) (signal : Bool) :
    ∀ given ∈ (timedWait limit signal wakes).1, given = limit := by
  fun_induction timedWait limit signal wakes with
  | case1 => simp
  | case2 => simp
  | case3 => simp
  | case4 _ _ _ rest ih => exact List.forall_mem_cons.mpr ⟨rfl, ih⟩

theorem signalWait_limit :
    ∀ given ∈ (signalWait event now locked ms wakes).1, given = deadline now ms := by
  fun_cases signalWait event now locked ms wakes with
  | case1 => simp
  | case2 => simp
  | case3 signal => exact timedWait_limit wakes _ signal
  | case4 => simp

theorem timedWait_waits (limit : TimeSpec) : (timedWait limit false wakes).1 ≠ [] := by
  cases wakes with
  | nil => exact List.cons_ne_nil _ _
  | cons wake wakes =>
    rw [timedWait]
    split <;> exact List.cons_ne_nil _ _

/-- There is no wait with a deadline without the event or its mutex, for the two special times, and
    when the event is already signalled. -/
theorem no_deadline_iff : (signalWait event now locked ms wakes).1 = [] ↔
    event ≠ some false ∨ locked = false ∨ ms = 0 ∨ ms = defMaxWaitTime := by
  fun_cases signalWait event now locked ms wakes with
  | case1 signal zero => simp [zero]
  | case2 signal given longest => simp [longest]
  | case3 signal given bounded =>
    cases signal with
    | true => simp [timedWait]
    | false => simp [timedWait_waits, given, bounded]
  | case4 event locked other =>
    simp only [true_iff]
    by_contra ready
    simp only [not_or, ne_eq, not_not, Bool.not_eq_false] at ready
    exact other false ready.1 ready.2.1

def clockStart : TimeVal := ⟨0, 0, by decide⟩

end SignalWait
