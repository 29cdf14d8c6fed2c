import SamsungHardware.Library.StepRuns

/- The reference count of the DDC device in libddc.c. -/
namespace DdcReferences
open StepRuns

/-- Descriptors are numbered as they are opened; `closed` are those given to `close`, which are gone
    even if it fails. -/
structure Ddc where
  ddcFd : Option Nat
  refCnt : UInt32
  opened : Nat
  closed : List Nat

def ddcOpen (s : Ddc) (succeeds : Bool) : Int × Ddc :=
  if s.refCnt > 0 then (1, { s with refCnt := s.refCnt + 1 })
  else if succeeds then
    (1, { s with ddcFd := some s.opened, opened := s.opened + 1, refCnt := s.refCnt + 1 })
  else (0, { s with ddcFd := none, refCnt := s.refCnt + 1 })

def ddcClose (s : Ddc) (succeeds : Bool) : Int × Ddc :=
  if s.refCnt = 0 then (1, s)
  else if s.refCnt > 1 then (1, { s with refCnt := s.refCnt - 1 })
  else (if succeeds then 1 else 0,
    { s with ddcFd := none, refCnt := s.refCnt - 1, closed := s.ddcFd.toList ++ s.closed })

inductive Call where
  | ddcOpen (succeeds : Bool)
  | ddcClose (succeeds : Bool)

def step (s : Ddc) : Call → Ddc
  | .ddcOpen succeeds => (ddcOpen s succeeds).2
  | .ddcClose succeeds => (ddcClose s succeeds).2

def start : Ddc := ⟨none, 0, 0, []⟩

def Counted (s : Ddc) : Prop := (0 < s.refCnt ↔ s.ddcFd.isSome) ∧ s.closed.Nodup

def LeavesOpen (s : Ddc) : Call → Prop
  | .ddcOpen succeeds => (ddcOpen s succeeds).1 = 1 → (ddcOpen s succeeds).2.ddcFd.isSome
  | .ddcClose _ => True

/-- The device can be opened, and the count does not overflow. -/
def Opens (s : Ddc) : Call → Prop
  | .ddcOpen succeeds => (s.refCnt = 0 → succeeds = true) ∧ s.refCnt + 1 ≠ 0
  | .ddcClose _ => True

structure Kept (s : Ddc) : Prop where
  counted : Counted s
  fresh : ∀ fd ∈ s.ddcFd, fd < s.opened ∧ fd ∉ s.closed
  old : ∀ fd ∈ s.closed, fd < s.opened

theorem Kept.step {s : Ddc} (kept : Kept s) (call : Call) (opens : Opens s call) :
    Kept (step s call) := by
  obtain ⟨⟨counted, once⟩, fresh, old⟩ := kept
  cases call with
  | ddcOpen succeeds =>
    obtain ⟨can, small⟩ := opens
    have positive : 0 < s.refCnt + 1 := UInt32.pos_iff_ne_zero.mpr small
    simp only [DdcReferences.step, ddcOpen]
    split_ifs with used ok
    · exact ⟨⟨iff_of_true positive (counted.mp used), once⟩, fresh, old⟩
    · refine ⟨⟨iff_of_true positive rfl, once⟩, ?_, fun fd member => Nat.lt_succ_of_lt (old fd member)⟩
      rintro fd ⟨⟩
      exact ⟨Nat.lt_succ_self _, fun member => Nat.lt_irrefl _ (old _ member)⟩
    · exact absurd (can (by grind)) ok
  | ddcClose succeeds =>
    simp only [DdcReferences.step, ddcClose]
    split
    · exact ⟨⟨counted, once⟩, fresh, old⟩
    · rename_i used
      have shown := counted.mp (UInt32.pos_iff_ne_zero.mpr used)
      split
      · exact ⟨⟨iff_of_true (by grind) shown, once⟩, fresh, old⟩
      · have one : s.refCnt - 1 = 0 := by grind
        obtain ⟨fd, current⟩ := Option.isSome_iff_exists.mp shown
        obtain ⟨within, unclosed⟩ := fresh fd current
        rw [one, current]
        exact ⟨⟨by simp, List.nodup_cons.mpr ⟨unclosed, once⟩⟩, nofun,
          List.forall_mem_cons.mpr ⟨within, old⟩⟩

theorem references_counted_iff (calls : List Call) :
    Visits step Counted start calls ∧ Meets step LeavesOpen start calls ↔
      Meets step Opens start calls := by
  have holds : ∀ s, Kept s → Counted s := fun _ kept => kept.counted
  have keep : ∀ s call, Kept s → Opens s call → Kept (step s call) :=
    fun _ call kept opens => kept.step call opens
  have first : Kept start := ⟨⟨by decide, List.nodup_nil⟩, nofun, nofun⟩
  have fails : ∀ s call, Kept s → ¬ Opens s call → ¬ Counted (step s call) := by
    intro s call kept missing counted
    cases call with
    | ddcOpen succeeds =>
      have before := kept.counted.1
      have after := counted.1
      simp only [step, ddcOpen] at after
      split_ifs at after with used ok
      · have open_after := after.mpr (before.mp used)
        exact missing ⟨by grind, UInt32.pos_iff_ne_zero.mp open_after⟩
      · exact missing ⟨fun _ => ok, by grind⟩
      · simp at after
        grind
    | ddcClose succeeds => exact missing trivial
  have opens : ∀ s call, Kept s → Opens s call → LeavesOpen s call := by
    intro s call kept opens
    cases call with
    | ddcOpen succeeds =>
      simp only [LeavesOpen, ddcOpen]
      split_ifs with used ok
      · exact fun _ => kept.counted.1.mp used
      · exact fun _ => rfl
      · exact nofun
    | ddcClose succeeds => trivial
  rw [visits_iff_meets holds keep fails calls start first, and_iff_left_iff_imp]
  exact meets_of_meets keep opens calls start first

theorem failed_open_counted :
    (step start (.ddcOpen false)).refCnt = 1 ∧ (step start (.ddcOpen false)).ddcFd = none ∧
      (ddcOpen (step start (.ddcOpen false)) false).1 = 1 := by
  decide

end DdcReferences
