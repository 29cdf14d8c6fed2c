import SamsungHardware.AudioRouting.UsecaseRouting

/- The lock of an output stream over one call of `out_write` in audio_hw.c, with `out_standby` and
   `out_write_offload` of compress_offload.c. -/
namespace WriteLock
open UsecaseRouting

inductive LockCall where
  | lock | unlock
  deriving DecidableEq

/-- A stream and the results of the calls made while it is written to. With preprocessing the lock is
    given back and taken again before a stream leaves standby, and `standbyAgain` is read. -/
structure Write where
  usecase : PlaybackUsecase
  offloadState : OffloadState
  (standby preprocessing standbyAgain : Bool)
  (startOutputStream enableOutputPath : Int)
  pcmWrites : List Int

def outStandby : List LockCall := [.lock, .unlock]

def exit (ret : Int) : List LockCall := .unlock :: if ret ≠ 0 then outStandby else []

namespace Write

variable (w : Write)

def started : Int :=
  if w.standby && (!w.preprocessing || w.standbyAgain) then w.startOutputStream else 0

def outWriteOffload : List LockCall :=
  if w.offloadState = .pausedFlushed ∧ w.enableOutputPath ≠ 0 then [] else [.unlock]

def lockAgain : List LockCall := if w.standby && w.preprocessing then [.unlock, .lock] else []

def outWrite : List LockCall :=
  .lock :: w.lockAgain ++
    if w.started ≠ 0 then exit w.started
    else if w.usecase = .audioPlaybackOffload then w.outWriteOffload
    else exit (w.pcmWrites.foldl (fun ret status => if status ≠ 0 then status else ret) 0)

theorem exit_counts (ret : Int) : (exit ret).count .unlock = (exit ret).count .lock + 1 := by
  unfold exit outStandby
  split_ifs <;> decide

theorem outWriteOffload_counts :
    w.outWriteOffload.count .unlock = w.outWriteOffload.count .lock + 1 ↔
      ¬ (w.offloadState = .pausedFlushed ∧ w.enableOutputPath ≠ 0) := by
  unfold outWriteOffload
  split_ifs with fails
  · exact iff_of_false (by decide) (not_not_intro fails)
  · exact iff_of_true (by decide) fails

theorem lock_given_back_iff : w.outWrite.count .unlock = w.outWrite.count .lock ↔
    ¬ (w.started = 0 ∧ w.usecase = .audioPlaybackOffload ∧ w.offloadState = .pausedFlushed ∧
      w.enableOutputPath ≠ 0) := by
  have taken : ∀ rest, (.lock :: w.lockAgain ++ rest).count .unlock =
      (.lock :: w.lockAgain ++ rest).count .lock ↔ rest.count .unlock = rest.count .lock + 1 := by
    intro rest
    unfold lockAgain
    split_ifs <;> simp
  rw [outWrite, taken]
  by_cases fails : w.started ≠ 0
  · rw [if_pos fails]
    exact iff_of_true (exit_counts _) fun stays => fails stays.1
  rw [if_neg fails]
  by_cases offload : w.usecase = .audioPlaybackOffload
  · rw [if_pos offload, outWriteOffload_counts]
    simp only [not_not.mp fails, offload, true_and]
  · rw [if_neg offload]
    exact iff_of_true (exit_counts _) fun stays => offload stays.2.1

theorem failed_enable_keeps_lock :
    (Write.mk .audioPlaybackOffload .pausedFlushed false false false 0 (-12) []).outWrite =
      [.lock] := by
  decide

end Write

end WriteLock
