import Pipoco.OutAdapter
import Pipoco.Runs

/-!
Reserved windows and pending transitions of a queue adapter stay matched.

The adapter keeps the same schedule twice: as windows in its frontier and as transitions in its
queue. The two are changed by different code, on different paths. What ties them together is
that the ends of the windows are the pending `Low` edges, counted with multiplicity.
-/

namespace Pipoco.Ownership

open Domain SchedState SchedQueue Lowering OutAdapter
open Runs OutAdapter.ScheduledQueueAdapter
open scoped List

inductive AdapterOp
  | scheduleOutputBatch (batch : List OutputTransition)
  | applyLowered {out aux : ℕ} (lowered : BoardApiBatchExecutor out aux)
  | drainDue (now : Micros) (m : ℕ)
  | drainDueWithFrontier (now : Micros) (m : ℕ)
  | commitFrontierHorizon (horizonId : TimingIslandHorizonSequenceId)
      (horizonStartUs horizonEndUs heartbeatDeadlineUs : Micros) (permitMask : SafetyPermitMask)
  | noteFrontierHeartbeat (now : Micros)
  | expireFrontier (now : Micros)
  | cancelAll
  | onSyncLoss
  | onHardSafetyShutdown

variable {n : ℕ}

def step (a : ScheduledQueueAdapter n) : AdapterOp → ScheduledQueueAdapter n
  | .scheduleOutputBatch batch => (a.scheduleOutputBatch batch).1
  | .applyLowered lowered => (a.applyLowered lowered).1
  | .drainDue now m => (a.drainDue now m).1
  | .drainDueWithFrontier now m => (a.drainDueWithFrontier now m).1
  | .commitFrontierHorizon i s e d p => (a.commitFrontierHorizon i s e d p).1
  | .noteFrontierHeartbeat now => a.noteFrontierHeartbeat now
  | .expireFrontier now => a.expireFrontier now
  | .cancelAll => a.cancelAll
  | .onSyncLoss => a.onSyncLoss
  | .onHardSafetyShutdown => a.onHardSafetyShutdown

/-- The windows are the pending pulses: they end where the pending `Low`s are, they do not
overlap on one output, and each is well formed. -/
structure Matched (a : ScheduledQueueAdapter n) : Prop where
  ends : (a.frontier.windows.map endKey).Perm (edges .low a.queue.pending)
  apart : a.frontier.windows.Pairwise Apart
  wellFormed : ∀ w ∈ a.frontier.windows, WellFormed w

variable {a : ScheduledQueueAdapter n}

lemma Matched.congr {b : ScheduledQueueAdapter n} (h : Matched a)
    (hw : b.frontier.windows = a.frontier.windows) (hq : b.queue.pending = a.queue.pending) :
    Matched b := by
  refine ⟨?_, ?_, ?_⟩
  · rw [hw, hq]; exact h.ends
  · rw [hw]; exact h.apart
  · rw [hw]; exact h.wellFormed

lemma matched_of_empty (hw : a.frontier.windows = []) (hq : a.queue.pending = []) : Matched a := by
  refine ⟨?_, ?_, ?_⟩
  · rw [hw, hq]; exact List.Perm.refl _
  · rw [hw]; exact List.Pairwise.nil
  · rw [hw]; simp

lemma matched_new : Matched (new : ScheduledQueueAdapter n) :=
  matched_of_empty SchedulerState.windows_new pending_new

variable (a) in
lemma matched_cancelAllWithReason (r : TimingIslandStopReason) :
    Matched (a.cancelAllWithReason r) := matched_of_empty (by simp) (by simp)

lemma Matched.rejected (h : Matched a) : Matched a.rejected := by
  unfold ScheduledQueueAdapter.rejected
  split_ifs
  · exact matched_cancelAllWithReason a _
  · exact h

/-- An accepted batch adds as many windows as `Low`s, with the same ends. -/
lemma Matched.scheduleOutputBatch (h : Matched a) (batch : List OutputTransition) :
    Matched (a.scheduleOutputBatch batch).1 := by
  rcases a.scheduleOutputBatch_cases batch with
    ⟨queue, frontier, heq, hb, hres, hq⟩ | ⟨e, heq⟩
  · rw [heq]
    obtain ⟨hperm, hwf, hpair⟩ := reserveAll_ok hres
    refine ⟨?_, hpair h.apart, fun w hw => ?_⟩
    · calc frontier.windows.map endKey
        _ ~ (batchWindows batch ++ a.frontier.windows).map endKey := hperm.map _
        _ = (batchWindows batch).map endKey ++ a.frontier.windows.map endKey := List.map_append
        _ ~ edges .low (batch.map scheduledTransition) ++ edges .low a.queue.pending :=
          (batchWindows_ends hb).append h.ends
        _ = edges .low (batch.map scheduledTransition ++ a.queue.pending) :=
          (edges_append _ _ _).symm
        _ ~ edges .low queue.pending := edges_perm_of_perm hq.symm
    · rcases List.mem_append.mp (hperm.mem_iff.mp hw) with hw | hw
      · exact hwf w hw
      · exact h.wellFormed w hw
  · rw [heq]; exact h.rejected

lemma Matched.applyLowered {out aux : ℕ} (h : Matched a) (lowered : BoardApiBatchExecutor out aux) :
    Matched (a.applyLowered lowered).1 := by
  rcases a.applyLowered_cases lowered with ⟨a', hs, heq⟩ | ⟨e, -, heq⟩
  · have hc : Matched (a.cancelled lowered.status.cancelScheduler) := by
      rcases hr : lowered.status.cancelScheduler with _ | reason
      · exact h
      · exact matched_cancelAllWithReason a _
    have := hc.scheduleOutputBatch lowered.outputTransitions.items
    rw [hs] at this
    rw [heq]
    exact this
  · rw [heq]; exact h.rejected

/-- A drain releases the windows of the `Low`s it drained, whatever the size of the buffer. -/
lemma Matched.drainDue (h : Matched a) (now : Micros) (m : ℕ) : Matched (a.drainDue now m).1 := by
  have hd := a.queue.drainDue_spec now m
  have hsub := windows_noteDrainedOwnership_sublist a.frontier (a.queue.drainDue now m).2
  refine ⟨?_, h.apart.sublist hsub, fun w hw => h.wellFormed w (hsub.subset hw)⟩
  exact noteDrainedOwnership_ends (h.ends.trans (edges_perm_of_perm hd.perm.symm))

lemma Matched.drainDueWithFrontier (h : Matched a) (now : Micros) (m : ℕ) :
    Matched (a.drainDueWithFrontier now m).1 := by
  rcases a.drainDueWithFrontier_cases now m with ⟨-, heq⟩ | ⟨-, heq⟩
  · rw [heq]; exact matched_of_empty (by simp) (by simp)
  · rw [heq]
    have he : Matched (a.expireFrontier now) := h.congr (by simp [expireFrontier]) rfl
    exact he.drainDue now m

variable (a) in
lemma matched_step (op : AdapterOp) (h : Matched a) : Matched (step a op) := by
  cases op with
  | scheduleOutputBatch batch => exact h.scheduleOutputBatch batch
  | applyLowered lowered => exact h.applyLowered lowered
  | drainDue now m => exact h.drainDue now m
  | drainDueWithFrontier now m => exact h.drainDueWithFrontier now m
  | commitFrontierHorizon => exact h.congr (by simp [step, commitFrontierHorizon]) rfl
  | noteFrontierHeartbeat => exact h.congr (by simp [step, noteFrontierHeartbeat]) rfl
  | expireFrontier => exact h.congr (by simp [step, expireFrontier]) rfl
  | cancelAll => exact matched_cancelAllWithReason a _
  | onSyncLoss => exact matched_of_empty (by simp [step, onSyncLoss]) (pending_cancelAll _)
  | onHardSafetyShutdown =>
    exact matched_of_empty (by simp [step, onHardSafetyShutdown]) (pending_cancelAll _)

lemma matched_run (ops : List AdapterOp) : Matched (run step (new : ScheduledQueueAdapter n) ops) :=
  run_inv matched_step matched_new ops

/-- **Windows and transitions never drift apart.** After every run of an adapter of any size,
the reserved windows and the pending `Low`s correspond one to one, each window ending at the
deadline of its `Low` on the same output, and no two reserved windows of one output overlap. -/
theorem windows_match_pending_lows (n : ℕ) (ops : List AdapterOp) :
    ((run step (new : ScheduledQueueAdapter n) ops).frontier.windows.map endKey).Perm
        (edges .low (run step (new : ScheduledQueueAdapter n) ops).queue.pending) ∧
      (run step (new : ScheduledQueueAdapter n) ops).frontier.windows.Pairwise Apart :=
  ⟨(matched_run ops).ends, (matched_run ops).apart⟩

end Pipoco.Ownership
