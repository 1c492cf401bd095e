import Pipoco.OutPins
import Pipoco.Runs

/-!
Discarded `Low`s and the pins they leave behind.

The ways a schedule is dropped, a cancel action, a cancel, a sync loss, a safety shutdown, an
expired horizon or heartbeat, the fallback after a refused action, all empty the queue, and none
of them writes a pin. A pin that is high when its pending `Low` is dropped is therefore driven
low by the next call only if another `Low` for it is queued in the meantime, is due by then, and
is let through by the frontier.
-/

namespace Pipoco.Discard

open Domain SchedState SchedQueue Lowering OutAdapter
open OutPins Runs

/-! ### Runs of an executor with its pins -/

/-- The operations of an executor. Pins are driven through `drainAndApplyDue` only. -/
inductive ExecOp
  | execute (action : Action)
  | executeBatch (actions : List Action)
  | commitFrontierHorizon (horizonId : TimingIslandHorizonSequenceId)
      (horizonStartUs horizonEndUs heartbeatDeadlineUs : Micros) (permitMask : SafetyPermitMask)
  | noteFrontierHeartbeat (now : Micros)
  | expireFrontier (now : Micros)
  | cancelAll
  | onSyncLoss
  | onHardSafetyShutdown
  | drainAndApplyDue (now : Micros) (m : ℕ) (banks : PinBanks) (fault : ℕ → Bool)

variable {n : ℕ} (x : ScheduledActionExecutor n) (now : Micros)

def after : ExecOp → ScheduledActionExecutor n
  | .execute action => (x.execute action).1
  | .executeBatch actions => (x.executeBatch actions).1
  | .commitFrontierHorizon i s e d p => ⟨(x.scheduler.commitFrontierHorizon i s e d p).1⟩
  | .noteFrontierHeartbeat now => ⟨x.scheduler.noteFrontierHeartbeat now⟩
  | .expireFrontier now => ⟨x.scheduler.expireFrontier now⟩
  | .cancelAll => ⟨x.scheduler.cancelAll⟩
  | .onSyncLoss => ⟨x.scheduler.onSyncLoss⟩
  | .onHardSafetyShutdown => ⟨x.scheduler.onHardSafetyShutdown⟩
  | .drainAndApplyDue now m banks fault => (x.drainAndApplyDue now m banks fault).1

def writes : ExecOp → List ScheduledTransition
  | .drainAndApplyDue now m banks fault => (x.drainAndApplyDue now m banks fault).2.1
  | _ => []

def ExecOp.drains : ExecOp → Bool
  | .drainAndApplyDue _ _ _ _ => true
  | _ => false

/-- An executor, its pins, and the pins that have lost their pending `Low` while high since the
last call of `drainAndApplyDue` began. -/
structure Rig (n : ℕ) where
  executor : ScheduledActionExecutor n
  pins : Pins
  owed : Set ExclusiveChannel

def Rig.new : Rig n := ⟨.new, fun _ => .low, ∅⟩

def Rig.pending (r : Rig n) : List ScheduledTransition := r.executor.scheduler.queue.pending

variable (r : Rig n)

/-- Over an operation, a pin that is left high loses a pending `Low` that was not written. -/
def Discards (op : ExecOp) (o : ExclusiveChannel) : Prop :=
  driveAll r.pins (writes r.executor op) o = .high ∧
    ∃ lo ∈ r.pending, lo.level = .low ∧ lo.output = o ∧
      lo ∉ (after r.executor op).scheduler.queue.pending ∧ lo ∉ writes r.executor op

def step (op : ExecOp) : Rig n where
  executor := after r.executor op
  pins := driveAll r.pins (writes r.executor op)
  owed := { o | Discards r op o ∨ op.drains = false ∧ o ∈ r.owed }

/-- The property of one operation: a call drives low every pin that is owed it. -/
def Holds (op : ExecOp) : Prop :=
  op.drains = true → ∀ o ∈ r.owed, ∃ t ∈ writes r.executor op, t.output = o ∧ t.level = .low

/-- The frontier lets a call through at this time. -/
def passes (now : Micros) : Bool :=
  r.executor.scheduler.frontier.lastAcceptedHorizonId.isNone ||
    !ScheduledTransitionQueue.gateClosed (r.executor.scheduler.frontier.expireFrontier now)

/-- For every pin that is owed a `Low`, another one is pending, is due, and is let through. -/
def Rescheduled : ExecOp → Prop
  | .drainAndApplyDue now _ _ _ => ∀ o ∈ r.owed, passes r now = true ∧
      ∃ lo ∈ r.pending, lo.level = .low ∧ lo.output = o ∧ isDue now lo.atUs = true
  | _ => True

/-- Calls have room for everything due, pins for every channel, and no write fails. -/
def Legal : ExecOp → Prop
  | .drainAndApplyDue now m banks fault => m ≤ maxMetadataCapacity ∧
      (r.pending.filter fun t => isDue now t.atUs).length ≤ m ∧
      (∀ t ∈ r.pending, isDue now t.atUs = true → banks.covers t = true) ∧
      ∀ i, fault i = false
  | _ => True

/-! ### One call -/

variable {r} {op : ExecOp}

section call

variable {r : Rig n} {now : Micros} {m : ℕ} {banks : PinBanks} {fault : ℕ → Bool}

/-- With the gate shut a call drains nothing and drops everything. -/
lemma drain_of_not_passes (h : passes r now = false) :
    (r.executor.drain now m).2 = [] ∧ (r.executor.drain now m).1.queue.pending = [] := by
  simp only [passes, Bool.or_eq_false_iff, Option.isNone_eq_false_iff, Bool.not_eq_false'] at h
  rw [ScheduledActionExecutor.drain, if_pos h.1]
  rcases r.executor.scheduler.drainDueWithFrontier_cases now m with ⟨-, heq⟩ | ⟨hg, -⟩
  · rw [heq]; exact ⟨rfl, by simp⟩
  · rw [h.2] at hg; cases hg

lemma drain_of_passes (h : passes r now = true) :
    (r.executor.drain now m).2 = (r.executor.scheduler.queue.drainDue now m).2 ∧
      (r.executor.drain now m).1.queue = (r.executor.scheduler.queue.drainDue now m).1 := by
  rw [ScheduledActionExecutor.drain]
  by_cases hid : r.executor.scheduler.frontier.lastAcceptedHorizonId.isSome
  · rw [if_pos hid]
    rcases r.executor.scheduler.drainDueWithFrontier_cases now m with ⟨hg, -⟩ | ⟨-, heq⟩
    · simp [passes, hg, Option.isSome_iff_ne_none.mp hid] at h
    · rw [heq]; exact ⟨rfl, rfl⟩
  · rw [if_neg hid]; exact ⟨rfl, rfl⟩

lemma mem_writes_iff (hl : Legal r (.drainAndApplyDue now m banks fault))
    (t : ScheduledTransition) :
    t ∈ writes r.executor (.drainAndApplyDue now m banks fault) ↔
      passes r now = true ∧ t ∈ r.pending ∧ isDue now t.atUs = true := by
  obtain ⟨hm, hroom, hcov, hf⟩ := hl
  have hd := r.executor.scheduler.queue.drainDue_spec now m
  have hrest := r.executor.scheduler.queue.drainDue_complete now hm hroom
  have hwrites : writes r.executor (.drainAndApplyDue now m banks fault) =
      (applyDrainedTransitions banks fault (r.executor.drain now m).2).1 :=
    drainAndApplyDue_writes r.executor now m banks fault
  rcases hp : passes r now with _ | _
  · rw [hwrites, (drain_of_not_passes hp).1]
    simp [applyDrainedTransitions, applyLoop]
  · have hmem : ∀ u ∈ (r.executor.drain now m).2, u ∈ r.pending ∧ isDue now u.atUs = true := by
      rw [(drain_of_passes hp).1]
      exact fun u hu => ⟨hd.perm.mem_iff.mp (List.mem_append_left _ hu), hd.due u hu⟩
    rw [hwrites, applyDrainedTransitions_of_ok hf fun u hu => hcov u (hmem u hu).1 (hmem u hu).2]
    refine ⟨fun ht => ⟨rfl, hmem t ht⟩, ?_⟩
    rintro ⟨-, ht, hdue⟩
    show t ∈ (r.executor.drain now m).2
    rw [(drain_of_passes hp).1]
    rcases List.mem_append.mp (hd.perm.mem_iff.mpr ht) with ht | ht
    · exact ht
    · rw [hrest t ht] at hdue; cases hdue

end call

/-- **One call.** A call drives low every pin that is owed a `Low` exactly when for each of them
another `Low` is pending, due and let through. -/
lemma holds_iff_rescheduled (hl : Legal r op) : Holds r op ↔ Rescheduled r op := by
  cases op with
  | drainAndApplyDue now m banks fault =>
    simp only [Holds, Rescheduled, ExecOp.drains, true_implies, mem_writes_iff hl]
    refine forall₂_congr fun o _ => ⟨?_, ?_⟩
    · rintro ⟨t, ⟨hp, ht, hdue⟩, ho, hlow⟩
      exact ⟨hp, t, ht, hlow, ho, hdue⟩
    · rintro ⟨hp, t, ht, hlow, ho, hdue⟩
      exact ⟨t, ⟨hp, ht, hdue⟩, ho, hlow⟩
  | _ => simp [Holds, Rescheduled, ExecOp.drains]

/-- **When a discarded `Low` is made good.** In every run of an executor and its pins, with
calls that have room for everything due, cover its channels and meet no failing write: every pin
that loses its pending `Low` while high is driven low by the next call exactly when at that call
another `Low` of the pin is pending, due and let through by the frontier. -/
theorem discarded_low_driven_iff (n : ℕ) (ops : List ExecOp)
    (hl : Along step Legal (Rig.new : Rig n) ops) :
    Along step Holds (Rig.new : Rig n) ops ↔ Along step Rescheduled (Rig.new : Rig n) ops :=
  along_iff_of_inv (I := fun _ => True) (fun _ _ _ hl => holds_iff_rescheduled hl)
    (fun _ _ _ _ _ => trivial) trivial hl

/-- One injection pulse. -/
def pulse : Action := .armInjection ⟨⟨⟨.injector, 1⟩, 90⟩, 10, 100⟩

def call : ExecOp := .drainAndApplyDue now 4 ⟨2, 2⟩ fun _ => false

/-- The pulse is queued, a call falls inside it, and sync is lost. -/
def lossRun : List ExecOp := [.execute pulse, call 20, .onSyncLoss]

theorem discarded_low_driven_iff_lossRun :
    Along step Legal (Rig.new : Rig 4) (lossRun ++ [call 200]) ∧
      (Along step Holds (Rig.new : Rig 4) (lossRun ++ [call 200]) ↔
        Along step Rescheduled (Rig.new : Rig 4) (lossRun ++ [call 200])) := by
  have hl : Along step Legal (Rig.new : Rig 4) (lossRun ++ [call 200]) :=
    ⟨trivial, ⟨by decide, by decide +kernel, by decide +kernel, fun _ => rfl⟩, trivial,
      ⟨by decide, by decide +kernel, by decide +kernel, fun _ => rfl⟩, trivial⟩
  exact ⟨hl, discarded_low_driven_iff 4 _ hl⟩

/-- The injector is left open: its `Low` is dropped by the sync loss while the pin is high, the
next call writes nothing, and the pin is still high after it. -/
theorem sync_loss_leaves_injector_high :
    ⟨.injector, 1⟩ ∈ (run step (Rig.new : Rig 4) lossRun).owed ∧
      writes (run step (Rig.new : Rig 4) lossRun).executor (call 200) = [] ∧
      (run step (Rig.new : Rig 4) (lossRun ++ [call 200])).pins ⟨.injector, 1⟩ = .high ∧
      ¬ Along step Holds (Rig.new : Rig 4) (lossRun ++ [call 200]) := by
  have howed : ⟨.injector, 1⟩ ∈ (run step (Rig.new : Rig 4) lossRun).owed := by
    refine Or.inl ⟨by decide +kernel, ⟨100, .injector, 1, .low⟩, by decide +kernel, rfl, rfl,
      by decide +kernel, by decide +kernel⟩
  have hnone : writes (run step (Rig.new : Rig 4) lossRun).executor (call 200) = [] := by
    decide +kernel
  refine ⟨howed, hnone, by decide +kernel, fun h => ?_⟩
  obtain ⟨t, ht, -⟩ := (((along_append step Holds _ lossRun _).mp h).2.1 rfl) _ howed
  cases ht

/-! ### A dropped `Low` is not made good by waiting -/

variable {o : ExclusiveChannel} (a : ScheduledQueueAdapter n)

/-- The operations that may put transitions into the queue. -/
def ExecOp.arms : ExecOp → Bool
  | .execute action => !(actionTransitions action).isEmpty
  | .executeBatch _ => true
  | _ => false

lemma pending_cancelled_subset (reason : Option CancelReason) :
    (a.cancelled reason).queue.pending ⊆ a.queue.pending := by
  rcases reason with _ | reason
  · exact List.Subset.refl _
  · show (a.cancelAllWithReason _).queue.pending ⊆ _
    simp

/-- An action without transitions only ever cancels. -/
lemma executeActionOnScheduler_of_nil {action : Action} (h : actionTransitions action = []) :
    ∃ reason, (executeActionOnScheduler a action).1 = a.cancelled reason := by
  unfold executeActionOnScheduler BoardApiBatchExecutor.execute
  rcases hlow : lowerActionToBoardBatches action
    (.new : BoardApiBatchExecutor actionOutputScratchCap runtimeAuxCommandCap).outputTransitions _
    with e | ⟨outputs, commands, status⟩
  · exact ⟨none, rfl⟩
  · have hnil : outputs.items = [] := by
      rw [(lowerActionToBoardBatches_ok hlow).1, h]; rfl
    set lowered : BoardApiBatchExecutor actionOutputScratchCap runtimeAuxCommandCap :=
      ⟨outputs, commands, BoardApiBatchExecutor.new.status.merge status⟩ with hlowered
    refine ⟨lowered.status.cancelScheduler, ?_⟩
    show (a.applyLowered lowered).1 = _
    rcases a.applyLowered_cases lowered with ⟨a', hs, heq⟩ | ⟨e, ⟨b, hs⟩, -⟩
    · rw [heq]
      rw [show lowered.outputTransitions.items = [] from hnil,
        ScheduledQueueAdapter.scheduleOutputBatch_nil] at hs
      exact (Prod.mk.inj hs).1.symm
    · rw [show lowered.outputTransitions.items = [] from hnil,
        ScheduledQueueAdapter.scheduleOutputBatch_nil] at hs
      cases (Prod.mk.inj hs).2

lemma drain_subset (m : ℕ) :
    (x.drain now m).2 ⊆ x.scheduler.queue.pending ∧
      (x.drain now m).1.queue.pending ⊆ x.scheduler.queue.pending := by
  have hd := x.scheduler.queue.drainDue_spec now m
  have hplain : (x.scheduler.queue.drainDue now m).2 ⊆ x.scheduler.queue.pending :=
    fun t ht => hd.perm.mem_iff.mp (List.mem_append_left _ ht)
  rw [ScheduledActionExecutor.drain]
  split_ifs
  · rcases x.scheduler.drainDueWithFrontier_cases now m with ⟨-, heq⟩ | ⟨-, heq⟩
    · rw [heq]; simp
    · rw [heq]; exact ⟨hplain, hd.sub.subset⟩
  · exact ⟨hplain, hd.sub.subset⟩

section quiet

variable (x : ScheduledActionExecutor n) {op : ExecOp}

/-- An operation that arms nothing adds nothing to the queue. -/
lemma pending_after_subset (h : op.arms = false) :
    (after x op).scheduler.queue.pending ⊆ x.scheduler.queue.pending := by
  cases op with
  | execute action =>
    have hnil : actionTransitions action = [] := by simpa [ExecOp.arms] using h
    obtain ⟨reason, hr⟩ := executeActionOnScheduler_of_nil x.scheduler hnil
    show (executeActionOnScheduler x.scheduler action).1.queue.pending ⊆ _
    rw [hr]
    exact pending_cancelled_subset x.scheduler reason
  | executeBatch actions => cases h
  | commitFrontierHorizon | noteFrontierHeartbeat | expireFrontier => exact List.Subset.refl _
  | cancelAll => exact pending_cancelled_subset x.scheduler (some .manual)
  | onSyncLoss | onHardSafetyShutdown => exact (pending_cancelAll _) ▸ List.nil_subset _
  | drainAndApplyDue now m banks fault =>
    rcases drainAndApplyDue_scheduler x now m banks fault with heq | heq
    · simp only [after, heq]; exact (drain_subset x now m).2
    · simp [after, heq]

lemma writes_subset : writes x op ⊆ x.scheduler.queue.pending := by
  cases op with
  | drainAndApplyDue now m banks fault =>
    show (x.drainAndApplyDue now m banks fault).2.1 ⊆ _
    rw [drainAndApplyDue_writes]
    exact List.Subset.trans (writes_sublist banks fault _).subset (drain_subset x now m).1
  | _ => exact List.nil_subset _

end quiet

/-- A pin is high and nothing in the queue will lower it. -/
structure Stuck (r : Rig n) (o : ExclusiveChannel) : Prop where
  high : r.pins o = .high
  noLow : ∀ t ∈ r.pending, t.output = o → t.level = .high

lemma Stuck.step (h : Stuck r o) (ha : op.arms = false) : Stuck (step r op) o where
  high := driveAll_high h.high fun t ht => h.noLow t (writes_subset r.executor ht)
  noLow := fun t ht => h.noLow t (pending_after_subset r.executor ha ht)

/-- An operation without faults that arms nothing and drops a `Low` of a high pin leaves the pin
stuck: the queue is empty after it. -/
lemma stuck_of_discards (hl : Legal r op) (ha : op.arms = false) (hd : Discards r op o) :
    Stuck (Discard.step r op) o := by
  obtain ⟨hhigh, lo, hlo, hlow, -, hgone, hnw⟩ := hd
  refine ⟨hhigh, ?_⟩
  suffices hnil : (after r.executor op).scheduler.queue.pending = [] by
    intro t ht
    have ht' : t ∈ (after r.executor op).scheduler.queue.pending := ht
    rw [hnil] at ht'
    cases ht'
  cases op with
  | execute action =>
    have hnil : actionTransitions action = [] := by simpa [ExecOp.arms] using ha
    obtain ⟨reason, hr⟩ := executeActionOnScheduler_of_nil r.executor.scheduler hnil
    have hafter : (after r.executor (.execute action)).scheduler =
        r.executor.scheduler.cancelled reason := hr
    rw [hafter] at hgone ⊢
    rcases reason with _ | reason
    · exact absurd hlo hgone
    · exact pending_cancelAll _
  | executeBatch actions => cases ha
  | commitFrontierHorizon | noteFrontierHeartbeat | expireFrontier => exact absurd hlo hgone
  | cancelAll | onSyncLoss | onHardSafetyShutdown => exact pending_cancelAll _
  | drainAndApplyDue now m banks fault =>
    rcases drainAndApplyDue_scheduler r.executor now m banks fault with heq | heq
    · rcases hp : passes r now with _ | _
      · simp only [after, heq]; exact (drain_of_not_passes hp).2
      · -- with the gate open, what leaves the queue is written
        exfalso
        have hdue : isDue now lo.atUs = true := by
          simp only [after, heq, (drain_of_passes hp).2] at hgone
          rcases List.mem_append.mp ((r.executor.scheduler.queue.drainDue_spec now
            m).perm.mem_iff.mpr hlo) with h | h
          · exact (r.executor.scheduler.queue.drainDue_spec now m).due lo h
          · exact absurd h hgone
        exact hnw ((mem_writes_iff hl lo).mpr ⟨hp, hlo, hdue⟩)
    · simp [after, heq]

/-- **Waiting does not help.** Once the pending `Low` of a high pin is dropped, the pin stays high
through any number of calls, cancels, losses and shutdowns, until something is armed again. -/
theorem discarded_pin_stays_high (hl : Legal r op) (ha : op.arms = false) (hd : Discards r op o)
    {ops : List ExecOp} (hq : ∀ op ∈ ops, op.arms = false) :
    (run step r (op :: ops)).pins o = .high := by
  have hstuck : Stuck (run step (step r op) ops) o :=
    run_inv_along (I := fun r => Stuck r o) (C := fun _ op => op.arms = false)
      (fun _ _ h hop => h.step hop) (stuck_of_discards hl ha hd)
      (along_of_forall (fun op hop _ => hq op hop) _)
  exact hstuck.high

theorem discarded_pin_stays_high_loss :
    (run step (run step (Rig.new : Rig 4) [.execute pulse, call 20])
      [.onSyncLoss, call 200, .cancelAll, call 300]).pins ⟨.injector, 1⟩ = .high :=
  discarded_pin_stays_high (show Legal _ .onSyncLoss from trivial) rfl ⟨by decide +kernel, ⟨100, .injector, 1, .low⟩,
    by decide +kernel, rfl, rfl, by decide +kernel, by decide +kernel⟩ (by decide)

end Pipoco.Discard
