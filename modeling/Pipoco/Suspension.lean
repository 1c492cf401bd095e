import Pipoco.Ownership

/-!
Suspension as a gate.

After a sync loss or a hard safety shutdown the scheduler is suspended until sync is
recovered. Plans are refused in that mode, but reservations and batches do not look at it: a
reservation arms its group, and arming leaves the suspended mode. The runs below are those of
an adapter whose frontier and queue may also be used directly, as their accessors allow. The
main result says exactly which calls keep the gate shut.
-/

namespace Pipoco.Suspension

open Domain SchedState SchedQueue OutAdapter Ownership SchedulerState
open Runs

/-! ### Operations -/

inductive SchedOp
  | armGroup (group : OutputGroup)
  | reserveWindow (output : ExclusiveChannel) (startAt endAt : Micros)
  | cancelGroup (group : OutputGroup)
  | cancelAll
  | suspend
  | onSyncLoss
  | onSyncRecovered
  | onGeometryCommit
  | onHardSafetyShutdown
  | commitHorizon (horizonId : TimingIslandHorizonSequenceId)
      (horizonStartUs horizonEndUs heartbeatDeadlineUs : Micros) (permitMask : SafetyPermitMask)
  | noteHeartbeat (now : Micros)
  | expireFrontier (now : Micros)
  | clearLiveFrontierState (stopReason : TimingIslandStopReason)
  | expireHeartbeat (now : Micros)
  | expireHorizon (now : Micros)
  | scheduleInjection (now startAt endAt : Micros) (plan : InjectionPlan)
  | scheduleIgnition (now startAt endAt : Micros) (plan : IgnitionPlan)
  | noteDrainedTransition (transition : ScheduledTransition)
  | clearScheduledOwnership

def schedStep (s : SchedulerState) : SchedOp → SchedulerState
  | .armGroup g => s.armGroup g
  | .reserveWindow o a b => (s.reserveWindow o a b).1
  | .cancelGroup g => s.cancelGroup g
  | .cancelAll => s.cancelAll
  | .suspend => s.suspend
  | .onSyncLoss => s.onSyncLoss
  | .onSyncRecovered => s.onSyncRecovered
  | .onGeometryCommit => s.onGeometryCommit
  | .onHardSafetyShutdown => s.onHardSafetyShutdown
  | .commitHorizon i a b d m => (s.commitHorizon i a b d m).1
  | .noteHeartbeat now => s.noteHeartbeat now
  | .expireFrontier now => s.expireFrontier now
  | .clearLiveFrontierState r => s.clearLiveFrontierState r
  | .expireHeartbeat now => (s.expireHeartbeat now).1
  | .expireHorizon now => (s.expireHorizon now).1
  | .scheduleInjection now a b p => (s.scheduleInjection now a b p).1
  | .scheduleIgnition now a b p => (s.scheduleIgnition now a b p).1
  | .noteDrainedTransition t => s.noteDrainedTransition t
  | .clearScheduledOwnership => s.clearScheduledOwnership

inductive QueueOp
  | enqueueTransition (transition : ScheduledTransition)
  | enqueueExport (transitions : List ScheduledTransition)
  | drainDue (now : Micros) (m : ℕ)
  | cancelChannelAfter (channel : ChannelId) (cutoff : Micros)
  | cancelChannelAll (channel : ChannelId)
  | cancelGroup (group : OutputGroup)
  | cancelAll

variable {n : ℕ} (a : ScheduledQueueAdapter n)

def queueStep (q : ScheduledTransitionQueue n) : QueueOp → ScheduledTransitionQueue n
  | .enqueueTransition t => (q.enqueueTransition t).1
  | .enqueueExport ts => (q.enqueueExport ts).1
  | .drainDue now m => (q.drainDue now m).1
  | .cancelChannelAfter c cutoff => q.cancelChannelAfter c cutoff
  | .cancelChannelAll c => q.cancelChannelAll c
  | .cancelGroup g => q.cancelGroup g
  | .cancelAll => q.cancelAll

/-- An operation of the adapter, or one of its parts through an accessor. -/
inductive Op
  | adapter (op : AdapterOp)
  | frontier (op : SchedOp)
  | queue (op : QueueOp)

/-- The operations that shut the gate. -/
def Op.shuts : Op → Bool
  | .adapter .onSyncLoss | .adapter .onHardSafetyShutdown => true
  | .frontier .onSyncLoss | .frontier .onHardSafetyShutdown => true
  | _ => false

def Op.opens : Op → Bool
  | .frontier .onSyncRecovered => true
  | _ => false

/-- An adapter, and whether it has been shut and not been opened since. -/
structure Gated (n : ℕ) where
  adapter : ScheduledQueueAdapter n
  shut : Bool

def apply : Op → ScheduledQueueAdapter n
  | .adapter op => Ownership.step a op
  | .frontier op => { a with frontier := schedStep a.frontier op }
  | .queue op => { a with queue := queueStep a.queue op }

variable (g : Gated n)

def step (op : Op) : Gated n := ⟨apply g.adapter op, op.shuts || g.shut && !op.opens⟩

/-! ### The gate -/

/-- The gate holds over an operation: the mode stays suspended, no window is added to the
reserved ones and no transition to the pending ones. -/
structure Kept (a a' : ScheduledQueueAdapter n) : Prop where
  mode : a'.frontier.mode = .suspended
  windows : a'.frontier.windows.Sublist a.frontier.windows
  pending : a'.queue.pending.Sublist a.queue.pending

/-- The property of one operation: if the gate is shut after it, the mode is suspended, and if
the gate was shut before, nothing was added. -/
def Holds (op : Op) : Prop :=
  (step g op).shut = true → (step g op).adapter.frontier.mode = .suspended ∧
    (g.shut = true → Kept g.adapter (step g op).adapter)

/-- The calls that keep the gate: no group is armed, a reserved window is one that is refused
in any mode, a batch is empty or inadmissible, and nothing is put into the queue directly. -/
def Quiet : Op → Prop
  | .frontier (.armGroup _) => False
  | .frontier (.reserveWindow o s e) => ¬ WellFormed ⟨o, s, e⟩
  | .adapter (.scheduleOutputBatch batch) => batch = [] ∨ ¬ a.Admissible batch
  | .adapter (.applyLowered lowered) => lowered.outputTransitions.items = [] ∨
      ¬ (a.cancelled lowered.status.cancelScheduler).Admissible lowered.outputTransitions.items
  | .queue (.enqueueTransition _) => maxMetadataCapacity < n ∨ a.queue.freeSlots = 0
  | .queue (.enqueueExport ts) => ts = [] ∨ maxMetadataCapacity < n ∨ a.queue.freeSlots < ts.length
  | _ => True

/-- While shut, the calls are quiet. -/
def Condition (op : Op) : Prop := g.shut = true → Quiet g.adapter op

/-- What is true of a shut gate that has held so far. -/
def Inv : Prop :=
  g.shut = true → g.adapter.frontier.mode = .suspended ∧ g.adapter.frontier.windows = []

/-! ### One operation -/

section step

variable {a : ScheduledQueueAdapter n} (q : ScheduledTransitionQueue n) {s : SchedulerState}

lemma kept_frontier_iff (hw : a.frontier.windows = []) (f : SchedulerState) :
    Kept a { a with frontier := f } ↔ f.mode = .suspended ∧ f.windows = [] := by
  constructor
  · rintro ⟨hm, hs, -⟩
    rw [hw, List.sublist_nil] at hs
    exact ⟨hm, hs⟩
  · rintro ⟨hm, hs⟩
    exact ⟨hm, by rw [hs]; exact List.nil_sublist _, List.Sublist.refl _⟩

lemma kept_queue_iff (hm : a.frontier.mode = .suspended) (q : ScheduledTransitionQueue n) :
    Kept a { a with queue := q } ↔ q.pending.Sublist a.queue.pending :=
  ⟨fun h => h.pending, fun h => ⟨hm, List.Sublist.refl _, h⟩⟩

lemma scheduleWindow_suspended (hm : s.mode = .suspended) (now startAt endAt : Micros)
    (output : ExclusiveChannel) :
    s.scheduleWindow now startAt endAt output = (s, .error .suspended) := by
  simp [scheduleWindow, ensureSchedulable, hm]

/-- A scheduler without windows accepts any well-formed one, and is armed by it. -/
lemma reserveWindow_suspended (hm : s.mode = .suspended) (hw : s.windows = [])
    (output : ExclusiveChannel) (startAt endAt : Micros) :
    ((s.reserveWindow output startAt endAt).1.mode = .suspended ∧
      (s.reserveWindow output startAt endAt).1.windows = []) ↔
    ¬ WellFormed ⟨output, startAt, endAt⟩ := by
  rcases s.reserveWindow_cases output startAt endAt with
    ⟨table, -, hwf, -, heq⟩ | ⟨hbad, e, heq⟩
  · rw [heq]
    exact ⟨fun h => absurd (show SchedulerMode.armed = .suspended from h.1) (by decide),
      fun h => absurd hwf h⟩
  · rw [heq]
    refine ⟨fun _ => ?_, fun _ => ⟨hm, hw⟩⟩
    rcases hbad with hbad | ⟨w, hwm, -⟩ | hfull
    · exact hbad
    · rw [hw] at hwm; cases hwm
    · rw [hw] at hfull; cases hfull

lemma frontier_kept_iff (hm : s.mode = .suspended) (hw : s.windows = []) (op : SchedOp)
    (ho : op ≠ .onSyncRecovered) :
    ((schedStep s op).mode = .suspended ∧ (schedStep s op).windows = []) ↔
      Quiet (⟨.new, s⟩ : ScheduledQueueAdapter n) (.frontier op) := by
  cases op with
  | armGroup g => simp [schedStep, armGroup, Quiet]
  | reserveWindow o a b => exact reserveWindow_suspended hm hw o a b
  | onSyncRecovered => exact absurd rfl ho
  | cancelGroup g => simp [schedStep, Quiet, hw, mode_cancelGroup_suspended s g hm]
  | onGeometryCommit =>
    have h₁ := mode_cancelGroup_suspended s .injector hm
    simp [schedStep, Quiet, hw, onGeometryCommit, mode_cancelGroup_suspended _ .ignition h₁]
  | noteDrainedTransition t =>
    simp [schedStep, Quiet, windows_noteDrainedTransition, hw,
      mode_noteDrainedTransition_suspended s t hm]
  | scheduleInjection now a b p =>
    simp [schedStep, Quiet, scheduleInjection, scheduleWindow_suspended hm, hm, hw]
  | scheduleIgnition now a b p =>
    simp [schedStep, Quiet, scheduleIgnition, scheduleWindow_suspended hm, hm, hw]
  | cancelAll => simp [schedStep, Quiet, cancelAll, hm]
  | suspend => simp [schedStep, Quiet]
  | onSyncLoss => simp [schedStep, Quiet, onSyncLoss]
  | onHardSafetyShutdown => simp [schedStep, Quiet, onHardSafetyShutdown]
  | commitHorizon | noteHeartbeat | expireFrontier | clearLiveFrontierState | expireHeartbeat
  | expireHorizon => simp [schedStep, Quiet, hm, hw]
  | clearScheduledOwnership => simp [schedStep, Quiet, hm]

lemma enqueueTransition_sublist_iff (t : ScheduledTransition) :
    (q.enqueueTransition t).1.pending.Sublist q.pending ↔
      maxMetadataCapacity < n ∨ q.freeSlots = 0 := by
  rw [freeSlots_eq]
  rcases enqueueTransition_cases q t with ⟨hn, hlt, q', he, hperm⟩ | ⟨hfull, he⟩
  · rw [he]
    refine ⟨fun hs => ?_, fun h => ?_⟩
    · have : q'.pending.length ≤ q.pending.length := hs.length_le
      have := hperm.length_eq
      rw [List.length_cons] at this
      omega
    · omega
  · rw [he]
    exact ⟨fun _ => by omega, fun _ => List.Sublist.refl _⟩

lemma enqueueExport_sublist_iff (ts : List ScheduledTransition) :
    (q.enqueueExport ts).1.pending.Sublist q.pending ↔
      ts = [] ∨ maxMetadataCapacity < n ∨ q.freeSlots < ts.length := by
  unfold ScheduledTransitionQueue.enqueueExport
  by_cases hfree : q.freeSlots < ts.length
  · rw [if_pos hfree]
    exact ⟨fun _ => .inr (.inr hfree), fun _ => List.Sublist.refl _⟩
  rw [if_neg hfree]
  by_cases hn : maxMetadataCapacity < n
  · refine ⟨fun _ => .inr (.inl hn), fun _ => ?_⟩
    rcases ts with _ | ⟨t, ts⟩
    · exact List.Sublist.refl _
    · rw [ScheduledTransitionQueue.enqueueAll, ScheduledTransitionQueue.enqueueTransition,
        if_pos hn]
  · rw [freeSlots_eq] at hfree
    obtain ⟨q', hq'⟩ := enqueueAll_of_fits (q := q) (not_lt.mp hn) (not_lt.mp hfree)
    have hlen := (enqueueAll_ok hq').length_eq
    rw [List.length_append] at hlen
    rw [hq']
    refine ⟨fun hs => .inl ?_, fun h => ?_⟩
    · have : q'.pending.length ≤ q.pending.length := hs.length_le
      exact List.length_eq_zero_iff.mp (by omega)
    · rw [freeSlots_eq] at h
      obtain rfl : ts = [] := by
        rcases h with h | h | h
        · exact h
        · exact absurd h hn
        · exact absurd h hfree
      cases hq'
      exact List.Sublist.refl _

lemma queue_kept_iff (op : QueueOp) (f : SchedulerState) :
    (queueStep q op).pending.Sublist q.pending ↔ Quiet ⟨q, f⟩ (.queue op) := by
  cases op with
  | enqueueTransition t => exact enqueueTransition_sublist_iff q t
  | enqueueExport ts => exact enqueueExport_sublist_iff q ts
  | drainDue now m => exact ⟨fun _ => trivial, fun _ => (q.drainDue_spec now m).sub⟩
  | cancelChannelAfter c cutoff =>
    exact ⟨fun _ => trivial, fun _ => by
      rw [queueStep, ScheduledTransitionQueue.cancelChannelAfter, pending_cancelWhere]
      exact List.filter_sublist⟩
  | cancelChannelAll c =>
    exact ⟨fun _ => trivial, fun _ => by
      rw [queueStep, ScheduledTransitionQueue.cancelChannelAll, pending_cancelWhere]
      exact List.filter_sublist⟩
  | cancelGroup g =>
    refine ⟨fun _ => trivial, fun _ => ?_⟩
    cases g
    · rw [queueStep, ScheduledTransitionQueue.cancelGroup, ScheduledTransitionQueue.cancelKind,
        pending_cancelWhere]
      exact List.filter_sublist
    · rw [queueStep, ScheduledTransitionQueue.cancelGroup, ScheduledTransitionQueue.cancelKind,
        pending_cancelWhere]
      exact List.filter_sublist
    · exact List.Sublist.refl _
    · exact List.Sublist.refl _
  | cancelAll => exact ⟨fun _ => trivial, fun _ => by simp [queueStep]⟩

lemma mode_noteDrainedOwnership (hm : s.mode = .suspended) (out : List ScheduledTransition) :
    (ScheduledQueueAdapter.noteDrainedOwnership s out).mode = .suspended := by
  induction out generalizing s with
  | nil => exact hm
  | cons t out ih => exact ih (mode_noteDrainedTransition_suspended s t hm)

lemma kept_of_empty {a' : ScheduledQueueAdapter n} (hm : a'.frontier.mode = .suspended)
    (hw : a'.frontier.windows = []) (hq : a'.queue.pending = []) : Kept a a' :=
  ⟨hm, by rw [hw]; exact List.nil_sublist _, by rw [hq]; exact List.nil_sublist _⟩

variable (hm : a.frontier.mode = .suspended)
include hm

lemma kept_cancelAllWithReason (r : TimingIslandStopReason) : Kept a (a.cancelAllWithReason r) :=
  kept_of_empty (by simp [ScheduledQueueAdapter.cancelAllWithReason, hm]) (by simp) (by simp)

lemma kept_rejected : Kept a a.rejected := by
  unfold ScheduledQueueAdapter.rejected
  split_ifs
  · exact kept_cancelAllWithReason hm _
  · exact ⟨hm, List.Sublist.refl _, List.Sublist.refl _⟩

lemma kept_drainDue (now : Micros) (m : ℕ) : Kept a (a.drainDue now m).1 :=
  ⟨mode_noteDrainedOwnership hm _,
    ScheduledQueueAdapter.windows_noteDrainedOwnership_sublist _ _,
    (a.queue.drainDue_spec now m).sub⟩

lemma kept_drainDueWithFrontier (now : Micros) (m : ℕ) :
    Kept a (a.drainDueWithFrontier now m).1 := by
  rcases a.drainDueWithFrontier_cases now m with ⟨-, heq⟩ | ⟨-, heq⟩
  · rw [heq]
    exact kept_of_empty (by simp [hm]) (by simp) (by simp)
  · rw [heq]
    have he : (a.expireFrontier now).frontier.mode = .suspended := by
      simpa [ScheduledQueueAdapter.expireFrontier] using hm
    obtain ⟨h₁, h₂, h₃⟩ := kept_drainDue he now m
    refine ⟨h₁, ?_, h₃⟩
    simpa [ScheduledQueueAdapter.expireFrontier] using h₂

omit hm in
/-- A batch accepted over whatever was there arms the scheduler, unless it is empty. -/
lemma accepted_kept_iff {b b' : ScheduledQueueAdapter n} {batch : List OutputTransition}
    (h : b.scheduleOutputBatch batch = (b', .ok ())) (hb : Kept a b) :
    Kept a b' ↔ batch = [] := by
  refine ⟨fun hk => ?_, fun he => ?_⟩
  · by_contra hne
    have := hk.mode
    rw [ScheduledQueueAdapter.mode_scheduleOutputBatch h hne] at this
    cases this
  · subst he
    cases h
    exact hb

lemma kept_scheduleOutputBatch_iff (batch : List OutputTransition) :
    Kept a (a.scheduleOutputBatch batch).1 ↔ batch = [] ∨ ¬ a.Admissible batch := by
  rw [← ScheduledQueueAdapter.scheduleOutputBatch_ok_iff]
  rcases a.scheduleOutputBatch_cases batch with ⟨queue, frontier, heq, -⟩ | ⟨e, heq⟩
  · rw [heq, accepted_kept_iff heq ⟨hm, List.Sublist.refl _, List.Sublist.refl _⟩]
    simp
  · rw [heq]
    simpa using kept_rejected hm

lemma kept_cancelled (reason : Option CancelReason) : Kept a (a.cancelled reason) := by
  rcases reason with _ | reason
  · exact ⟨hm, List.Sublist.refl _, List.Sublist.refl _⟩
  · exact kept_cancelAllWithReason hm _

lemma kept_applyLowered_iff {out aux : ℕ} (lowered : Lowering.BoardApiBatchExecutor out aux) :
    Kept a (a.applyLowered lowered).1 ↔ lowered.outputTransitions.items = [] ∨
      ¬ (a.cancelled lowered.status.cancelScheduler).Admissible
        lowered.outputTransitions.items := by
  rw [← ScheduledQueueAdapter.scheduleOutputBatch_ok_iff]
  rcases a.applyLowered_cases lowered with ⟨a', hs, heq⟩ | ⟨e, ⟨b, hs⟩, heq⟩
  · rw [heq, hs, accepted_kept_iff hs (kept_cancelled hm _)]
    simp
  · rw [heq, hs]
    simpa using kept_rejected hm

/-- **Which operations keep the gate.** For a suspended adapter without windows, an operation
that does not recover sync keeps the gate exactly when it is quiet. -/
theorem kept_iff_quiet (hw : a.frontier.windows = []) (op : Op) (ho : op.opens = false) :
    Kept a (apply a op) ↔ Quiet a op := by
  cases op with
  | frontier op =>
    have hne : op ≠ .onSyncRecovered := by rintro rfl; cases ho
    rw [apply, kept_frontier_iff hw, frontier_kept_iff (n := n) hm hw op hne]
    cases op <;> rfl
  | queue op =>
    rw [apply, kept_queue_iff hm]
    exact queue_kept_iff a.queue op a.frontier
  | adapter op =>
    cases op with
    | scheduleOutputBatch batch => exact kept_scheduleOutputBatch_iff hm batch
    | applyLowered lowered => exact kept_applyLowered_iff hm lowered
    | drainDue now m => exact ⟨fun _ => trivial, fun _ => kept_drainDue hm now m⟩
    | drainDueWithFrontier now m =>
      exact ⟨fun _ => trivial, fun _ => kept_drainDueWithFrontier hm now m⟩
    | commitFrontierHorizon | noteFrontierHeartbeat | expireFrontier =>
      exact ⟨fun _ => trivial, fun _ => (kept_frontier_iff hw _).mpr (by simp [hm, hw])⟩
    | cancelAll => exact ⟨fun _ => trivial, fun _ => kept_cancelAllWithReason hm _⟩
    | onSyncLoss =>
      exact ⟨fun _ => trivial, fun _ => kept_of_empty rfl (by
        simp [apply, Ownership.step, ScheduledQueueAdapter.onSyncLoss]) (pending_cancelAll _)⟩
    | onHardSafetyShutdown =>
      exact ⟨fun _ => trivial, fun _ => kept_of_empty rfl (by
        simp [apply, Ownership.step, ScheduledQueueAdapter.onHardSafetyShutdown])
        (pending_cancelAll _)⟩

end step

/-! ### Whole runs -/

variable {op : Op}

lemma shuts_inv (h : op.shuts = true) :
    (apply a op).frontier.mode = .suspended ∧ (apply a op).frontier.windows = [] := by
  unfold Op.shuts at h
  split at h
  · exact ⟨rfl, windows_onSyncLoss _⟩
  · exact ⟨rfl, windows_onHardSafetyShutdown _⟩
  · exact ⟨rfl, windows_onSyncLoss _⟩
  · exact ⟨rfl, windows_onHardSafetyShutdown _⟩
  · cases h

variable {g}

lemma inv_step (hg : Inv g) (hh : Holds g op) : Inv (step g op) := by
  intro hs
  by_cases hshut : op.shuts = true
  · exact shuts_inv g.adapter hshut
  · obtain ⟨hm, hkept⟩ := hh hs
    simp only [step, Bool.or_eq_true, Bool.and_eq_true] at hs
    have hg' : g.shut = true := (hs.resolve_left hshut).1
    have hsub := (hkept hg').windows
    rw [(hg hg').2, List.sublist_nil] at hsub
    exact ⟨hm, hsub⟩

lemma quiet_of_opens (h : op.opens = true) : Quiet a op := by
  unfold Op.opens at h
  split at h
  · trivial
  · cases h

lemma holds_iff_condition (hg : Inv g) : Holds g op ↔ Condition g op := by
  rcases hs : g.shut with _ | _
  · -- the gate was open: the property is about the operations that shut it
    simp only [Holds, Condition, hs, Bool.false_eq_true, false_implies, and_true, iff_true]
    intro h
    simp only [step, hs, Bool.false_and, Bool.or_false] at h
    exact (shuts_inv g.adapter h).1
  · obtain ⟨hm, hw⟩ := hg hs
    rcases ho : op.opens with _ | _
    · have hstep : (step g op).shut = true := by simp [step, hs, ho]
      simp only [Holds, Condition, hs, hstep, true_implies]
      rw [← kept_iff_quiet hm hw op ho]
      exact ⟨fun h => h.2, fun h => ⟨h.mode, h⟩⟩
    · refine ⟨fun _ _ => quiet_of_opens g.adapter ho, fun _ h => ?_⟩
      have hn : op.shuts = false := by
        unfold Op.opens at ho
        split at ho
        · rfl
        · cases ho
      simp [step, ho, hn] at h

variable (g)

/-- **When suspension is a gate.** From any adapter, over any sequence of operations: the gate
holds at every operation exactly when, while it is shut, no group is armed and no well-formed
window reserved directly, every batch is empty or inadmissible, and nothing is enqueued
directly. Reservations and batches do not look at the mode. -/
theorem gate_holds_iff (a : ScheduledQueueAdapter n) (ops : List Op) :
    Along step Holds ⟨a, false⟩ ops ↔ Along step Condition ⟨a, false⟩ ops := by
  have h0 : Inv (⟨a, false⟩ : Gated n) := nofun
  refine along_iff_of_inv (I := Inv) (L := fun _ _ => True) ?_ ?_ h0 along_true
  · exact fun g op hg _ => holds_iff_condition hg
  · exact fun g op hg _ hh => inv_step hg hh

/-- A sync loss, then an ordinary batch of one pulse. -/
def suspendedThenBatch : List Op :=
  [.adapter .onSyncLoss,
    .adapter (.scheduleOutputBatch [⟨.injector 1, .high, 100⟩, ⟨.injector 1, .low, 200⟩])]

/-- The batch is accepted: the scheduler leaves the suspended mode, a window is reserved and two
transitions are queued, with no recovery in between. -/
theorem batch_opens_suspended_gate :
    (run step (⟨.new, false⟩ : Gated 4) suspendedThenBatch).shut = true ∧
      (run step (⟨.new, false⟩ : Gated 4) suspendedThenBatch).adapter.frontier.mode = .armed ∧
      (run step (⟨.new, false⟩ : Gated 4) suspendedThenBatch).adapter.frontier.windows =
        [⟨⟨.injector, 1⟩, 100, 200⟩] ∧
      (run step (⟨.new, false⟩ : Gated 4) suspendedThenBatch).adapter.queue.pending.length = 2 ∧
      ¬ Along step Holds (⟨.new, false⟩ : Gated 4) suspendedThenBatch := by
  refine ⟨by decide +kernel, by decide +kernel, by decide +kernel, by decide +kernel, fun h => ?_⟩
  exact absurd (h.2.1 rfl).1 (by decide +kernel)

end Pipoco.Suspension
