import Pipoco.Discard
import Pipoco.Watchdog

/-!
Two ways to tick a board, and the frontier that only one of them obeys.

The executor's own call drains through the frontier as soon as a horizon has ever been accepted.
The call of the homogeneous output bank always drains plainly. Both then apply what was drained in
the same way, so they drive the same pins exactly as long as the frontier would not have stopped
the drain.
-/

namespace Pipoco.Banks

open Domain SchedState SchedQueue Lowering OutAdapter ScheduledTransitionQueue
open OutPins Discard Suspension Watchdog Runs

variable {n : ℕ}

/-! ### Runs -/

variable (x : ScheduledActionExecutor n)

/-- The operations of an executor: its own, those of its parts through the accessors, and the call
of an output bank. -/
inductive BankOp
  | exec (op : ExecOp)
  | frontier (op : SchedOp)
  | queue (op : QueueOp)
  | outputs (banks : PinBanks) (now : Micros) (m : ℕ) (fault : ℕ → Bool)

def after : BankOp → ScheduledActionExecutor n
  | .exec op => Discard.after x op
  | .frontier op => ⟨{ x.scheduler with frontier := schedStep x.scheduler.frontier op }⟩
  | .queue op => ⟨{ x.scheduler with queue := queueStep x.scheduler.queue op }⟩
  | .outputs banks now m fault => (ScheduledOutputs.drainAndApplyDue banks x now m fault).1

def accepts : BankOp → Bool
  | .exec (.commitFrontierHorizon i s e d p) => (x.scheduler.commitFrontierHorizon i s e d p).2
  | .frontier (.commitHorizon i s e d p) => (x.scheduler.frontier.commitHorizon i s e d p).2
  | _ => false

/-- An executor, and whether a horizon has been accepted so far. -/
structure Bench (n : ℕ) where
  executor : ScheduledActionExecutor n
  accepted : Bool

open Bench

def Bench.new : Bench n := ⟨.new, false⟩

def step (b : Bench n) (op : BankOp) : Bench n :=
  ⟨after b.executor op, b.accepted || accepts b.executor op⟩

/-! ### The property -/

section property

variable (x : ScheduledActionExecutor n) (now : Micros) (m : ℕ) (banks : PinBanks)
  (fault : ℕ → Bool)

/-- The frontier lets a drain through: a horizon is live, something is permitted, and neither the
heartbeat nor the horizon is over. -/
structure Open : Prop where
  live : x.scheduler.frontier.activeHorizonId.isSome
  permit : x.scheduler.frontier.activePermitMask.isEmpty = false
  heartbeat : ¬ HeartbeatOver x.scheduler.frontier now
  horizon : ¬ HorizonOver x.scheduler.frontier now

/-- Both calls drive the same pins, and none when the frontier is not open. -/
structure Agrees : Prop where
  same : (ScheduledOutputs.drainAndApplyDue banks x now m fault).2.1 =
    (x.drainAndApplyDue now m banks fault).2.1
  stopped : ¬ Open x now → (ScheduledOutputs.drainAndApplyDue banks x now m fault).2.1 = [] ∧
    (x.drainAndApplyDue now m banks fault).2.1 = []

def NothingDue : Prop := ∀ t ∈ x.scheduler.queue.pending, isDue now t.atUs = false

/-- The call has room for everything due, pins for every channel, and no write fails. -/
structure Unhindered : Prop where
  capacity : m ≤ maxMetadataCapacity
  room : (x.scheduler.queue.pending.filter fun t => isDue now t.atUs).length ≤ m
  covered : ∀ t ∈ x.scheduler.queue.pending, isDue now t.atUs = true → banks.covers t = true
  writes : ∀ i, fault i = false

end property

/-! ### An accepted horizon is remembered -/

variable (a : ScheduledQueueAdapter n) (s : SchedulerState) (actions : List Action) (now : Micros)

lemma lastAccepted_fades {v w : SchedulerState.HorizonView} (h : Fades v w) :
    w.lastAcceptedHorizonId = v.lastAcceptedHorizonId := by
  cases h <;> rfl

lemma fades_executeActionOnScheduler (action : Action) :
    Fades a.frontier.horizon (executeActionOnScheduler a action).1.frontier.horizon := by
  unfold executeActionOnScheduler
  split
  · exact .kept
  · exact fades_applyLowered a _

lemma fades_executeEach : Fades a.frontier.horizon (executeEach a actions).1.frontier.horizon := by
  induction actions generalizing a with
  | nil => exact .kept
  | cons action actions ih =>
    have hone := fades_executeActionOnScheduler a action
    rw [executeEach]
    rcases hr : executeActionOnScheduler a action with ⟨a', e | _⟩
    · rw [hr] at hone; exact hone
    · rw [hr] at hone; exact hone.trans (ih a')

lemma fades_executeBatch :
    Fades x.scheduler.frontier.horizon
      (x.executeBatch actions).1.scheduler.frontier.horizon := by
  have hall := fades_executeEach x.scheduler actions
  unfold ScheduledActionExecutor.executeBatch
  rcases hr : executeEach x.scheduler actions with ⟨a', e | _⟩
  · exact .kept
  · rw [hr] at hall; exact hall

lemma fades_drain (m : ℕ) :
    Fades x.scheduler.frontier.horizon (x.drain now m).1.frontier.horizon := by
  unfold ScheduledActionExecutor.drain
  split_ifs
  · rw [horizon_drainDueWithFrontier]
    exact fades_expireFrontier x.scheduler.frontier now
  · exact .of_eq (horizon_drainDue x.scheduler now m)

lemma fades_drainAndApplyDue (m : ℕ) (banks : PinBanks) (fault : ℕ → Bool) :
    Fades x.scheduler.frontier.horizon
      (x.drainAndApplyDue now m banks fault).1.scheduler.frontier.horizon := by
  rcases drainAndApplyDue_scheduler x now m banks fault with heq | heq
  · rw [heq]; exact fades_drain x now m
  · rw [heq]; exact (fades_drain x now m).trans (fades_cancelAllWithReason _ _)

lemma isSome_commitHorizon (i : TimingIslandHorizonSequenceId) (a b d : Micros)
    (p : SafetyPermitMask) :
    (s.commitHorizon i a b d p).1.lastAcceptedHorizonId.isSome =
      (s.lastAcceptedHorizonId.isSome || (s.commitHorizon i a b d p).2) := by
  unfold SchedulerState.commitHorizon
  split_ifs <;> simp

lemma lastAccepted_noteHeartbeat :
    (s.noteHeartbeat now).lastAcceptedHorizonId = s.lastAcceptedHorizonId := by
  unfold SchedulerState.noteHeartbeat
  split_ifs <;> rfl

/-- **The gate is entered once.** A horizon has been accepted after an operation exactly when one
had been before or the operation is an accepted commit. -/
lemma isSome_after (op : BankOp) :
    (after x op).scheduler.frontier.lastAcceptedHorizonId.isSome =
      (x.scheduler.frontier.lastAcceptedHorizonId.isSome || accepts x op) := by
  have hsame : ∀ {s : SchedulerState},
      s.lastAcceptedHorizonId = x.scheduler.frontier.lastAcceptedHorizonId →
      s.lastAcceptedHorizonId.isSome =
        (x.scheduler.frontier.lastAcceptedHorizonId.isSome || false) := by
    intro s h
    rw [Bool.or_false, h]
  have hfades : ∀ {s : SchedulerState}, Fades x.scheduler.frontier.horizon s.horizon →
      s.lastAcceptedHorizonId.isSome =
        (x.scheduler.frontier.lastAcceptedHorizonId.isSome || false) := fun h =>
    hsame (lastAccepted_fades h)
  cases op with
  | queue op => exact hfades .kept
  | outputs banks now m fault => exact hfades (.of_eq (horizon_drainDue x.scheduler now m))
  | frontier op =>
    cases op with
    | commitHorizon i a b d p => exact isSome_commitHorizon _ i a b d p
    | noteHeartbeat now => exact hsame (lastAccepted_noteHeartbeat _ now)
    | _ => exact hfades (fades_schedStep _ rfl)
  | exec op =>
    cases op with
    | commitFrontierHorizon i a b d p => exact isSome_commitHorizon _ i a b d p
    | noteFrontierHeartbeat now => exact hsame (lastAccepted_noteHeartbeat _ now)
    | execute action => exact hfades (fades_executeActionOnScheduler x.scheduler action)
    | executeBatch actions => exact hfades (fades_executeBatch x actions)
    | drainAndApplyDue now m banks fault =>
      exact hfades (fades_drainAndApplyDue x now m banks fault)
    | expireFrontier now =>
      have h : feeds (.adapter (.expireFrontier now)) = false := rfl
      exact hfades (fades_apply x.scheduler h)
    | cancelAll =>
      have h : feeds (.adapter .cancelAll) = false := rfl
      exact hfades (fades_apply x.scheduler h)
    | onSyncLoss =>
      have h : feeds (.adapter .onSyncLoss) = false := rfl
      exact hfades (fades_apply x.scheduler h)
    | onHardSafetyShutdown =>
      have h : feeds (.adapter .onHardSafetyShutdown) = false := rfl
      exact hfades (fades_apply x.scheduler h)

/-- In every run the frontier remembers whether a horizon was ever accepted. -/
lemma accepted_eq (ops : List BankOp) :
    (run step (new : Bench n) ops).executor.scheduler.frontier.lastAcceptedHorizonId.isSome =
      (run step (new : Bench n) ops).accepted := by
  refine run_inv (I := fun b : Bench n =>
    b.executor.scheduler.frontier.lastAcceptedHorizonId.isSome = b.accepted) ?_ rfl ops
  intro b op h
  show (after b.executor op).scheduler.frontier.lastAcceptedHorizonId.isSome = _
  rw [isSome_after, h]
  rfl

/-! ### One call -/

section call

variable {x : ScheduledActionExecutor n} {now : Micros} {m : ℕ} {banks : PinBanks}
  {fault : ℕ → Bool}

variable (x)

lemma outputs_writes (now : Micros) (m : ℕ) (banks : PinBanks) (fault : ℕ → Bool) :
    (ScheduledOutputs.drainAndApplyDue banks x now m fault).2.1 =
      (applyDrainedTransitions banks fault (x.scheduler.queue.drainDue now m).2).1 := by
  rw [← ScheduledOutputs.applyDrainedTransitions_eq]
  rfl

lemma gateClosed_iff (now : Micros) :
    gateClosed (x.scheduler.frontier.expireFrontier now) = false ↔ Open x now := by
  rcases expireFrontier_cases x.scheduler.frontier now with ⟨hover, hmask⟩ | ⟨hb, hh, heq⟩
  · have hclosed : gateClosed (x.scheduler.frontier.expireFrontier now) = true := by
      rw [gateClosed, hmask]
      simp [SafetyPermitMask.isEmpty, SafetyPermitMask.none]
    rw [hclosed]
    refine iff_of_false (by simp) fun h => ?_
    exact hover.elim h.heartbeat h.horizon
  · rw [heq, gateClosed, Bool.or_eq_false_iff]
    constructor
    · rintro ⟨hlive, hpermit⟩
      exact ⟨by simpa using hlive, hpermit, hb, hh⟩
    · intro h
      exact ⟨by simpa using h.live, h.permit⟩

variable {x}

variable (hid : x.scheduler.frontier.lastAcceptedHorizonId.isSome)
include hid

/-- Through an open frontier the executor drains plainly, through a closed one not at all. -/
lemma drain_out (now : Micros) (m : ℕ) :
    (Open x now ∧ (x.drain now m).2 = (x.scheduler.queue.drainDue now m).2) ∨
      (¬ Open x now ∧ (x.drain now m).2 = []) := by
  rw [ScheduledActionExecutor.drain, if_pos hid]
  rcases x.scheduler.drainDueWithFrontier_cases now m with ⟨hclosed, heq⟩ | ⟨hopen, heq⟩
  · right
    refine ⟨fun h => ?_, by rw [heq]⟩
    rw [(gateClosed_iff x now).mpr h] at hclosed
    cases hclosed
  · left
    exact ⟨(gateClosed_iff x now).mp hopen, by rw [heq]; rfl⟩

/-- The calls agree exactly when the frontier is open or the plain drain drives nothing. -/
lemma agrees_iff (now : Micros) (m : ℕ) (banks : PinBanks) (fault : ℕ → Bool) :
    Agrees x now m banks fault ↔ Open x now ∨
      (applyDrainedTransitions banks fault (x.scheduler.queue.drainDue now m).2).1 = [] := by
  have hexec := drainAndApplyDue_writes x now m banks fault
  have houtputs := outputs_writes x now m banks fault
  rcases drain_out hid now m with ⟨hopen, hout⟩ | ⟨hclosed, hout⟩
  · rw [hout] at hexec
    exact iff_of_true ⟨houtputs.trans hexec.symm, fun h => absurd hopen h⟩ (.inl hopen)
  · have hnil : (x.drainAndApplyDue now m banks fault).2.1 = [] := by rw [hexec, hout]; rfl
    constructor
    · intro h
      rw [← houtputs]
      exact .inr (h.stopped hclosed).1
    · rintro (hopen | hnone)
      · exact absurd hopen hclosed
      · exact ⟨by rw [houtputs, hnone, hnil], fun _ => ⟨houtputs.trans hnone, hnil⟩⟩

lemma agrees_of_open_or_nothingDue (h : Open x now ∨ NothingDue x now) :
    Agrees x now m banks fault := by
  refine (agrees_iff hid now m banks fault).mpr (h.imp_right fun hnone => ?_)
  have hd := x.scheduler.queue.drainDue_spec now m
  have hnil : (x.scheduler.queue.drainDue now m).2 = [] := by
    rw [List.eq_nil_iff_forall_not_mem]
    intro t ht
    have hdue := hd.due t ht
    rw [hnone t (hd.perm.mem_iff.mp (List.mem_append_left _ ht))] at hdue
    cases hdue
  rw [hnil]
  rfl

lemma nothingDue_of_agrees (hu : Unhindered x now m banks fault)
    (h : Agrees x now m banks fault) : Open x now ∨ NothingDue x now := by
  refine ((agrees_iff hid now m banks fault).mp h).imp_right fun hnone t ht => ?_
  have hd := x.scheduler.queue.drainDue_spec now m
  have hrest := x.scheduler.queue.drainDue_complete now hu.capacity hu.room
  have hcov : ∀ u ∈ (x.scheduler.queue.drainDue now m).2, banks.covers u = true := fun u hu' =>
    hu.covered u (hd.perm.mem_iff.mp (List.mem_append_left _ hu')) (hd.due u hu')
  -- everything drained is written, so nothing was drained
  have hnil : (x.scheduler.queue.drainDue now m).2 = [] := by
    rw [applyDrainedTransitions_of_ok hu.writes hcov] at hnone
    exact hnone
  have hleft := hd.perm.mem_iff.mpr ht
  rw [hnil, List.nil_append] at hleft
  exact hrest t hleft

end call

/-- **When every bank obeys the frontier.** In every run in which a horizon has once been
accepted, at the state reached and for every call: if the frontier is open or nothing pending is
due, the output bank drives exactly the pins the executor would, and neither drives any when the
frontier is not open. For calls with room, pins and working writes the converse holds as well. -/
theorem banks_agree (ops : List BankOp)
    (hacc : (run step (new : Bench n) ops).accepted = true) (now : Micros) (m : ℕ)
    (banks : PinBanks) (fault : ℕ → Bool) :
    (Open (run step (new : Bench n) ops).executor now ∨
        NothingDue (run step (new : Bench n) ops).executor now →
      Agrees (run step (new : Bench n) ops).executor now m banks fault) ∧
    (Unhindered (run step (new : Bench n) ops).executor now m banks fault →
      (Agrees (run step (new : Bench n) ops).executor now m banks fault ↔
        Open (run step (new : Bench n) ops).executor now ∨
          NothingDue (run step (new : Bench n) ops).executor now)) := by
  have hid := (accepted_eq (n := n) ops).trans hacc
  refine ⟨fun h => agrees_of_open_or_nothingDue hid h, fun hu => ⟨fun h => ?_, fun h => ?_⟩⟩
  · exact nothingDue_of_agrees hid hu h
  · exact agrees_of_open_or_nothingDue hid h

/-- A horizon from 10 to 1000 with a heartbeat until 500, and one injection pulse in it. -/
def expiredRun : List BankOp :=
  [.exec (.commitFrontierHorizon 1 10 1000 500 .all), .exec (.execute pulse)]

theorem banks_agree_expiredRun :
    (run step (new : Bench 4) expiredRun).accepted = true ∧
      (Open (run step (new : Bench 4) expiredRun).executor 50 ∨
        NothingDue (run step (new : Bench 4) expiredRun).executor 50) ∧
      Agrees (run step (new : Bench 4) expiredRun).executor 50 4 ⟨2, 2⟩ fun _ => false := by
  have hacc : (run step (new : Bench 4) expiredRun).accepted = true := by decide +kernel
  have hopen : Open (run step (new : Bench 4) expiredRun).executor 50 :=
    (gateClosed_iff _ _).mp (by decide +kernel)
  exact ⟨hacc, .inl hopen, (banks_agree expiredRun hacc 50 4 ⟨2, 2⟩ fun _ => false).1 (.inl hopen)⟩

/-- After the heartbeat and the horizon have expired the executor would drive nothing, and the
output bank still drives the pulse. -/
theorem expired_bank_drives :
    (run step (new : Bench 4) expiredRun).accepted = true ∧
      ((run step (new : Bench 4) expiredRun).executor.drainAndApplyDue 5000 4 ⟨2, 2⟩
        fun _ => false).2.1 = [] ∧
      (ScheduledOutputs.drainAndApplyDue ⟨2, 2⟩
        (run step (new : Bench 4) expiredRun).executor 5000 4 fun _ => false).2.1 =
        [⟨10, .injector, 1, .high⟩, ⟨100, .injector, 1, .low⟩] ∧
      ¬ Agrees (run step (new : Bench 4) expiredRun).executor 5000 4 ⟨2, 2⟩
        fun _ => false := by
  refine ⟨by decide +kernel, by decide +kernel, by decide +kernel, fun h => ?_⟩
  exact absurd h.same (by decide +kernel)

end Pipoco.Banks
