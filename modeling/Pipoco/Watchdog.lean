import Pipoco.Suspension

/-!
The heartbeat of a live horizon as a watchdog.

A heartbeat at `t` sets a deadline, and a drain through the frontier that comes after the
deadline revokes the permit and drops the schedule. The deadline is a saturating sum and is
compared in plain order, on a clock that wraps. Up to the rollover this is the watchdog it is
meant to be. A drain past the rollover compares as earlier than every deadline before it, so the
watchdog does not bite there: only the horizon, or a permit that is gone already, still stops it.
-/

namespace Pipoco.Watchdog

open Domain SchedState SchedQueue OutAdapter Ownership ScheduledTransitionQueue
open Suspension Runs SchedState.SchedulerState

/-! ### What can happen to a horizon between two heartbeats -/

/-- The operations that set a new deadline. -/
def feeds : Op → Bool
  | .adapter (.commitFrontierHorizon _ _ _ _ _) | .adapter (.noteFrontierHeartbeat _) => true
  | .frontier (.commitHorizon _ _ _ _ _) | .frontier (.noteHeartbeat _) => true
  | _ => false

/-- Without a heartbeat or a commit a horizon is kept, loses its permit, or is cleared. -/
inductive Fades (v : HorizonView) : HorizonView → Prop
  | kept : Fades v v
  | revoked (reason : TimingIslandStopReason) :
      Fades v { v with activePermitMask := .none, activeStopReason := reason }
  | cleared (reason : TimingIslandStopReason) :
      Fades v { v with
        activeHorizonId := none, horizonEndUs := none, heartbeatDeadlineUs := none
        activePermitMask := .none, activeStopReason := reason }

lemma Fades.of_eq {v w : HorizonView} (h : w = v) : Fades v w := h ▸ .kept

lemma Fades.trans {u v w : HorizonView} (h : Fades u v) (h' : Fades v w) : Fades u w := by
  cases h with
  | kept => exact h'
  | revoked r =>
    cases h' with
    | kept => exact .revoked r
    | revoked r' => exact .revoked r'
    | cleared r' => exact .cleared r'
  | cleared r =>
    cases h' with
    | kept => exact .cleared r
    | revoked r' | cleared r' => exact .cleared r'

section frontier

variable (s : SchedulerState) (now startAt endAt : Micros)

lemma fades_clearLiveFrontierState (r : TimingIslandStopReason) :
    Fades s.horizon (s.clearLiveFrontierState r).horizon := .cleared r

lemma fades_expireHeartbeat : Fades s.horizon (s.expireHeartbeat now).1.horizon := by
  unfold expireHeartbeat
  split
  · exact .kept
  · split_ifs
    · exact .kept
    · exact .revoked _
    · exact .revoked _

lemma fades_expireHorizon : Fades s.horizon (s.expireHorizon now).1.horizon := by
  unfold expireHorizon
  split
  · exact .kept
  · split_ifs
    · exact .kept
    · exact fades_clearLiveFrontierState s _
    · exact fades_clearLiveFrontierState s _

lemma fades_expireFrontier : Fades s.horizon (s.expireFrontier now).horizon :=
  (fades_expireHeartbeat s now).trans (fades_expireHorizon _ now)

lemma fades_suspend : Fades s.horizon s.suspend.horizon :=
  .of_eq (horizon_clearScheduledOwnership s)

lemma horizon_reserveWindow (output : ExclusiveChannel) (startAt endAt : Micros) :
    (s.reserveWindow output startAt endAt).1.horizon = s.horizon := by
  rcases s.reserveWindow_cases output startAt endAt with ⟨table, -, -, -, heq⟩ | ⟨-, e, heq⟩
  · rw [heq]; exact horizon_stored s table output.group
  · rw [heq]

lemma horizon_scheduleWindow (output : ExclusiveChannel) :
    (s.scheduleWindow now startAt endAt output).1.horizon = s.horizon := by
  unfold scheduleWindow
  split
  · rfl
  · split
    · rfl
    · exact horizon_reserveWindow s output _ _

lemma horizon_scheduleInjection (plan : InjectionPlan) :
    (s.scheduleInjection now startAt endAt plan).1.horizon = s.horizon := by
  have h := horizon_scheduleWindow s now startAt endAt plan.output
  unfold scheduleInjection
  split <;> rename_i heq <;> rw [heq] at h <;> exact h

lemma horizon_scheduleIgnition (plan : IgnitionPlan) :
    (s.scheduleIgnition now startAt endAt plan).1.horizon = s.horizon := by
  have h := horizon_scheduleWindow s now startAt endAt plan.output
  unfold scheduleIgnition
  split <;> rename_i heq <;> rw [heq] at h <;> exact h

/-- The frontier's own operations, heartbeat and commit apart. -/
lemma fades_schedStep {op : SchedOp} (h : feeds (.frontier op) = false) :
    Fades s.horizon (schedStep s op).horizon := by
  cases op with
  | commitHorizon | noteHeartbeat => cases h
  | armGroup g | cancelGroup g | onGeometryCommit => exact .kept
  | reserveWindow o a b => exact .of_eq (horizon_reserveWindow s o a b)
  | scheduleInjection now a b p => exact .of_eq (horizon_scheduleInjection s now a b p)
  | scheduleIgnition now a b p => exact .of_eq (horizon_scheduleIgnition s now a b p)
  | noteDrainedTransition t => exact .of_eq (horizon_noteDrainedTransition s t)
  | clearScheduledOwnership => exact .of_eq (horizon_clearScheduledOwnership s)
  | onSyncRecovered =>
    show Fades _ s.onSyncRecovered.horizon
    unfold onSyncRecovered
    split_ifs <;> exact .kept
  | suspend => exact fades_suspend s
  | cancelAll =>
    exact (Fades.of_eq (horizon_clearScheduledOwnership s)).trans
      (fades_clearLiveFrontierState _ _)
  | onSyncLoss | onHardSafetyShutdown =>
    exact (fades_clearLiveFrontierState s _).trans (fades_suspend _)
  | clearLiveFrontierState r => exact fades_clearLiveFrontierState s r
  | expireFrontier now => exact fades_expireFrontier s now
  | expireHeartbeat now => exact fades_expireHeartbeat s now
  | expireHorizon now => exact fades_expireHorizon s now

end frontier

section adapter

variable {n : ℕ} (a : ScheduledQueueAdapter n) (now : Micros)

lemma fades_cancelAllWithReason (r : TimingIslandStopReason) :
    Fades a.frontier.horizon (a.cancelAllWithReason r).frontier.horizon :=
  (Fades.of_eq (horizon_clearScheduledOwnership a.frontier)).trans
    (fades_clearLiveFrontierState _ r)

lemma fades_rejected : Fades a.frontier.horizon a.rejected.frontier.horizon := by
  unfold ScheduledQueueAdapter.rejected
  split_ifs
  · exact fades_cancelAllWithReason a _
  · exact .kept

lemma fades_cancelled (reason : Option CancelReason) :
    Fades a.frontier.horizon (a.cancelled reason).frontier.horizon := by
  rcases reason with _ | reason
  · exact .kept
  · exact fades_cancelAllWithReason a _

lemma fades_scheduleOutputBatch (batch : List OutputTransition) :
    Fades a.frontier.horizon (a.scheduleOutputBatch batch).1.frontier.horizon := by
  rcases a.scheduleOutputBatch_cases batch with ⟨queue, frontier, heq, -, hres, -⟩ | ⟨e, heq⟩
  · rw [heq]; exact .of_eq (horizon_reserveAll hres)
  · rw [heq]; exact fades_rejected a

lemma fades_applyLowered {out aux : ℕ} (lowered : Lowering.BoardApiBatchExecutor out aux) :
    Fades a.frontier.horizon (a.applyLowered lowered).1.frontier.horizon := by
  rcases a.applyLowered_cases lowered with ⟨a', hs, heq⟩ | ⟨e, -, heq⟩
  · have hbatch := fades_scheduleOutputBatch (a.cancelled lowered.status.cancelScheduler)
      lowered.outputTransitions.items
    rw [hs] at hbatch
    rw [heq]
    exact (fades_cancelled a _).trans hbatch
  · rw [heq]; exact fades_rejected a

lemma horizon_drainDue (m : ℕ) : (a.drainDue now m).1.frontier.horizon = a.frontier.horizon :=
  ScheduledQueueAdapter.horizon_noteDrainedOwnership _ _

lemma horizon_drainDueWithFrontier (m : ℕ) :
    (a.drainDueWithFrontier now m).1.frontier.horizon =
      (a.frontier.expireFrontier now).horizon := by
  rcases a.drainDueWithFrontier_cases now m with ⟨-, heq⟩ | ⟨-, heq⟩
  · rw [heq]; exact horizon_clearScheduledOwnership _
  · rw [heq]; exact horizon_drainDue _ now m

/-- **Between heartbeats** every operation keeps the horizon, revokes its permit, or clears it. -/
theorem fades_apply {op : Op} (h : feeds op = false) :
    Fades a.frontier.horizon (apply a op).frontier.horizon := by
  cases op with
  | frontier op => exact fades_schedStep a.frontier h
  | queue op => exact .kept
  | adapter op =>
    cases op with
    | commitFrontierHorizon | noteFrontierHeartbeat => cases h
    | scheduleOutputBatch batch => exact fades_scheduleOutputBatch a batch
    | applyLowered lowered => exact fades_applyLowered a lowered
    | drainDue now m => exact .of_eq (horizon_drainDue a now m)
    | drainDueWithFrontier now m =>
      rw [show (apply a (.adapter (.drainDueWithFrontier now m))).frontier.horizon = _ from
        horizon_drainDueWithFrontier a now m]
      exact fades_expireFrontier a.frontier now
    | expireFrontier now => exact fades_expireFrontier a.frontier now
    | cancelAll => exact fades_cancelAllWithReason a _
    | onSyncLoss | onHardSafetyShutdown =>
      exact (fades_clearLiveFrontierState a.frontier _).trans (fades_suspend _)

end adapter

/-! ### The deadline -/

variable {t : Micros}

/-- The last heartbeat was at `t`: a live horizon still has its deadline, and a horizon that is
no longer live permits nothing. -/
structure Fed (t : Micros) (v : HorizonView) : Prop where
  deadline : v.activeHorizonId.isSome → v.heartbeatDeadlineUs = some (satAdd32 t heartbeatExpiryUs)
  permit : v.activeHorizonId = none → v.activePermitMask.isEmpty

lemma Fed.fades {v w : HorizonView} (h : Fed t v) (hf : Fades v w) : Fed t w := by
  cases hf with
  | kept => exact h
  | revoked r => exact ⟨h.deadline, fun _ => rfl⟩
  | cleared r => exact ⟨(fun hlive => absurd hlive Bool.false_ne_true), fun _ => rfl⟩

variable {n : ℕ} {a : ScheduledQueueAdapter n}

lemma fed_noteFrontierHeartbeat (hlive : a.frontier.activeHorizonId.isSome) :
    Fed t (a.noteFrontierHeartbeat t).frontier.horizon := by
  have heq : (a.noteFrontierHeartbeat t).frontier =
      { a.frontier with heartbeatDeadlineUs := some (satAdd32 t heartbeatExpiryUs) } := by
    simp [ScheduledQueueAdapter.noteFrontierHeartbeat, noteHeartbeat, hlive]
  rw [heq]
  refine ⟨fun _ => rfl, fun hnone => ?_⟩
  have hid : a.frontier.activeHorizonId = none := hnone
  rw [hid] at hlive
  cases hlive

/-- The deadline stands through any run without a heartbeat or a commit. -/
lemma fed_run (hlive : a.frontier.activeHorizonId.isSome) {ops : List Op}
    (hops : ∀ op ∈ ops, feeds op = false) :
    Fed t (run apply (a.noteFrontierHeartbeat t) ops).frontier.horizon := by
  have hstep : ∀ (b : ScheduledQueueAdapter n) op, Fed t b.frontier.horizon → feeds op = false →
      Fed t (apply b op).frontier.horizon := fun b op h hop => h.fades (fades_apply b hop)
  exact run_inv_along hstep (fed_noteFrontierHeartbeat hlive)
    (along_of_forall (fun op hop _ => hops op hop) _)

variable (t)

lemma toNat_deadline :
    (satAdd32 t heartbeatExpiryUs).toNat = min (t.toNat + 20000) (2 ^ 32 - 1) := by
  have hexp : heartbeatExpiryUs.toNat = 20000 := rfl
  rw [satAdd32, hexp, UInt32.toNat_ofNat_of_lt']
  show _ < 2 ^ 32
  omega

/-- The clock `d` microseconds after `t`. -/
def later (d : ℕ) : Micros := t + UInt32.ofNat d

lemma toNat_later (d : ℕ) : (later t d).toNat = (t.toNat + d) % 2 ^ 32 := by
  rw [later, UInt32.toNat_add, UInt32.toNat_ofNat', Nat.add_mod_mod]

variable {t}

/-- Within the expiry time, rollover or not, the clock is not past the deadline. -/
lemma later_le_deadline {d : ℕ} (hd : d ≤ 20000) : later t d ≤ satAdd32 t heartbeatExpiryUs := by
  rw [UInt32.le_iff_toNat_le, toNat_later, toNat_deadline]
  omega

/-- **The rollover.** After the expiry time the clock is past the deadline exactly when it has not
rolled over. -/
lemma deadline_lt_later {d : ℕ} (hd : 20000 < d) (hlt : d < 2 ^ 31) :
    satAdd32 t heartbeatExpiryUs < later t d ↔ t.toNat + d < 2 ^ 32 := by
  rw [UInt32.lt_iff_toNat_lt, toNat_later, toNat_deadline]
  omega

/-! ### One drain -/

variable (s : SchedulerState) (a) (now : Micros)

/-- The horizon has ended by `now`, in plain order. -/
def HorizonOver : Prop := ∃ e ∈ s.horizonEndUs, e < now

/-- The deadline of the last heartbeat has passed by `now`, in plain order. -/
def HeartbeatOver : Prop := ∃ e ∈ s.heartbeatDeadlineUs, e < now

lemma activePermitMask_expireHeartbeat :
    (HeartbeatOver s now ∧ (s.expireHeartbeat now).1.activePermitMask = .none) ∨
      (¬ HeartbeatOver s now ∧ (s.expireHeartbeat now).1 = s) := by
  unfold expireHeartbeat HeartbeatOver
  rcases hd : s.heartbeatDeadlineUs with _ | e
  · exact .inr ⟨by simp, rfl⟩
  · by_cases hle : now ≤ e
    · exact .inr ⟨by simpa using hle, by simp [hle]⟩
    · exact .inl ⟨⟨e, rfl, UInt32.not_le.mp hle⟩, by simp [hle]⟩

lemma expireHorizon_cases :
    (HorizonOver s now ∧ ∃ r, (s.expireHorizon now).1 = s.clearLiveFrontierState r) ∨
      (¬ HorizonOver s now ∧ (s.expireHorizon now).1 = s) := by
  unfold expireHorizon HorizonOver
  rcases hd : s.horizonEndUs with _ | e
  · exact .inr ⟨by simp, rfl⟩
  · by_cases hle : now ≤ e
    · exact .inr ⟨by simpa using hle, by simp [hle]⟩
    · exact .inl ⟨⟨e, rfl, UInt32.not_le.mp hle⟩, _, by simp [hle]; rfl⟩

/-- **The expiry check** revokes the permit when the heartbeat or the horizon is over, and does
nothing otherwise. -/
lemma expireFrontier_cases :
    ((HeartbeatOver s now ∨ HorizonOver s now) ∧ (s.expireFrontier now).activePermitMask = .none) ∨
      (¬ HeartbeatOver s now ∧ ¬ HorizonOver s now ∧ s.expireFrontier now = s) := by
  unfold expireFrontier
  rcases activePermitMask_expireHeartbeat s now with ⟨hb, hmask⟩ | ⟨hb, heq⟩
  · left
    refine ⟨.inl hb, ?_⟩
    rcases expireHorizon_cases (s.expireHeartbeat now).1 now with ⟨-, r, hr⟩ | ⟨-, hr⟩
    · rw [hr]; rfl
    · rw [hr]; exact hmask
  · rw [heq]
    rcases expireHorizon_cases s now with ⟨hh, r, hr⟩ | ⟨hh, hr⟩
    · left
      exact ⟨.inr hh, by rw [hr]; rfl⟩
    · right
      exact ⟨hb, hh, hr⟩

/-- The drain is stopped: it hands out nothing, the queue is empty and nothing is permitted. -/
structure Bites (a : ScheduledQueueAdapter n) (now : Micros) (m : ℕ) : Prop where
  out : (a.drainDueWithFrontier now m).2 = []
  pending : (a.drainDueWithFrontier now m).1.queue.pending = []
  permit : (a.drainDueWithFrontier now m).1.frontier.activePermitMask.isEmpty

lemma activePermitMask_drain (m : ℕ) :
    (a.drainDueWithFrontier now m).1.frontier.activePermitMask =
      (a.frontier.expireFrontier now).activePermitMask :=
  congrArg HorizonView.activePermitMask (horizon_drainDueWithFrontier a now m)

lemma bites_iff (m : ℕ) :
    Bites a now m ↔ (a.frontier.expireFrontier now).activePermitMask.isEmpty := by
  rw [← activePermitMask_drain a now m]
  refine ⟨fun h => h.permit, fun hmask => ?_⟩
  have hclosed : gateClosed (a.frontier.expireFrontier now) = true := by
    rw [activePermitMask_drain] at hmask
    rw [gateClosed, hmask, Bool.or_true]
  rcases a.drainDueWithFrontier_cases now m with ⟨-, heq⟩ | ⟨hopen, -⟩
  · refine ⟨by rw [heq], by rw [heq]; simp, hmask⟩
  · rw [hclosed] at hopen
    cases hopen

/-- The watchdog over one drain, `d` after the heartbeat at `t`: past the expiry time the drain is
stopped, and up to it, inside the horizon, the permit is left as it is. -/
structure Watches (a : ScheduledQueueAdapter n) (t : Micros) (d m : ℕ) : Prop where
  bites : 20000 < d → d < 2 ^ 31 → Bites a (later t d) m
  spares : d ≤ 20000 → ¬ HorizonOver a.frontier (later t d) →
    (a.drainDueWithFrontier (later t d) m).1.frontier.activePermitMask = a.frontier.activePermitMask

/-- Past the expiry time, the clock has not rolled over since the heartbeat, or the frontier is
closed already, or the horizon has ended as well. -/
def Caught (t : Micros) (d : ℕ) : Prop :=
  20000 < d → d < 2 ^ 31 → t.toNat + d < 2 ^ 32 ∨
    gateClosed a.frontier = true ∨ HorizonOver a.frontier (later t d)

section drain

variable {a : ScheduledQueueAdapter n} {t : Micros} (hfed : Fed t a.frontier.horizon)
include hfed

lemma heartbeatOver_iff (hlive : a.frontier.activeHorizonId.isSome) (now : Micros) :
    HeartbeatOver a.frontier now ↔ satAdd32 t heartbeatExpiryUs < now := by
  have hdead : a.frontier.heartbeatDeadlineUs = some (satAdd32 t heartbeatExpiryUs) :=
    hfed.deadline hlive
  simp [HeartbeatOver, hdead]

lemma isEmpty_of_gateClosed (h : gateClosed a.frontier = true)
    (now : Micros) : (a.frontier.expireFrontier now).activePermitMask.isEmpty := by
  have hempty : a.frontier.activePermitMask.isEmpty := by
    rw [gateClosed, Bool.or_eq_true, Option.isNone_iff_eq_none] at h
    exact h.elim hfed.permit id
  rcases expireFrontier_cases a.frontier now with ⟨-, hmask⟩ | ⟨-, -, heq⟩
  · rw [hmask]; rfl
  · rw [heq]; exact hempty

lemma bites_iff_caught {d : ℕ} (hd : 20000 < d) (hlt : d < 2 ^ 31) (m : ℕ) :
    Bites a (later t d) m ↔ t.toNat + d < 2 ^ 32 ∨
      gateClosed a.frontier = true ∨
      HorizonOver a.frontier (later t d) := by
  rw [bites_iff]
  rcases hg : gateClosed a.frontier with _ | _
  · rw [gateClosed, Bool.or_eq_false_iff] at hg
    have hlive : a.frontier.activeHorizonId.isSome := by simpa using hg.1
    -- an open frontier is stopped by the expiry check or not at all
    rw [← deadline_lt_later hd hlt, ← heartbeatOver_iff hfed hlive]
    rcases expireFrontier_cases a.frontier (later t d) with ⟨hover, hmask⟩ | ⟨hb, hh, heq⟩
    · rw [hmask]
      exact iff_of_true rfl (hover.imp_right .inr)
    · rw [heq, hg.2]
      simp [hb, hh]
  · exact iff_of_true (isEmpty_of_gateClosed hfed hg _) (.inr (.inl rfl))

lemma permit_spared {d : ℕ} (hd : d ≤ 20000) (hin : ¬ HorizonOver a.frontier (later t d)) (m : ℕ) :
    (a.drainDueWithFrontier (later t d) m).1.frontier.activePermitMask =
      a.frontier.activePermitMask := by
  rw [activePermitMask_drain]
  rcases expireFrontier_cases a.frontier (later t d) with ⟨hover, hmask⟩ | ⟨-, -, heq⟩
  · -- only a horizon that is not live has an older deadline, and it permits nothing
    have hnone : a.frontier.activeHorizonId = none := by
      by_contra hlive
      have hpast := (heartbeatOver_iff hfed (Option.isSome_iff_ne_none.mpr hlive) _).mp
        (hover.resolve_right hin)
      exact UInt32.not_lt.mpr (later_le_deadline hd) hpast
    have hzero : a.frontier.activePermitMask.bits = 0 := of_decide_eq_true (hfed.permit hnone)
    cases hm : a.frontier.activePermitMask
    simp_all [SafetyPermitMask.none]
  · rw [heq]

/-- **The watchdog of one drain.** -/
lemma watches_iff_caught (d m : ℕ) : Watches a t d m ↔ Caught a t d := by
  constructor
  · intro h hd hlt
    exact (bites_iff_caught hfed hd hlt m).mp (h.bites hd hlt)
  · intro h
    refine ⟨fun hd hlt => ?_, fun hd hin => permit_spared hfed hd hin m⟩
    exact (bites_iff_caught hfed hd hlt m).mpr (h hd hlt)

end drain

/-- **When the heartbeat is a watchdog.** From any adapter with a live horizon, after a heartbeat
at any time and any operations other than heartbeats and commits: a drain any `d` later behaves as
the watchdog says exactly when, past the expiry time, the clock has not rolled over since the
heartbeat, or the frontier is closed already, or the horizon is over as well. -/
theorem watchdog_iff (a : ScheduledQueueAdapter n) (hlive : a.frontier.activeHorizonId.isSome)
    (t : Micros) (ops : List Op) (hops : ∀ op ∈ ops, feeds op = false) (d m : ℕ) :
    Watches (run apply (a.noteFrontierHeartbeat t) ops) t d m ↔
      Caught (run apply (a.noteFrontierHeartbeat t) ops) t d :=
  watches_iff_caught (fed_run hlive hops) d m

/-- A horizon up to the last microsecond before the rollover, and one pulse in it. -/
def lateHorizon : List Op :=
  [.adapter (.commitFrontierHorizon 1 0xFFFFF000 0xFFFFFFFF 0xFFFFFFFF .all),
    .adapter (.scheduleOutputBatch
      [⟨.injector 1, .high, 0xFFFFFF10⟩, ⟨.injector 1, .low, 0xFFFFFFF0⟩])]

theorem watchdog_iff_lateHorizon :
    (run apply (.new : ScheduledQueueAdapter 4) lateHorizon).frontier.activeHorizonId.isSome ∧
      (Watches (run apply ((run apply (.new : ScheduledQueueAdapter 4)
          lateHorizon).noteFrontierHeartbeat 0xFFFFFF00) []) 0xFFFFFF00 30000 4 ↔
        Caught (run apply ((run apply (.new : ScheduledQueueAdapter 4)
          lateHorizon).noteFrontierHeartbeat 0xFFFFFF00) []) 0xFFFFFF00 30000) := by
  have hlive : (run apply (.new : ScheduledQueueAdapter 4)
      lateHorizon).frontier.activeHorizonId.isSome := by decide +kernel
  exact ⟨hlive, watchdog_iff _ hlive 0xFFFFFF00 [] (by simp) 30000 4⟩

/-- Thirty milliseconds after the last heartbeat, across the rollover, the drain still hands out
both transitions and the permit stands. -/
theorem rollover_defeats_watchdog :
    (((run apply (.new : ScheduledQueueAdapter 4) lateHorizon).noteFrontierHeartbeat
        0xFFFFFF00).drainDueWithFrontier (later 0xFFFFFF00 30000) 4).2 =
      [⟨0xFFFFFF10, .injector, 1, .high⟩, ⟨0xFFFFFFF0, .injector, 1, .low⟩] ∧
    ¬ Watches ((run apply (.new : ScheduledQueueAdapter 4) lateHorizon).noteFrontierHeartbeat
        0xFFFFFF00) 0xFFFFFF00 30000 4 := by
  refine ⟨by decide +kernel, fun h => ?_⟩
  exact absurd (h.bites (by decide) (by decide)).out (by decide +kernel)

end Pipoco.Watchdog
