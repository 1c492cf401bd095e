import Pipoco.OutPins

/-!
Refused actions, executed one at a time or as a batch.

A single action that is refused while a horizon is active cancels everything, with its own stop
reason; refused without a horizon it changes nothing. A batch runs on a copy of the scheduler and
is dropped as a whole when one of its actions is refused, and with the copy goes the cancelled
schedule: a batch refused under an active horizon leaves everything in place.

Whether a batch is refused can be told from the outside. `AllFit` follows only which transitions
are queued and which windows are reserved.
-/

namespace Pipoco.Rejections

open Domain SchedState SchedQueue Lowering OutAdapter ScheduledQueueAdapter
open OutPins Keyed

/-! ### Single actions -/

variable (action : Action)

def injectionWindow (p : TimedInjectionPlan) : ScheduledWindow :=
  ⟨⟨.injector, p.plan.output.channel⟩, p.startAt, p.endAt⟩

def ignitionWindow (p : TimedIgnitionPlan) : ScheduledWindow :=
  ⟨⟨.ignition, p.plan.output.channel⟩, p.startAt, p.endAt⟩

def actionWindows : Action → List ScheduledWindow
  | .armScheduler injection ignition => [injectionWindow injection, ignitionWindow ignition]
  | .armInjection injection => [injectionWindow injection]
  | .armIgnition ignition => [ignitionWindow ignition]
  | _ => []

def asked : List ScheduledTransition := (actionTransitions action).map scheduledTransition

def isCancel : Action → Bool
  | .cancelScheduler _ => true
  | _ => false

variable {action}

lemma exists_of_isCancel (h : isCancel action = true) :
    ∃ reason, action = .cancelScheduler reason := by
  cases action with
  | cancelScheduler reason => exact ⟨reason, rfl⟩
  | _ => cases h

lemma cancelScheduler_of_not_isCancel (h : isCancel action = false) :
    (actionStatus action).cancelScheduler = none := by
  cases action with
  | cancelScheduler reason => cases h
  | _ => rfl

variable (action)

lemma batchWindows_actionTransitions :
    batchWindows (actionTransitions action) = actionWindows action := by
  cases action <;>
    simp [batchWindows, outputWindows, edgeTimes, uniqueKeys, actionTransitions, outputPair,
      actionWindows, injectionWindow, ignitionWindow, scheduledOutput]

lemma balanced_actionTransitions :
    ∀ t ∈ actionTransitions action, balanced (actionTransitions action) t.output = true := by
  cases action <;> simp [actionTransitions, outputPair, balanced, edgeTimes]

lemma pairwise_actionWindows : (actionWindows action).Pairwise Apart := by
  cases action <;> simp [actionWindows, Apart, injectionWindow, ignitionWindow]

variable {n : ℕ} (a : ScheduledQueueAdapter n)

/-- An action is lowered to exactly what it asks for; the scratch batches are large enough. -/
lemma execute_single :
    ∃ lowered, (BoardApiBatchExecutor.new :
        BoardApiBatchExecutor actionOutputScratchCap runtimeAuxCommandCap).execute action =
      (lowered, .ok ()) ∧ lowered.outputTransitions.items = actionTransitions action ∧
      lowered.status.cancelScheduler = (actionStatus action).cancelScheduler := by
  have hout : (actionTransitions action).length ≤ actionOutputScratchCap := by
    cases action <;> simp [actionTransitions, outputPair, actionOutputScratchCap]
  have haux : (actionAuxCommands action).length ≤ runtimeAuxCommandCap := by
    cases action with
    | applyAux commands => exact commands.fits
    | _ => simp [actionAuxCommands]
  have hlower : lowerActionToBoardBatches action
      (.new : FixedBatch OutputTransition actionOutputScratchCap)
      (.new : FixedBatch AuxCommand runtimeAuxCommandCap) =
      .ok (⟨actionTransitions action, hout⟩, ⟨actionAuxCommands action, haux⟩,
        actionStatus action) := by
    simp [lowerActionToBoardBatches, extend, FixedBatch.new, hout, haux]
  refine ⟨⟨⟨actionTransitions action, hout⟩, ⟨actionAuxCommands action, haux⟩,
    ({} : ActionLoweringStatus).merge (actionStatus action)⟩, ?_, rfl, ?_⟩
  · rw [BoardApiBatchExecutor.execute, BoardApiBatchExecutor.new, hlower]
  · simp [ActionLoweringStatus.merge]

/-- **A single action is accepted, or refused with the fallback.** -/
lemma executeActionOnScheduler_cases (action : Action) :
    (∃ a', (a.cancelled (actionStatus action).cancelScheduler).scheduleOutputBatch
        (actionTransitions action) = (a', .ok ()) ∧
      executeActionOnScheduler a action = (a', .ok ())) ∨
    ¬ (a.cancelled (actionStatus action).cancelScheduler).Admissible (actionTransitions action) ∧
      ∃ e, executeActionOnScheduler a action = (a.rejected, .error e) := by
  obtain ⟨lowered, hexec, hitems, hcancel⟩ := execute_single action
  have hdef : executeActionOnScheduler a action = a.applyLowered lowered := by
    rw [executeActionOnScheduler, hexec]
  rw [hdef, ← hitems, ← hcancel]
  rcases a.applyLowered_cases lowered with ⟨a', hok, heq⟩ | ⟨e, ⟨b, herr⟩, heq⟩
  · exact .inl ⟨a', hok, heq⟩
  · refine .inr ⟨fun hadm => ?_, e, heq⟩
    obtain ⟨a', hok⟩ := scheduleOutputBatch_ok_iff.mpr hadm
    rw [herr] at hok
    cases (Prod.mk.inj hok).2

lemma executeActionOnScheduler_cancel (reason : CancelReason) :
    executeActionOnScheduler a (.cancelScheduler reason) =
      (a.cancelAllWithReason (mapCancelReason reason), .ok ()) := by
  have hnil := scheduleOutputBatch_nil
    (a.cancelAllWithReason (mapCancelReason reason))
  rcases executeActionOnScheduler_cases a (.cancelScheduler reason) with ⟨a', hok, heq⟩ | ⟨hno, -⟩
  · rw [heq, ← hok]; exact hnil
  · exact absurd (scheduleOutputBatch_ok_iff.mp ⟨_, hnil⟩) hno

/-! ### What a list of actions leaves -/

/-- What is queued and what is reserved. -/
structure Load where
  pending : List ScheduledTransition
  windows : List ScheduledWindow

def Load.after (l : Load) (action : Action) : Load :=
  if isCancel action then ⟨[], []⟩
  else ⟨asked action ++ l.pending, actionWindows action ++ l.windows⟩

/-- There is room for what the action asks for, in a queue of `n` places. -/
structure Fits (n : ℕ) (l : Load) (action : Action) : Prop where
  room : (asked action).length ≤ n - l.pending.length
  capacity : asked action ≠ [] → n ≤ maxMetadataCapacity
  wellFormed : ∀ w ∈ actionWindows action, WellFormed w
  free : ∀ w ∈ actionWindows action, ∀ v ∈ l.windows, Apart w v
  slots : l.windows.length + (actionWindows action).length ≤ maxScheduledWindows

/-- Each action fits on what the ones before it leave. -/
def AllFit (n : ℕ) : Load → List Action → Prop
  | _, [] => True
  | l, action :: actions => Fits n l action ∧ AllFit n (l.after action) actions

/-- The load of an adapter, up to the order of the slots. -/
structure Carries (a : ScheduledQueueAdapter n) (l : Load) : Prop where
  pending : a.queue.pending.Perm l.pending
  windows : a.frontier.windows.Perm l.windows

def load : Load := ⟨a.queue.pending, a.frontier.windows⟩

lemma carries_load : Carries a (load a) := ⟨List.Perm.refl _, List.Perm.refl _⟩

section carries

variable {a : ScheduledQueueAdapter n} {l : Load}

lemma Carries.length_windows (h : Carries a l) : l.windows.length ≤ maxScheduledWindows := by
  rw [← h.windows.length_eq]
  exact Slots.items_length_le _

lemma fits_cancel (h : Carries a l) (reason : CancelReason) :
    Fits n l (.cancelScheduler reason) := by
  have := h.length_windows
  exact ⟨by simp [asked, actionTransitions], by simp [asked, actionTransitions],
    by simp [actionWindows], by simp [actionWindows], by simpa [actionWindows] using this⟩

lemma Carries.admissible_iff (h : Carries a l) (action : Action) :
    a.Admissible (actionTransitions action) ↔ Fits n l action := by
  have hlen : a.queue.freeSlots = n - l.pending.length := by
    rw [freeSlots_eq, h.pending.length_eq]
  have hasked : (asked action).length = (actionTransitions action).length := List.length_map _
  have hne : asked action ≠ [] ↔ actionTransitions action ≠ [] := by simp [asked]
  constructor
  · intro hadm
    have hw := hadm.wellFormed
    have hf := hadm.free
    have hs := hadm.slots
    rw [batchWindows_actionTransitions] at hw hf hs
    refine ⟨?_, fun hn => hadm.capacity (hne.mp hn), hw,
      fun w hwm v hv => hf w hwm v (h.windows.mem_iff.mpr hv), ?_⟩
    · rw [hasked, ← hlen]; exact hadm.room
    · rw [← h.windows.length_eq]; exact hs
  · intro hfit
    refine ⟨?_, fun hn => hfit.capacity (hne.mpr hn), balanced_actionTransitions action, ?_, ?_, ?_,
      ?_⟩
    · rw [hlen, ← hasked]; exact hfit.room
    all_goals rw [batchWindows_actionTransitions]
    · exact hfit.wellFormed
    · exact pairwise_actionWindows action
    · exact fun w hw v hv => hfit.free w hw v (h.windows.mem_iff.mp hv)
    · rw [h.windows.length_eq]; exact hfit.slots

/-- **One action.** It is accepted exactly when it fits, and then the load is the next one. -/
lemma Carries.step (h : Carries a l) (action : Action) :
    (Fits n l action ∧ ∃ a', executeActionOnScheduler a action = (a', .ok ()) ∧
      Carries a' (l.after action)) ∨
    ¬ Fits n l action ∧ ∃ e, executeActionOnScheduler a action = (a.rejected, .error e) := by
  cases hc : isCancel action with
  | true =>
    obtain ⟨reason, rfl⟩ := exists_of_isCancel hc
    refine .inl ⟨fits_cancel h reason, _, executeActionOnScheduler_cancel a reason, ?_⟩
    exact ⟨by simp [Load.after, isCancel], by simp [Load.after, isCancel]⟩
  | false =>
    have hnone := cancelScheduler_of_not_isCancel hc
    rcases executeActionOnScheduler_cases a action with ⟨a', hok, heq⟩ | ⟨hno, herr⟩
    · rw [hnone] at hok
      have hadm := scheduleOutputBatch_ok_iff.mp ⟨a', hok⟩
      refine .inl ⟨(h.admissible_iff action).mp hadm, a', heq, ?_⟩
      obtain ⟨-, hres, hpend⟩ := scheduleOutputBatch_ok hok
      have hwin := (reserveAll_ok hres).1
      rw [batchWindows_actionTransitions] at hwin
      simp only [Load.after, hc, Bool.false_eq_true, if_false]
      exact ⟨hpend.trans (h.pending.append_left _), hwin.trans (h.windows.append_left _)⟩
    · rw [hnone] at hno
      exact .inr ⟨fun hfit => hno ((h.admissible_iff action).mpr hfit), herr⟩

/-- **A list of actions.** It is accepted exactly when all of it fits. -/
lemma Carries.each (h : Carries a l) (actions : List Action) :
    (AllFit n l actions ∧ ∃ a', executeEach a actions = (a', .ok ()) ∧
      Carries a' (actions.foldl Load.after l)) ∨
    ¬ AllFit n l actions ∧ ∃ a' e, executeEach a actions = (a', .error e) := by
  induction actions generalizing a l with
  | nil => exact .inl ⟨trivial, a, rfl, h⟩
  | cons action actions ih =>
    rcases h.step action with ⟨hfit, a₁, heq, h₁⟩ | ⟨hno, e, heq⟩
    · have hrest : executeEach a (action :: actions) = executeEach a₁ actions := by
        rw [executeEach, heq]
      rw [hrest]
      rcases ih h₁ with ⟨hall, a', he, h'⟩ | ⟨hno, herr⟩
      · exact .inl ⟨⟨hfit, hall⟩, a', he, h'⟩
      · exact .inr ⟨fun hall => hno hall.2, herr⟩
    · refine .inr ⟨fun hall => hno hall.1, a.rejected, e, ?_⟩
      rw [executeEach, heq]

lemma Carries.of_executeEach {a' : ScheduledQueueAdapter n} (h : Carries a l) {actions : List Action}
    (hok : executeEach a actions = (a', .ok ())) : Carries a' (actions.foldl Load.after l) := by
  rcases h.each actions with ⟨-, b, heq, hb⟩ | ⟨-, b, e, heq⟩
  · rw [heq] at hok
    obtain ⟨rfl, -⟩ := Prod.mk.inj hok
    exact hb
  · rw [heq] at hok
    cases (Prod.mk.inj hok).2

end carries

/-! ### Arms and cancels -/

variable (actions : List Action)

/-- No action asks for a transition before a cancel. -/
def NoArmBeforeCancel : Prop :=
  ∀ pre reason post, actions = pre ++ .cancelScheduler reason :: post →
    ∀ action ∈ pre, actionTransitions action = []

lemma exists_last_cancel :
    (∀ x ∈ actions, isCancel x = false) ∨
      ∃ pre reason post, actions = pre ++ .cancelScheduler reason :: post ∧
        ∀ x ∈ post, isCancel x = false := by
  induction actions with
  | nil => exact .inl (by simp)
  | cons action actions ih =>
    rcases ih with hnone | ⟨pre, reason, post, rfl, hpost⟩
    · rcases hc : isCancel action with _ | _
      · exact .inl (List.forall_mem_cons.mpr ⟨hc, hnone⟩)
      · obtain ⟨reason, rfl⟩ := exists_of_isCancel hc
        exact .inr ⟨[], reason, actions, rfl, hnone⟩
    · exact .inr ⟨action :: pre, reason, post, rfl, hpost⟩

variable {actions}

lemma noArmBeforeCancel_of_none (h : ∀ x ∈ actions, isCancel x = false) :
    NoArmBeforeCancel actions := by
  rintro pre reason post rfl
  have := h (.cancelScheduler reason) (by simp)
  cases this

/-- The last cancel is the one that counts. -/
lemma noArmBeforeCancel_iff {pre post : List Action} {reason : CancelReason}
    (hpost : ∀ x ∈ post, isCancel x = false) :
    NoArmBeforeCancel (pre ++ .cancelScheduler reason :: post) ↔ pre.flatMap asked = [] := by
  have hasked : ∀ action, asked action = [] ↔ actionTransitions action = [] := fun action => by
    simp [asked]
  rw [List.flatMap_eq_nil_iff]
  simp only [hasked]
  constructor
  · intro h
    exact h pre reason post rfl
  · intro h pre' reason' post' hsplit action haction
    rcases split_cases hsplit with ⟨s', hpre, -⟩ | ⟨p', rfl, hrest⟩
    · exact h action (by rw [hpre]; exact List.mem_append_left _ haction)
    · cases p' with
      | nil =>
        rw [List.append_nil] at haction
        exact h action haction
      | cons y p' =>
        obtain ⟨-, rfl⟩ := List.cons.inj hrest
        have := hpost (.cancelScheduler reason') (by simp)
        cases this

lemma pending_foldl_after (h : ∀ x ∈ actions, isCancel x = false) (l : Load) :
    (actions.foldl Load.after l).pending.Perm (actions.flatMap asked ++ l.pending) := by
  induction actions generalizing l with
  | nil => exact List.Perm.refl _
  | cons action actions ih =>
    obtain ⟨hc, hrest⟩ := List.forall_mem_cons.mp h
    have hstep : (l.after action).pending = asked action ++ l.pending := by
      simp [Load.after, hc]
    rw [List.foldl_cons, List.flatMap_cons]
    refine (ih hrest _).trans ?_
    rw [hstep, ← List.append_assoc, List.append_assoc (asked action)]
    exact List.perm_append_comm.append_right _ |>.trans (by simp)

variable (actions)

lemma foldl_after_cancel (pre post : List Action) (reason : CancelReason) (l : Load) :
    (pre ++ .cancelScheduler reason :: post).foldl Load.after l =
      post.foldl Load.after ⟨[], []⟩ := by
  rw [List.foldl_append, List.foldl_cons]
  rfl

/-- **Everything is queued unless a cancel drops it.** -/
theorem asked_subperm_iff (l : Load) :
    (actions.flatMap asked).Subperm (actions.foldl Load.after l).pending ↔
      NoArmBeforeCancel actions := by
  rcases exists_last_cancel actions with hnone | ⟨pre, reason, post, rfl, hpost⟩
  · refine iff_of_true ?_ (noArmBeforeCancel_of_none hnone)
    exact (List.sublist_append_left _ _).subperm.trans (pending_foldl_after hnone l).symm.subperm
  · rw [foldl_after_cancel, noArmBeforeCancel_iff hpost]
    have hpend := pending_foldl_after hpost ⟨[], []⟩
    rw [List.append_nil] at hpend
    have hcancel : (Action.cancelScheduler reason :: post).flatMap asked = post.flatMap asked := by
      simp [asked, actionTransitions]
    rw [List.flatMap_append, hcancel]
    constructor
    · intro hsub
      have hlen := hsub.length_le
      rw [hpend.length_eq, List.length_append] at hlen
      exact List.length_eq_zero_iff.mp (by omega)
    · intro hnil
      rw [hnil, List.nil_append]
      exact hpend.symm.subperm

/-! ### Failing safe -/

variable (x : ScheduledActionExecutor n)

/-- Nothing is queued, reserved or permitted, and the stop reason says why. -/
structure Safe (x : ScheduledActionExecutor n) : Prop where
  queue : x.scheduler.queue.pending = []
  windows : x.scheduler.frontier.windows = []
  permit : x.scheduler.frontier.activePermitMask = .none
  reason : x.scheduler.frontier.activeStopReason = .admittedEventRejected

/-- What a call should leave: an error changes nothing without a horizon and falls back to the
safe state with one, and an accepted call has queued all that was asked for. -/
def FailsSafe (actions : List Action) (r : ScheduledActionExecutor n × Except ScheduleError Unit) :
    Prop :=
  match r.2 with
  | .error _ =>
    (x.scheduler.hasLiveFrontier = false → r.1 = x) ∧
      (x.scheduler.hasLiveFrontier = true → Safe r.1)
  | .ok _ => (actions.flatMap asked).Subperm r.1.scheduler.queue.pending

lemma execute_failsSafe (action : Action) : FailsSafe x [action] (x.execute action) := by
  have hexec : x.execute action = (⟨(executeActionOnScheduler x.scheduler action).1⟩,
    (executeActionOnScheduler x.scheduler action).2) := rfl
  rcases (carries_load x.scheduler).step action with ⟨-, a', heq, hc⟩ | ⟨-, e, heq⟩
  · rw [hexec, heq]
    show ([action].flatMap asked).Subperm a'.queue.pending
    refine List.Subperm.trans ?_ hc.pending.symm.subperm
    by_cases hcancel : isCancel action = true
    · obtain ⟨reason, rfl⟩ := exists_of_isCancel hcancel
      simp [asked, actionTransitions]
    · simp only [Load.after, hcancel, Bool.false_eq_true, if_false, List.flatMap_singleton]
      exact (List.sublist_append_left _ _).subperm
  · rw [hexec, heq]
    refine ⟨fun hlive => ?_, fun hlive => ?_⟩
    · show (⟨x.scheduler.rejected⟩ : ScheduledActionExecutor n) = x
      rw [rejected, if_neg (by simp [hlive])]
    · show Safe (⟨x.scheduler.rejected⟩ : ScheduledActionExecutor n)
      rw [rejected, if_pos hlive]
      exact ⟨by simp, by simp, rfl, rfl⟩

/-- **When a batch fails safe.** A single action always does. A batch that fits does when no arm
comes before a cancel, which drops it; a batch that does not fit does when no horizon is active,
or when there was nothing to cancel in the first place. -/
theorem failsSafe_iff (x : ScheduledActionExecutor n) :
    (∀ action, FailsSafe x [action] (x.execute action)) ∧
    ∀ actions, FailsSafe x actions (x.executeBatch actions) ↔
      (AllFit n (load x.scheduler) actions → NoArmBeforeCancel actions) ∧
      (¬ AllFit n (load x.scheduler) actions → x.scheduler.hasLiveFrontier = true → Safe x) := by
  refine ⟨execute_failsSafe x, fun actions => ?_⟩
  rcases (carries_load x.scheduler).each actions with ⟨hall, a', heq, hc⟩ | ⟨hno, a', e, heq⟩
  · have hbatch : x.executeBatch actions = (⟨a'⟩, .ok ()) := by
      rw [ScheduledActionExecutor.executeBatch, heq]
    rw [hbatch]
    show (actions.flatMap asked).Subperm a'.queue.pending ↔ _
    rw [hc.pending.subperm_left, asked_subperm_iff]
    exact ⟨fun h => ⟨fun _ => h, fun hno => absurd hall hno⟩, fun h => h.1 hall⟩
  · have hbatch : x.executeBatch actions = (x, .error e) := by
      rw [ScheduledActionExecutor.executeBatch, heq]
    rw [hbatch]
    show (_ → x = x) ∧ (_ → Safe x) ↔ _
    exact ⟨fun h => ⟨fun hall => absurd hall hno, fun _ => h.2⟩, fun h => ⟨fun _ => rfl, h.2 hno⟩⟩

def armAt (channel : ChannelId) (injStart injEnd ignStart ignEnd : Micros) : Action :=
  .armScheduler ⟨⟨⟨.injector, channel⟩, 20⟩, injStart, injEnd⟩
    ⟨⟨⟨.ignition, channel⟩, 30, 0⟩, ignStart, ignEnd⟩

/-- An executor with a full queue and an active horizon. -/
def armedExecutor : ScheduledActionExecutor 4 :=
  ⟨((ScheduledActionExecutor.new.execute (armAt 0 100 120 200 230)).1.scheduler.commitFrontierHorizon
    32 100 260 300 .all).1⟩

/-- A batch of one action that does not fit is refused and leaves the schedule and the permit in
place, where the action itself would have cancelled them. -/
theorem executeBatch_keeps_schedule :
    armedExecutor.scheduler.hasLiveFrontier = true ∧
    (armedExecutor.executeBatch [armAt 1 300 320 400 430]).2 = .error .queueFull ∧
    (armedExecutor.executeBatch [armAt 1 300 320 400 430]).1.scheduler.queue.pending.length = 4 ∧
    (armedExecutor.execute (armAt 1 300 320 400 430)).1.scheduler.queue.pending = [] ∧
    ¬ FailsSafe armedExecutor [armAt 1 300 320 400 430]
      (armedExecutor.executeBatch [armAt 1 300 320 400 430]) := by
  have hlive : armedExecutor.scheduler.hasLiveFrontier = true := by decide +kernel
  have herr : (armedExecutor.executeBatch [armAt 1 300 320 400 430]).2 = .error .queueFull := by
    decide +kernel
  have hlen : (armedExecutor.executeBatch
      [armAt 1 300 320 400 430]).1.scheduler.queue.pending.length = 4 := by decide +kernel
  refine ⟨hlive, herr, hlen, by decide +kernel, fun h => ?_⟩
  have hsafe := (h.2 hlive).queue
  rw [hsafe] at hlen
  cases hlen

end Pipoco.Rejections
