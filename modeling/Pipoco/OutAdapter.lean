import Pipoco.Keyed
import Pipoco.Lowering
import Pipoco.SchedQueue

/-!
The queue adapter of a board: the transition queue together with the ownership state that
says which windows its transitions belong to.

A batch is accepted as a whole or not at all. The adapter first pairs the batch's edges into
windows, output by output, and reserves them on a copy; then it queues the transitions on the
copy, and only then does the copy replace the adapter. A batch refused while a horizon is live
cancels everything.
-/

namespace Pipoco.OutAdapter

open Domain SchedState SchedQueue Lowering Keyed ScheduledTransitionQueue SchedulerState

variable (t : OutputTransition)

def mapCancelReason : CancelReason → TimingIslandStopReason
  | .manual => .permitDenied
  | .syncLoss => .syncLost
  | .safetyShutdown => .timingFault
  | .commit => .horizonExpired
  | .timeout => .heartbeatExpired

def scheduledLevel : OutputLevel → ScheduledLevel
  | .low => .low
  | .high => .high

def scheduledOutput : EcuOutput → ExclusiveChannel
  | .injector channel => ⟨.injector, channel⟩
  | .ignition channel => ⟨.ignition, channel⟩

def scheduledKind : EcuOutput → ScheduledTransitionKind
  | .injector _ => .injector
  | .ignition _ => .ignition

def scheduledTransition : ScheduledTransition where
  atUs := t.atTicks
  kind := scheduledKind t.output
  channel := (scheduledOutput t.output).channel
  level := scheduledLevel t.level

/-! ### Pairing the edges of a batch -/

variable (batch : List OutputTransition) (output : EcuOutput) (level : OutputLevel)

/-- The times at which a batch drives an output to a level, in ascending order. -/
def edgeTimes : List Micros :=
  ((batch.filter fun t => t.output = output && t.level = level).map (·.atTicks)).insertionSort
    (· ≤ ·)

/-- The windows of one output: the starts and the ends, paired in ascending order. -/
def outputWindows : List ScheduledWindow :=
  ((edgeTimes batch output .high).zip (edgeTimes batch output .low)).map fun p =>
    ⟨scheduledOutput output, p.1, p.2⟩

/-- Reserve windows in order, up to the first refusal. -/
def reserveAll : SchedulerState → List ScheduledWindow → SchedulerState × Except ScheduleError Unit
  | s, [] => (s, .ok ())
  | s, w :: ws =>
    match s.reserveWindow w.output w.startAt w.endAt with
    | (s', .error e) => (s', .error e)
    | (s', .ok _) => reserveAll s' ws

/-- Every start of the output has an end. -/
def balanced : Bool := (edgeTimes batch output .high).length = (edgeTimes batch output .low).length

/-- The loop over the outputs of a batch. -/
def ownOutputs (batch : List OutputTransition) : SchedulerState → List EcuOutput →
    SchedulerState × Except ScheduleError Unit
  | s, [] => (s, .ok ())
  | s, output :: outputs =>
    if !balanced batch output then (s, .error .impossibleDeadline)
    else
      match reserveAll s (outputWindows batch output) with
      | (s', .error e) => (s', .error e)
      | (s', .ok _) => ownOutputs batch s' outputs

/-! ### The adapter -/

structure ScheduledQueueAdapter (n : ℕ) where
  queue : ScheduledTransitionQueue n
  frontier : SchedulerState

namespace ScheduledQueueAdapter

variable {n : ℕ} (a : ScheduledQueueAdapter n) (frontier : SchedulerState) (now : Micros)
  (batch : List OutputTransition)

def new : ScheduledQueueAdapter n := ⟨.new, .new⟩

def commitFrontierHorizon (horizonId : TimingIslandHorizonSequenceId)
    (horizonStartUs horizonEndUs heartbeatDeadlineUs : Micros) (permitMask : SafetyPermitMask) :
    ScheduledQueueAdapter n × Bool :=
  let r := a.frontier.commitHorizon horizonId horizonStartUs horizonEndUs heartbeatDeadlineUs
    permitMask
  ({ a with frontier := r.1 }, r.2)

def noteFrontierHeartbeat :
    ScheduledQueueAdapter n := { a with frontier := a.frontier.noteHeartbeat now }

def expireFrontier : ScheduledQueueAdapter n :=
  { a with frontier := a.frontier.expireFrontier now }

def onSyncLoss : ScheduledQueueAdapter n := ⟨a.queue.onSyncLoss, a.frontier.onSyncLoss⟩

def onHardSafetyShutdown : ScheduledQueueAdapter n :=
  ⟨a.queue.onHardSafetyShutdown, a.frontier.onHardSafetyShutdown⟩

def hasLiveFrontier : Bool := a.frontier.activeHorizonId.isSome

def cancelAllWithReason (reason : TimingIslandStopReason) : ScheduledQueueAdapter n where
  queue := a.queue.cancelAll
  frontier := a.frontier.clearScheduledOwnership.clearLiveFrontierState reason

def cancelAll : ScheduledQueueAdapter n := a.cancelAllWithReason .permitDenied

/-- The fallback after a refusal: with a live horizon, everything is cancelled. -/
def rejected : ScheduledQueueAdapter n :=
  if a.hasLiveFrontier then a.cancelAllWithReason .admittedEventRejected else a

def noteDrainedOwnership (out : List ScheduledTransition) :
    SchedulerState := out.foldl noteDrainedTransition frontier

def drainDue (m : ℕ) : ScheduledQueueAdapter n × List ScheduledTransition :=
  let r := a.queue.drainDue now m
  (⟨r.1, noteDrainedOwnership a.frontier r.2⟩, r.2)

def drainDueWithFrontier (m : ℕ) : ScheduledQueueAdapter n × List ScheduledTransition :=
  let (queue, frontier, out) := a.queue.drainDueWithFrontier now a.frontier m
  let frontier :=
    if out.length = 0 && gateClosed frontier then
      frontier.clearScheduledOwnership
    else frontier
  (⟨queue, noteDrainedOwnership frontier out⟩, out)

def noteOutputBatchOwnership : SchedulerState × Except ScheduleError Unit :=
  ownOutputs batch frontier (uniqueKeys (·.output) batch)

def scheduleOutputBatch : ScheduledQueueAdapter n × Except ScheduleError Unit :=
  if a.queue.freeSlots < batch.length then (a.rejected, .error .queueFull)
  else
    match noteOutputBatchOwnership a.frontier batch with
    | (_, .error e) => (a.rejected, .error e)
    | (frontier, .ok _) =>
      match a.queue.enqueueAll (batch.map scheduledTransition) with
      | (_, .error e) => (a.rejected, .error e)
      | (queue, .ok _) => (⟨queue, frontier⟩, .ok ())

def applyLowered {out aux : ℕ} (a : ScheduledQueueAdapter n)
    (lowered : BoardApiBatchExecutor out aux) :
    ScheduledQueueAdapter n × Except ScheduleError Unit :=
  let scratch := match lowered.status.cancelScheduler with
    | some reason => a.cancelAllWithReason (mapCancelReason reason)
    | none => a
  match scratch.scheduleOutputBatch lowered.outputTransitions.items with
  | (_, .error e) => (a.rejected, .error e)
  | (scratch', .ok _) => (scratch', .ok ())

end ScheduledQueueAdapter

/-! ### What an accepted batch reserves -/

variable (w : ScheduledWindow) {s s' : SchedulerState}

/-- The windows a batch asks for. -/
def batchWindows : List ScheduledWindow :=
  (uniqueKeys (·.output) batch).flatMap (outputWindows batch)

lemma reserveAll_append (s : SchedulerState) (u v : List ScheduledWindow) :
    reserveAll s (u ++ v) =
      match reserveAll s u with
      | (s', .error e) => (s', .error e)
      | (s', .ok _) => reserveAll s' v := by
  induction u generalizing s with
  | nil => rfl
  | cons w u ih =>
    rw [List.cons_append, reserveAll, reserveAll]
    rcases s.reserveWindow w.output w.startAt w.endAt with ⟨s₁, _ | _⟩
    · rfl
    · exact ih s₁

variable {batch}

lemma ownOutputs_ok_iff {outputs : List EcuOutput} :
    ownOutputs batch s outputs = (s', .ok ()) ↔
      (∀ o ∈ outputs, balanced batch o = true) ∧
        reserveAll s (outputs.flatMap (outputWindows batch)) = (s', .ok ()) := by
  induction outputs generalizing s with
  | nil => simp [ownOutputs, reserveAll]
  | cons o outputs ih =>
    rw [ownOutputs, List.flatMap_cons, reserveAll_append, List.forall_mem_cons]
    by_cases hb : balanced batch o = true
    · rw [if_neg (by simp [hb])]
      rcases reserveAll s (outputWindows batch o) with ⟨s₁, _ | _⟩
      · simp
      · simp only [hb, true_and]
        exact ih
    · rw [if_pos (by simp [hb])]
      simp [hb]

/-- **A batch is owned window by window.** Its ownership is noted exactly when every start has
an end and all its windows can be reserved one after another. -/
theorem noteOutputBatchOwnership_ok_iff :
    ScheduledQueueAdapter.noteOutputBatchOwnership s batch = (s', .ok ()) ↔
      (∀ t ∈ batch, balanced batch t.output = true) ∧
        reserveAll s (batchWindows batch) = (s', .ok ()) := by
  rw [ScheduledQueueAdapter.noteOutputBatchOwnership, ownOutputs_ok_iff, batchWindows]
  refine and_congr_left fun _ => ⟨fun h t ht => ?_, fun h o ho => ?_⟩
  · exact h _ ((mem_uniqueKeys _).mpr ⟨t, ht, rfl⟩)
  · obtain ⟨t, ht, rfl⟩ := (mem_uniqueKeys _).mp ho
    exact h t ht

variable (batch)

lemma edges_perm :
    ((uniqueKeys (·.output) batch).flatMap fun o =>
        (edgeTimes batch o level).map fun at_ => (scheduledOutput o, at_)).Perm
      ((batch.filter fun t => t.level = level).map fun t =>
        (scheduledOutput t.output, t.atTicks)) := by
  have hgroup := perm_flatMap_filter (fun t : OutputTransition => t.output)
    (batch.filter fun t => t.level = level) (nodup_uniqueKeys (·.output) batch)
    (fun t ht => (mem_uniqueKeys _).mpr ⟨t, (List.mem_filter.mp ht).1, rfl⟩)
  refine List.Perm.trans ?_ (hgroup.map _)
  rw [List.map_flatMap]
  refine List.Perm.flatMap_left _ fun o _ => ?_
  refine ((List.perm_insertionSort _ _).map _).trans ?_
  rw [List.filter_filter, List.map_map]
  refine List.Perm.of_eq (List.map_congr_left fun t ht => ?_)
  have := (List.mem_filter.mp ht).2
  simp only [Bool.and_eq_true, decide_eq_true_eq] at this
  simp [this.1]

/-- The edge of a window or of a transition: its output and a time. -/
def endKey : ExclusiveChannel × Micros := (w.output, w.endAt)

def startKey : ExclusiveChannel × Micros := (w.output, w.startAt)

def edgeKey (t : ScheduledTransition) : ExclusiveChannel × Micros := (t.output, t.atUs)

lemma edgeKey_scheduledTransition :
    edgeKey (scheduledTransition t) = (scheduledOutput t.output, t.atTicks) := by
  obtain ⟨_ | _, _, _⟩ := t <;> rfl

/-- The edges of one level in a list of transitions. -/
def edges (level : ScheduledLevel) (ts : List ScheduledTransition) :
    List (ExclusiveChannel × Micros) :=
  (ts.filter fun t => t.level = level).map edgeKey

lemma edges_append (level : ScheduledLevel) (ts us : List ScheduledTransition) :
    edges level (ts ++ us) = edges level ts ++ edges level us := by
  simp [edges]

lemma edges_perm_of_perm {level : ScheduledLevel} {ts us : List ScheduledTransition}
    (h : ts.Perm us) : (edges level ts).Perm (edges level us) := (h.filter _).map _

lemma edges_map_scheduledTransition :
    edges (scheduledLevel level) (batch.map scheduledTransition) =
      (batch.filter fun t => t.level = level).map fun t =>
        (scheduledOutput t.output, t.atTicks) := by
  rw [edges, List.filter_map, List.map_map]
  have hp : ((fun t : ScheduledTransition => decide (t.level = scheduledLevel level)) ∘
      scheduledTransition) = fun t : OutputTransition => decide (t.level = level) := by
    funext t
    obtain ⟨_, l, _⟩ := t
    cases l <;> cases level <;> rfl
  rw [hp]
  exact List.map_congr_left fun t _ => edgeKey_scheduledTransition t

section windows

variable {batch : List OutputTransition} (hb : ∀ t ∈ batch, balanced batch t.output = true)
include hb

lemma batchWindows_ends :
    ((batchWindows batch).map endKey).Perm (edges .low (batch.map scheduledTransition)) := by
  rw [show ScheduledLevel.low = scheduledLevel .low from rfl, edges_map_scheduledTransition]
  refine List.Perm.trans (List.Perm.of_eq ?_) (edges_perm batch .low)
  rw [batchWindows, List.map_flatMap]
  refine List.flatMap_congr fun o ho => ?_
  obtain ⟨t, ht, rfl⟩ := (mem_uniqueKeys _).mp ho
  have hlen := of_decide_eq_true (hb t ht)
  have hz : ((edgeTimes batch t.output .high).zip (edgeTimes batch t.output .low)).map Prod.snd =
      edgeTimes batch t.output .low := List.map_snd_zip hlen.ge
  rw [outputWindows, List.map_map]
  conv_rhs => rw [← hz, List.map_map]
  rfl

lemma batchWindows_starts :
    ((batchWindows batch).map startKey).Perm (edges .high (batch.map scheduledTransition)) := by
  rw [show ScheduledLevel.high = scheduledLevel .high from rfl, edges_map_scheduledTransition]
  refine List.Perm.trans (List.Perm.of_eq ?_) (edges_perm batch .high)
  rw [batchWindows, List.map_flatMap]
  refine List.flatMap_congr fun o ho => ?_
  obtain ⟨t, ht, rfl⟩ := (mem_uniqueKeys _).mp ho
  have hlen := of_decide_eq_true (hb t ht)
  have hz : ((edgeTimes batch t.output .high).zip (edgeTimes batch t.output .low)).map Prod.fst =
      edgeTimes batch t.output .high := List.map_fst_zip hlen.le
  rw [outputWindows, List.map_map]
  conv_rhs => rw [← hz, List.map_map]
  rfl

lemma batchWindows_ne_nil (hne : batch ≠ []) : batchWindows batch ≠ [] := by
  intro hnil
  obtain ⟨t, ts, rfl⟩ := List.exists_cons_of_ne_nil hne
  have hends := (batchWindows_ends hb).length_eq
  have hstarts := (batchWindows_starts hb).length_eq
  rw [hnil] at hends hstarts
  rcases hl : t.level with _ | _
  · simp [edges, scheduledTransition, hl, scheduledLevel] at hends
  · simp [edges, scheduledTransition, hl, scheduledLevel] at hstarts

end windows

/-! ### What the operations do to windows and transitions -/

variable {ws : List ScheduledWindow}

lemma pairwise_apart_perm {u v : List ScheduledWindow} (h : u.Perm v) :
    u.Pairwise Apart ↔ v.Pairwise Apart := h.pairwise_iff fun h => h.symm

/-- **Induction over accepted reservations.** What holds when nothing is left to reserve, and is
kept when one more window is put in front, holds of every list that is accepted. -/
@[elab_as_elim]
theorem reserveAll_induction
    {P : (s : SchedulerState) → (ws : List ScheduledWindow) → reserveAll s ws = (s', .ok ()) → Prop}
    (nil : P s' [] rfl)
    (cons : ∀ s w ws table, s.scheduledWindows.put w = some table → WellFormed w →
      (∀ v ∈ s.windows, Apart w v) → ∀ (h : reserveAll s (w :: ws) = (s', .ok ()))
      (h' : reserveAll (s.stored table w.output.group) ws = (s', .ok ())),
      P (s.stored table w.output.group) ws h' → P s (w :: ws) h)
    (h : reserveAll s ws = (s', .ok ())) : P s ws h := by
  induction ws generalizing s with
  | nil =>
    cases h
    exact nil
  | cons w ws ih =>
    have hrest := h
    rw [reserveAll] at hrest
    rcases s.reserveWindow_cases w.output w.startAt w.endAt with
      ⟨table, hput, hwf, hap, heq⟩ | ⟨-, e, heq⟩
    · rw [heq] at hrest
      exact cons s w ws table hput hwf hap h hrest (ih hrest)
    · rw [heq] at hrest
      cases (Prod.mk.inj hrest).2

/-- **Reserving a list of windows.** When all are accepted, they are added to the reserved
ones, each is well formed, and none overlaps another or an older one. -/
lemma reserveAll_ok (h : reserveAll s ws = (s', .ok ())) :
    s'.windows.Perm (ws ++ s.windows) ∧ (∀ w ∈ ws, WellFormed w) ∧
      (s.windows.Pairwise Apart → s'.windows.Pairwise Apart) := by
  induction h using reserveAll_induction with
  | nil => exact ⟨List.Perm.refl _, by simp, id⟩
  | cons s w ws table hput hwf hap _ _ ih =>
    have hadd : (s.stored table w.output.group).windows.Perm (w :: s.windows) :=
      Slots.items_put hput
    obtain ⟨hperm, hall, hpair⟩ := ih
    refine ⟨hperm.trans ((hadd.append_left ws).trans List.perm_middle),
      List.forall_mem_cons.mpr ⟨hwf, hall⟩, fun hs => hpair ?_⟩
    rw [pairwise_apart_perm hadd]
    exact List.pairwise_cons.mpr ⟨hap, hs⟩

/-- A list of windows is accepted exactly when each is well formed, they do not overlap each
other or an older window, and there are enough slots. -/
lemma reserveAll_ok_iff :
    (∃ s', reserveAll s ws = (s', .ok ())) ↔
      (∀ w ∈ ws, WellFormed w) ∧ ws.Pairwise Apart ∧
        (∀ w ∈ ws, ∀ v ∈ s.windows, Apart w v) ∧
        s.windows.length + ws.length ≤ maxScheduledWindows := by
  induction ws generalizing s with
  | nil =>
    have := Slots.items_length_le s.scheduledWindows
    simp [reserveAll]
    exact this
  | cons w ws ih =>
    rw [reserveAll]
    rcases s.reserveWindow_cases w.output w.startAt w.endAt with
      ⟨table, hput, hwf, hap, heq⟩ | ⟨hbad, e, heq⟩
    · have hadd : (s.stored table w.output.group).windows.Perm (w :: s.windows) :=
        Slots.items_put hput
      have hlen := hadd.length_eq
      simp only [List.length_cons] at hlen
      simp only [heq, ih, List.forall_mem_cons, List.pairwise_cons, List.length_cons]
      constructor
      · rintro ⟨h₁, h₂, h₃, h₄⟩
        have h₃' : ∀ u ∈ ws, Apart u w ∧ ∀ v ∈ s.windows, Apart u v := fun u hu =>
          List.forall_mem_cons.mp fun v hv => h₃ u hu v (hadd.mem_iff.mpr hv)
        exact ⟨⟨hwf, h₁⟩, ⟨fun u hu => (h₃' u hu).1.symm, h₂⟩,
          ⟨hap, fun u hu => (h₃' u hu).2⟩, by omega⟩
      · rintro ⟨⟨-, h₁⟩, ⟨hw, h₂⟩, ⟨-, h₃⟩, h₄⟩
        refine ⟨h₁, h₂, fun u hu v hv => ?_, by omega⟩
        rcases List.mem_cons.mp (hadd.mem_iff.mp hv) with rfl | hv
        · exact (hw u hu).symm
        · exact h₃ u hu v hv
    · simp only [heq, Prod.mk.injEq, reduceCtorEq, and_false, exists_false, false_iff]
      rintro ⟨h₁, -, h₃, h₄⟩
      rcases hbad with hbad | ⟨v, hv, hbad⟩ | hbad
      · exact hbad (h₁ w (.head _))
      · exact hbad (h₃ w (.head _) v hv)
      · rw [List.length_cons] at h₄; omega

lemma horizon_reserveAll (h : reserveAll s ws = (s', .ok ())) : s'.horizon = s.horizon := by
  induction h using reserveAll_induction with
  | nil => rfl
  | cons s w ws table _ _ _ _ _ ih => exact ih.trans (s.horizon_stored table w.output.group)

/-- A reservation arms its group, whatever the mode was. -/
lemma mode_reserveAll (h : reserveAll s ws = (s', .ok ())) :
    s'.mode = if ws = [] then s.mode else .armed := by
  induction h using reserveAll_induction with
  | nil => rfl
  | cons s w ws table _ _ _ _ _ ih =>
    rw [ih, if_neg (List.cons_ne_nil _ _)]
    split_ifs <;> rfl

namespace ScheduledQueueAdapter

variable {n : ℕ} {a : ScheduledQueueAdapter n} (s : SchedulerState) {batch : List OutputTransition}
  (out : List ScheduledTransition)

/-- What it takes for a batch to be accepted: room in the queue, an end for every start, and
windows that can all be reserved. -/
structure Admissible (a : ScheduledQueueAdapter n) (batch : List OutputTransition) : Prop where
  room : batch.length ≤ a.queue.freeSlots
  capacity : batch ≠ [] → n ≤ maxMetadataCapacity
  paired : ∀ t ∈ batch, balanced batch t.output = true
  wellFormed : ∀ w ∈ batchWindows batch, WellFormed w
  apart : (batchWindows batch).Pairwise Apart
  free : ∀ w ∈ batchWindows batch, ∀ v ∈ a.frontier.windows, Apart w v
  slots : a.frontier.windows.length + (batchWindows batch).length ≤ maxScheduledWindows

theorem scheduleOutputBatch_ok_iff :
    (∃ a', a.scheduleOutputBatch batch = (a', .ok ())) ↔ a.Admissible batch := by
  unfold scheduleOutputBatch
  by_cases hfree : a.queue.freeSlots < batch.length
  · simp only [if_pos hfree, Prod.mk.injEq, reduceCtorEq, and_false, exists_false, false_iff]
    exact fun h => absurd h.room (by omega)
  rw [if_neg hfree]
  rcases hown : noteOutputBatchOwnership a.frontier batch with ⟨frontier, e | _⟩
  · simp only [Prod.mk.injEq, reduceCtorEq, and_false, exists_false, false_iff]
    intro h
    obtain ⟨s', hs'⟩ := reserveAll_ok_iff.mpr ⟨h.wellFormed, h.apart, h.free, h.slots⟩
    rw [noteOutputBatchOwnership_ok_iff.mpr ⟨h.paired, hs'⟩] at hown
    cases (Prod.mk.inj hown).2
  obtain ⟨hb, hres⟩ := noteOutputBatchOwnership_ok_iff.mp hown
  obtain ⟨h₁, h₂, h₃, h₄⟩ := reserveAll_ok_iff.mp ⟨_, hres⟩
  rcases hq : a.queue.enqueueAll (batch.map scheduledTransition) with ⟨queue, e | _⟩
  · simp only [Prod.mk.injEq, reduceCtorEq, and_false, exists_false, false_iff]
    intro h
    by_cases hn : batch = []
    · subst hn; cases (Prod.mk.inj hq).2
    · have hlen : (batch.map scheduledTransition).length ≤ n - a.queue.pending.length := by
        rw [List.length_map, ← freeSlots_eq]; omega
      obtain ⟨q', hq'⟩ := enqueueAll_of_fits (h.capacity hn) hlen
      rw [hq'] at hq
      cases (Prod.mk.inj hq).2
  · simp only [Prod.mk.injEq, and_true, exists_eq', true_iff]
    refine ⟨by omega, fun hne => ?_, hb, h₁, h₂, h₃, h₄⟩
    obtain ⟨t, ts, rfl⟩ := List.exists_cons_of_ne_nil hne
    by_contra hn
    rw [List.map_cons, enqueueAll, enqueueTransition, if_pos (by omega)] at hq
    cases (Prod.mk.inj hq).2

variable (batch a) in
/-- **A batch is accepted as a whole or changes nothing but a live horizon's schedule.** -/
theorem scheduleOutputBatch_cases :
    (∃ queue frontier, a.scheduleOutputBatch batch = (⟨queue, frontier⟩, .ok ()) ∧
      (∀ t ∈ batch, balanced batch t.output = true) ∧
      reserveAll a.frontier (batchWindows batch) = (frontier, .ok ()) ∧
      queue.pending.Perm (batch.map scheduledTransition ++ a.queue.pending)) ∨
    ∃ e, a.scheduleOutputBatch batch = (a.rejected, .error e) := by
  unfold scheduleOutputBatch
  by_cases hfree : a.queue.freeSlots < batch.length
  · exact .inr ⟨_, by rw [if_pos hfree]⟩
  rw [if_neg hfree]
  rcases hown : noteOutputBatchOwnership a.frontier batch with ⟨frontier, e | _⟩
  · exact .inr ⟨e, rfl⟩
  obtain ⟨hb, hres⟩ := noteOutputBatchOwnership_ok_iff.mp hown
  rcases hq : a.queue.enqueueAll (batch.map scheduledTransition) with ⟨queue, e | _⟩
  · exact .inr ⟨e, rfl⟩
  · exact .inl ⟨queue, frontier, rfl, hb, hres, enqueueAll_ok hq⟩

lemma scheduleOutputBatch_ok {a' : ScheduledQueueAdapter n}
    (h : a.scheduleOutputBatch batch = (a', .ok ())) :
    (∀ t ∈ batch, balanced batch t.output = true) ∧
      reserveAll a.frontier (batchWindows batch) = (a'.frontier, .ok ()) ∧
      a'.queue.pending.Perm (batch.map scheduledTransition ++ a.queue.pending) := by
  rcases a.scheduleOutputBatch_cases batch with ⟨queue, frontier, heq, haccepted⟩ | ⟨e, heq⟩
  · rw [heq] at h
    cases h
    exact haccepted
  · rw [heq] at h
    cases (Prod.mk.inj h).2

lemma mode_scheduleOutputBatch {a' : ScheduledQueueAdapter n}
    (h : a.scheduleOutputBatch batch = (a', .ok ())) (hne : batch ≠ []) :
    a'.frontier.mode = .armed := by
  obtain ⟨hb, hres, -⟩ := scheduleOutputBatch_ok h
  rw [mode_reserveAll hres, if_neg (batchWindows_ne_nil hb hne)]

variable (a)

lemma scheduleOutputBatch_nil : a.scheduleOutputBatch [] = (a, .ok ()) := by
  rw [scheduleOutputBatch, if_neg (by simp)]; rfl

/-- The adapter that `applyLowered` schedules on. -/
def cancelled (reason : Option CancelReason) : ScheduledQueueAdapter n :=
  match reason with
  | some reason => a.cancelAllWithReason (mapCancelReason reason)
  | none => a

theorem applyLowered_cases {out aux : ℕ} (lowered : BoardApiBatchExecutor out aux) :
    (∃ a', (a.cancelled lowered.status.cancelScheduler).scheduleOutputBatch
        lowered.outputTransitions.items = (a', .ok ()) ∧
      a.applyLowered lowered = (a', .ok ())) ∨
    ∃ e, (∃ b, (a.cancelled lowered.status.cancelScheduler).scheduleOutputBatch
        lowered.outputTransitions.items = (b, .error e)) ∧
      a.applyLowered lowered = (a.rejected, .error e) := by
  have hdef : a.applyLowered lowered =
      match (a.cancelled lowered.status.cancelScheduler).scheduleOutputBatch
        lowered.outputTransitions.items with
      | (_, .error e) => (a.rejected, .error e)
      | (scratch', .ok _) => (scratch', .ok ()) := rfl
  rw [hdef]
  rcases (a.cancelled lowered.status.cancelScheduler).scheduleOutputBatch
    lowered.outputTransitions.items with ⟨a', e | _⟩
  · exact .inr ⟨e, ⟨a', rfl⟩, rfl⟩
  · exact .inl ⟨a', rfl, rfl⟩

@[simp] lemma pending_cancelAllWithReason (r : TimingIslandStopReason) :
    (a.cancelAllWithReason r).queue.pending = [] :=
  pending_cancelAll _

@[simp] lemma windows_cancelAllWithReason (r : TimingIslandStopReason) :
    (a.cancelAllWithReason r).frontier.windows = [] :=
  a.frontier.windows_clearScheduledOwnership

/-- A drain through the frontier: with the gate closed everything is dropped, and with the
gate open it is a plain drain. -/
theorem drainDueWithFrontier_cases (now : Micros) (m : ℕ) :
    (gateClosed (a.frontier.expireFrontier now) = true ∧
      a.drainDueWithFrontier now m = (⟨a.queue.cancelAll.setLastDrainCount 0,
        (a.frontier.expireFrontier now).clearScheduledOwnership⟩, [])) ∨
    (gateClosed (a.frontier.expireFrontier now) = false ∧
      a.drainDueWithFrontier now m = (a.expireFrontier now).drainDue now m) := by
  unfold drainDueWithFrontier ScheduledTransitionQueue.drainDueWithFrontier
  rcases hg : gateClosed (a.frontier.expireFrontier now)
  · right
    simp [hg, drainDue, expireFrontier]
  · left
    simp [hg, noteDrainedOwnership]

lemma windows_noteDrainedOwnership_sublist :
    (noteDrainedOwnership s out).windows.Sublist s.windows := by
  induction out generalizing s with
  | nil => exact List.Sublist.refl _
  | cons t out ih =>
    refine (ih (s.noteDrainedTransition t)).trans ?_
    rw [windows_noteDrainedTransition]
    split_ifs
    · exact List.eraseP_sublist
    · exact List.Sublist.refl _

@[simp] lemma horizon_noteDrainedOwnership : (noteDrainedOwnership s out).horizon = s.horizon := by
  induction out generalizing s with
  | nil => rfl
  | cons t out ih => exact (ih _).trans (horizon_noteDrainedTransition s t)

lemma closedBy_eq (t : ScheduledTransition) :
    closedBy t = fun w => decide (endKey w = edgeKey t) := by
  funext w
  simp [closedBy, endKey, edgeKey, Bool.decide_and]

/-- **Draining releases what it drained.** If the windows end where the pending `Low`s are, and
some transitions are drained, the windows left end where the `Low`s left are. -/
lemma noteDrainedOwnership_ends {s : SchedulerState} {out rest : List ScheduledTransition}
    (h : (s.windows.map endKey).Perm (edges .low (out ++ rest))) :
    ((noteDrainedOwnership s out).windows.map endKey).Perm (edges .low rest) := by
  induction out generalizing s with
  | nil => exact h
  | cons t out ih =>
    refine ih (s := s.noteDrainedTransition t) ?_
    rw [windows_noteDrainedTransition]
    by_cases hl : t.level = .low
    · rw [if_pos hl, closedBy_eq]
      refine perm_map_eraseP endKey (h.trans (List.Perm.of_eq ?_))
      simp [edges, hl]
    · rw [if_neg hl]
      refine h.trans (List.Perm.of_eq ?_)
      simp [edges, hl]

end ScheduledQueueAdapter

end Pipoco.OutAdapter
