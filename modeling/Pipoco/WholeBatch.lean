import Pipoco.Rejections

/-!
A batch of actions lowered and applied as a whole, against the same actions one after another.

Lowering keeps the transitions of the whole batch and the reason of its last cancel, and applying
it cancels first and schedules afterwards. So a cancel acts on what was there before the batch,
wherever it stands in it: an arm action before a cancel survives. Without such an arm both ways
leave the same adapter, up to the order of the slots.
-/

namespace Pipoco.WholeBatch

open Domain SchedState SchedQueue Lowering OutAdapter ScheduledQueueAdapter SchedulerState BoardApiBatchExecutor
open OutPins Keyed Rejections

/-! ### Pairing the edges of several windows -/

variable (actions : List Action) (o : EcuOutput) {ws : List ScheduledWindow} (level : OutputLevel)

/-- The windows of one output that do not overlap: their starts and their ends, each sorted, pair
up to the windows again. -/
lemma zip_sorted_edges (hwf : ∀ w ∈ ws, w.startAt < w.endAt)
    (hap : ws.Pairwise fun v w => v.endAt ≤ w.startAt ∨ w.endAt ≤ v.startAt) :
    ((ws.map (·.startAt)).insertionSort (· ≤ ·)).zip ((ws.map (·.endAt)).insertionSort (· ≤ ·)) =
      (ws.insertionSort fun v w => v.startAt ≤ w.startAt).map fun w => (w.startAt, w.endAt) := by
  have htrans : IsTrans ScheduledWindow fun v w => v.startAt ≤ w.startAt :=
    ⟨fun _ _ _ => UInt32.le_trans⟩
  have htotal : Std.Total fun v w : ScheduledWindow => v.startAt ≤ w.startAt :=
    ⟨fun _ _ => UInt32.le_total _ _⟩
  generalize hsorted : ws.insertionSort (fun v w => v.startAt ≤ w.startAt) = sorted
  have hperm : sorted.Perm ws := hsorted ▸ List.perm_insertionSort _ ws
  have hstart : sorted.Pairwise fun v w => v.startAt ≤ w.startAt :=
    hsorted ▸ List.pairwise_insertionSort _ ws
  have hap' : sorted.Pairwise fun v w => v.endAt ≤ w.startAt ∨ w.endAt ≤ v.startAt :=
    (hperm.pairwise_iff fun h => h.symm).mpr hap
  -- sorted by their starts, the windows are sorted by their ends as well
  have hend : sorted.Pairwise fun v w => v.endAt ≤ w.endAt := by
    refine (hstart.and hap').imp_of_mem fun {v w} _ hw h => ?_
    have hlt : w.startAt < w.endAt := hwf w (hperm.mem_iff.mp hw)
    rcases h.2 with h' | h'
    · exact UInt32.le_trans h' (UInt32.le_of_lt hlt)
    · exact absurd (UInt32.lt_of_lt_of_le hlt (UInt32.le_trans h' h.1)) (UInt32.lt_irrefl _)
  have hresort : ∀ f : ScheduledWindow → Micros, (sorted.Pairwise fun v w => f v ≤ f w) →
      (ws.map f).insertionSort (· ≤ ·) = sorted.map f := fun f hf => by
    refine List.Perm.eq_of_pairwise (fun _ _ _ _ => UInt32.le_antisymm)
      (List.pairwise_insertionSort _ _) (List.pairwise_map.mpr hf) ?_
    exact (List.perm_insertionSort _ _).trans (hperm.map f).symm
  rw [hresort _ hstart, hresort _ hend, List.zip_map']

/-- The edges of one output and level, action by action. -/
def edgeOf (w : ScheduledWindow) : Micros :=
  match level with
  | .high => w.startAt
  | .low => w.endAt

lemma scheduledOutput_injective : Function.Injective scheduledOutput := by
  intro o o' h
  cases o <;> cases o' <;> simp_all [scheduledOutput]

lemma edges_outputPair (output o : EcuOutput) (startAt endAt : Micros) (level : OutputLevel) :
    ((outputPair output startAt endAt).filter fun t => t.output = o && t.level = level).map
        (·.atTicks) =
      ([(⟨scheduledOutput output, startAt, endAt⟩ : ScheduledWindow)].filter
        fun w => w.output = scheduledOutput o).map (edgeOf level) := by
  by_cases ho : output = o
  · cases level <;> simp [outputPair, edgeOf, ho]
  · simp [outputPair, ho, scheduledOutput_injective.eq_iff]

lemma edges_actionTransitions (action : Action) (o : EcuOutput) (level : OutputLevel) :
    ((actionTransitions action).filter fun t => t.output = o && t.level = level).map (·.atTicks) =
      ((actionWindows action).filter fun w => w.output = scheduledOutput o).map (edgeOf level) := by
  cases action with
  | armScheduler injection ignition =>
    rw [actionTransitions, List.filter_append, List.map_append, edges_outputPair, edges_outputPair,
      ← List.map_append, ← List.filter_append]
    rfl
  | armInjection injection | armIgnition ignition => exact edges_outputPair _ o _ _ level
  | _ => rfl

lemma edgeTimes_flatMap :
    edgeTimes (actions.flatMap actionTransitions) o level =
      (((actions.flatMap actionWindows).filter fun w => w.output = scheduledOutput o).map
        (edgeOf level)).insertionSort (· ≤ ·) := by
  rw [edgeTimes]
  congr 1
  induction actions with
  | nil => rfl
  | cons action actions ih =>
    simp only [List.flatMap_cons, List.filter_append, List.map_append, ih, edges_actionTransitions]

variable {actions}

lemma exists_transition {w : ScheduledWindow} (h : w ∈ actions.flatMap actionWindows) :
    ∃ t ∈ actions.flatMap actionTransitions, scheduledOutput t.output = w.output := by
  obtain ⟨action, haction, hw⟩ := List.mem_flatMap.mp h
  obtain ⟨t, ht, ho⟩ : ∃ t ∈ actionTransitions action, scheduledOutput t.output = w.output := by
    cases action <;>
      simp [actionWindows, actionTransitions, outputPair, injectionWindow, ignitionWindow] at hw ⊢
    · rcases hw with rfl | rfl <;> simp [scheduledOutput]
    · subst hw; simp [scheduledOutput]
    · subst hw; simp [scheduledOutput]
  exact ⟨t, List.mem_flatMap.mpr ⟨action, haction, ht⟩, ho⟩

/-- **The windows of a batch.** When the windows its actions ask for do not overlap, pairing the
edges of the whole batch gives just them. -/
theorem batchWindows_flatMap (hwf : ∀ w ∈ actions.flatMap actionWindows, WellFormed w)
    (hap : (actions.flatMap actionWindows).Pairwise Apart) :
    (batchWindows (actions.flatMap actionTransitions)).Perm (actions.flatMap actionWindows) := by
  have hnodup : ((uniqueKeys (·.output) (actions.flatMap actionTransitions)).map
      scheduledOutput).Nodup :=
    (nodup_uniqueKeys _ _).map scheduledOutput_injective
  have hcover : ∀ w ∈ actions.flatMap actionWindows, w.output ∈
      (uniqueKeys (·.output) (actions.flatMap actionTransitions)).map scheduledOutput := by
    intro w hw
    obtain ⟨t, ht, ho⟩ := exists_transition hw
    exact List.mem_map.mpr ⟨t.output, (mem_uniqueKeys _).mpr ⟨t, ht, rfl⟩, ho⟩
  refine List.Perm.trans ?_ (perm_flatMap_filter (·.output) _ hnodup hcover)
  rw [batchWindows, List.flatMap_map]
  refine List.Perm.flatMap_left _ fun o _ => ?_
  -- one output: its windows, sorted by their starts
  generalize hws : ((actions.flatMap actionWindows).filter
    fun w => w.output = scheduledOutput o) = ws
  have hmem : ∀ w ∈ ws, w ∈ actions.flatMap actionWindows ∧ w.output = scheduledOutput o := by
    subst hws
    intro w hw
    simpa using List.mem_filter.mp hw
  have hapart : ws.Pairwise fun v w => v.endAt ≤ w.startAt ∨ w.endAt ≤ v.startAt := by
    refine (hap.sublist (hws ▸ List.filter_sublist)).imp_of_mem fun {v w} hv hw h => ?_
    exact h ((hmem v hv).2.trans (hmem w hw).2.symm)
  have hzip := zip_sorted_edges (fun w hw => (hwf w (hmem w hw).1).1) hapart
  have hpairs : outputWindows (actions.flatMap actionTransitions) o =
      (ws.insertionSort fun v w => v.startAt ≤ w.startAt).map fun w =>
        ⟨scheduledOutput o, w.startAt, w.endAt⟩ := by
    rw [outputWindows, edgeTimes_flatMap, edgeTimes_flatMap, hws]
    show List.map _ (((ws.map (·.startAt)).insertionSort (· ≤ ·)).zip
      ((ws.map (·.endAt)).insertionSort (· ≤ ·))) = _
    rw [hzip, List.map_map]
    rfl
  rw [hpairs]
  refine ((List.perm_insertionSort _ ws).map _).trans (List.Perm.of_eq ?_)
  conv_rhs => rw [← List.map_id ws]
  refine List.map_congr_left fun w hw => ?_
  rw [← (hmem w hw).2]
  rfl

/-! ### What reserving leaves besides the windows -/

variable (s : SchedulerState)

/-- The scheduler without its table of windows, after `ws` have been reserved and `all` are
stored. -/
def owning (ws all : List ScheduledWindow) : SchedulerState :=
  if ws = [] then s
  else
    { s with
      mode := .armed
      activeGroups := ws.foldl (fun groups (w : ScheduledWindow) => groups ||| w.output.group.mask)
        s.activeGroups
      reservedChannels := all.foldl reserveBit fun _ => 0 }.refreshCounts

lemma reserveBit_comm (r : OutputGroup → BitVec 128) (v w : ScheduledWindow) :
    reserveBit (reserveBit r v) w = reserveBit (reserveBit r w) v := by
  unfold reserveBit
  rcases channelBit v.output.channel with _ | bv <;> rcases channelBit w.output.channel with _ | bw
  · rfl
  · rfl
  · rfl
  · funext g
    by_cases hv : g = v.output.group <;> by_cases hw : g = w.output.group <;>
      simp_all [Function.update_apply, BitVec.or_assoc, BitVec.or_comm bv bw]

variable {s}

lemma owning_perm {ws' all all' : List ScheduledWindow} (hws : ws.Perm ws') (hall : all.Perm all') :
    owning s ws all = owning s ws' all' := by
  have hnil : ws = [] ↔ ws' = [] := by
    rw [← List.length_eq_zero_iff, hws.length_eq, List.length_eq_zero_iff]
  have hgroups : ws.foldl (fun groups w => groups ||| w.output.group.mask) s.activeGroups =
      ws'.foldl (fun groups w => groups ||| w.output.group.mask) s.activeGroups := by
    refine hws.foldl_eq' (fun v _ w _ groups => ?_) _
    rw [BitVec.or_assoc, BitVec.or_assoc, BitVec.or_comm w.output.group.mask]
  have hreserved : all.foldl reserveBit (fun _ => 0) = all'.foldl reserveBit fun _ => 0 :=
    hall.foldl_eq' (fun v _ w _ r => (reserveBit_comm r v w)) _
  simp only [owning, hnil, hgroups, hreserved]

/-- Everything but the windows after a list of reservations. -/
lemma reserveAll_owning {s' : SchedulerState} (h : reserveAll s ws = (s', .ok ())) :
    { s' with scheduledWindows := s.scheduledWindows } = owning s ws s'.windows := by
  induction h using reserveAll_induction with
  | nil => rfl
  | cons s w ws table _ _ _ _ h ih =>
    by_cases hws : ws = []
    · subst hws
      obtain ⟨rfl, -⟩ := Prod.mk.inj h
      rfl
    · have hrest := congrArg (fun x : SchedulerState =>
        { x with scheduledWindows := s.scheduledWindows }) ih
      refine hrest.trans ?_
      simp only [owning, if_neg hws, if_neg (List.cons_ne_nil w ws)]
      rfl

/-- Reserving the same windows in another order leaves the same, up to the order of the slots. -/
lemma reserveAll_perm {s₁ s₂ : SchedulerState} {ws' : List ScheduledWindow} (hws : ws.Perm ws')
    (h₁ : reserveAll s ws = (s₁, .ok ())) (h₂ : reserveAll s ws' = (s₂, .ok ())) :
    s₁.windows.Perm s₂.windows ∧
      { s₁ with scheduledWindows := s₂.scheduledWindows } = s₂ := by
  have hperm : s₁.windows.Perm s₂.windows :=
    ((reserveAll_ok h₁).1.trans (hws.append_right _)).trans (reserveAll_ok h₂).1.symm
  have heq := (reserveAll_owning h₁).trans
    ((owning_perm hws hperm).trans (reserveAll_owning h₂).symm)
  exact ⟨hperm, congrArg (fun x : SchedulerState =>
    { x with scheduledWindows := s₂.scheduledWindows }) heq⟩

variable (s)

/-! ### One action after another -/

variable {n : ℕ} {a b : ScheduledQueueAdapter n} {pre : List Action}

lemma executeEach_append {c : ScheduledQueueAdapter n} {u v : List Action} :
    executeEach a (u ++ v) = (c, .ok ()) ↔
      ∃ b, executeEach a u = (b, .ok ()) ∧ executeEach b v = (c, .ok ()) := by
  induction u generalizing a with
  | nil => simp [executeEach]
  | cons action u ih =>
    rw [List.cons_append, executeEach, executeEach]
    rcases executeActionOnScheduler a action with ⟨a', e | _⟩
    · simp
    · exact ih

variable (a) in
/-- An action that asks for nothing and cancels nothing leaves the adapter alone. -/
lemma execute_quiet {action : Action} (hc : isCancel action = false)
    (ht : actionTransitions action = []) : executeActionOnScheduler a action = (a, .ok ()) := by
  have hnone := cancelScheduler_of_not_isCancel hc
  have hnil := scheduleOutputBatch_nil a
  rcases executeActionOnScheduler_cases a action with ⟨a', hok, heq⟩ | ⟨hno, -⟩
  · rw [hnone, ht] at hok
    rw [heq, ← hok]
    exact hnil
  · rw [hnone, ht] at hno
    exact absurd (scheduleOutputBatch_ok_iff.mp ⟨_, hnil⟩) hno

/-- A second cancel undoes what the first one left of its own. -/
lemma cancel_cancel (r r' : TimingIslandStopReason) :
    ((s.clearScheduledOwnership.clearLiveFrontierState r).clearScheduledOwnership).clearLiveFrontierState
      r' = s.clearScheduledOwnership.clearLiveFrontierState r' := by
  rcases hm : s.mode <;>
    simp [clearScheduledOwnership, clearLiveFrontierState, refreshCounts, refreshModeFromGroups, hm]

/-- Actions without an arm, followed by a cancel, do what the cancel does alone. -/
lemma executeEach_quiet (hpre : pre.flatMap asked = []) (h : executeEach a pre = (b, .ok ()))
    (r : TimingIslandStopReason) :
    (b.cancelAllWithReason r).frontier = (a.cancelAllWithReason r).frontier := by
  induction pre generalizing a with
  | nil => obtain ⟨rfl, -⟩ := Prod.mk.inj h; rfl
  | cons action pre ih =>
    rw [List.flatMap_cons, List.append_eq_nil_iff] at hpre
    rw [executeEach] at h
    rcases hc : isCancel action with _ | _
    · rw [execute_quiet a hc (List.map_eq_nil_iff.mp hpre.1)] at h
      exact ih hpre.2 h
    · obtain ⟨reason, rfl⟩ := exists_of_isCancel hc
      exact (ih hpre.2 h).trans (cancel_cancel a.frontier _ r)

/-- Without a cancel the windows of all actions are reserved in order. -/
lemma executeEach_reserveAll (hnone : ∀ x ∈ actions, isCancel x = false)
    (h : executeEach a actions = (b, .ok ())) :
    reserveAll a.frontier (actions.flatMap actionWindows) = (b.frontier, .ok ()) := by
  induction actions generalizing a with
  | nil => obtain ⟨rfl, -⟩ := Prod.mk.inj h; rfl
  | cons action actions ih =>
    obtain ⟨hc, hrest⟩ := List.forall_mem_cons.mp hnone
    have hstatus := cancelScheduler_of_not_isCancel hc
    rw [executeEach] at h
    rw [List.flatMap_cons, reserveAll_append]
    rcases executeActionOnScheduler_cases a action with ⟨a', hok, heq⟩ | ⟨-, e, heq⟩
    · rw [heq] at h
      rw [hstatus] at hok
      have hres : reserveAll a.frontier _ = _ := (scheduleOutputBatch_ok hok).2.1
      rw [batchWindows_actionTransitions] at hres
      rw [hres]
      exact ih hrest h
    · rw [heq] at h
      cases (Prod.mk.inj h).2

/-! ### Both ways -/

/-- The same queue contents, reserved windows and frontier, up to the order of the slots. -/
structure Agrees (a b : ScheduledQueueAdapter n) : Prop where
  pending : a.queue.pending.Perm b.queue.pending
  windows : a.frontier.windows.Perm b.frontier.windows
  frontier : { a.frontier with scheduledWindows := b.frontier.scheduledWindows } = b.frontier

lemma map_flatMap_actionTransitions (actions : List Action) :
    (actions.flatMap actionTransitions).map scheduledTransition = actions.flatMap asked :=
  List.map_flatMap

/-- Without a cancel: one batch of transitions, or the actions one by one. -/
lemma agrees_of_no_cancel {base base' b' : ScheduledQueueAdapter n}
    (hnone : ∀ x ∈ actions, isCancel x = false) (hf : base'.frontier = base.frontier)
    (hp : base'.queue.pending.Perm base.queue.pending)
    (h : base.scheduleOutputBatch (actions.flatMap actionTransitions) = (b, .ok ()))
    (h' : executeEach base' actions = (b', .ok ())) : Agrees b b' := by
  have hres' := executeEach_reserveAll hnone h'
  rw [hf] at hres'
  obtain ⟨hwf, hap, -, -⟩ := reserveAll_ok_iff.mp ⟨_, hres'⟩
  obtain ⟨-, hres, hpend⟩ := scheduleOutputBatch_ok h
  obtain ⟨hwin, hfront⟩ := reserveAll_perm (batchWindows_flatMap hwf hap) hres hres'
  refine ⟨?_, hwin, hfront⟩
  have hload := (carries_load base').of_executeEach h'
  refine hpend.trans ?_
  refine List.Perm.trans ?_ (hload.pending.trans (pending_foldl_after hnone _)).symm
  rw [map_flatMap_actionTransitions]
  exact hp.symm.append_left _

lemma lastCancel_of_none (h : ∀ x ∈ actions, isCancel x = false) (before : Option CancelReason) :
    lastCancel before actions = before := by
  induction actions generalizing before with
  | nil => rfl
  | cons action actions ih =>
    obtain ⟨hc, hrest⟩ := List.forall_mem_cons.mp h
    have hstatus := cancelScheduler_of_not_isCancel hc
    have hstep : lastCancel before (action :: actions) =
      lastCancel ((actionStatus action).cancelScheduler.or before) actions := rfl
    rw [hstep, hstatus]
    exact ih hrest before

lemma lastCancel_split {post : List Action} {reason : CancelReason}
    (hpost : ∀ x ∈ post, isCancel x = false) (before : Option CancelReason) :
    lastCancel before (pre ++ .cancelScheduler reason :: post) = some reason := by
  rw [lastCancel_append]
  exact lastCancel_of_none hpost _

/-- **Agreement.** When both ways accept a batch, they agree exactly when none of its arms comes
before a cancel. -/
lemma agrees_iff {b' : ScheduledQueueAdapter n}
    (h : (a.cancelled (lastCancel none actions)).scheduleOutputBatch
      (actions.flatMap actionTransitions) = (b, .ok ()))
    (h' : executeEach a actions = (b', .ok ())) : Agrees b b' ↔ NoArmBeforeCancel actions := by
  rcases exists_last_cancel actions with hnone | ⟨pre, reason, post, rfl, hpost⟩
  · rw [lastCancel_of_none hnone] at h
    exact iff_of_true (agrees_of_no_cancel hnone rfl (List.Perm.refl _) h h')
      (noArmBeforeCancel_of_none hnone)
  rw [lastCancel_split hpost] at h
  rw [noArmBeforeCancel_iff hpost]
  constructor
  · -- the arms before the cancel are queued on one way and dropped on the other
    intro hagree
    have hload := (carries_load a).of_executeEach h'
    rw [foldl_after_cancel] at hload
    obtain ⟨-, -, hpend⟩ := scheduleOutputBatch_ok h
    have hlen' := (hload.pending.trans (pending_foldl_after hpost _)).length_eq
    have hlen := hpend.length_eq
    have hboth := hagree.pending.length_eq
    have hempty : (a.cancelled (some reason)).queue.pending = [] := a.pending_cancelAllWithReason _
    rw [map_flatMap_actionTransitions, hempty, List.append_nil, List.flatMap_append,
      List.flatMap_cons, List.length_append, List.length_append] at hlen
    rw [List.append_nil] at hlen'
    exact List.length_eq_zero_iff.mp (by omega)
  · intro hpre
    obtain ⟨c, hc, hrest⟩ := executeEach_append.mp h'
    refine agrees_of_no_cancel hpost (executeEach_quiet hpre hc _) (by simp) ?_ hrest
    have hpre' : pre.flatMap actionTransitions = [] := by
      rw [List.flatMap_eq_nil_iff] at hpre ⊢
      exact fun action haction => List.map_eq_nil_iff.mp (hpre action haction)
    have hall : (pre ++ Action.cancelScheduler reason :: post).flatMap actionTransitions =
        post.flatMap actionTransitions := by
      simp [hpre', actionTransitions]
    rw [hall] at h
    exact h

/-- Room for all actions of a batch at once, in the board's batches, the queue and the table of
windows. -/
structure Room (out aux : ℕ) (n : ℕ) (l : Load) (actions : List Action) : Prop where
  outputs : (actions.flatMap actionTransitions).length ≤ out
  commands : (actions.flatMap actionAuxCommands).length ≤ aux
  queue : (actions.flatMap asked).length ≤ n - l.pending.length
  capacity : actions.flatMap asked ≠ [] → n ≤ maxMetadataCapacity
  wellFormed : ∀ w ∈ actions.flatMap actionWindows, WellFormed w
  apart : (actions.flatMap actionWindows).Pairwise Apart
  free : ∀ w ∈ actions.flatMap actionWindows, ∀ v ∈ l.windows, Apart w v
  slots : l.windows.length + (actions.flatMap actionWindows).length ≤ maxScheduledWindows

section room

variable {out aux : ℕ} {actions : List Action}

lemma Room.cons {l : Load} {action : Action} (h : Room out aux n l (action :: actions)) :
    Fits n l action ∧ Room out aux n (l.after action) actions := by
  obtain ⟨ho, hx, hq, hc, hw, hp, hf, hs⟩ := h
  simp only [List.flatMap_cons, List.length_append] at ho hx hq hc hw hp hf hs
  obtain ⟨-, hrest, hcross⟩ := List.pairwise_append.mp hp
  have hw₁ : ∀ w ∈ actionWindows action, WellFormed w := fun w hm =>
    hw w (List.mem_append_left _ hm)
  have hw₂ : ∀ w ∈ actions.flatMap actionWindows, WellFormed w := fun w hm =>
    hw w (List.mem_append_right _ hm)
  refine ⟨⟨by omega, fun hne => hc (by simp [hne]), hw₁,
    fun w hm => hf w (List.mem_append_left _ hm), by omega⟩, ?_⟩
  have hc' : actions.flatMap asked ≠ [] → n ≤ maxMetadataCapacity := fun hne =>
    hc fun hnil => hne (List.append_eq_nil_iff.mp hnil).2
  unfold Load.after
  split_ifs with hcancel
  · refine ⟨by omega, by omega, ?_, hc', hw₂, hrest, by simp, ?_⟩
    · show (actions.flatMap asked).length ≤ n - 0
      omega
    · show 0 + (actions.flatMap actionWindows).length ≤ maxScheduledWindows
      omega
  · refine ⟨by omega, by omega, ?_, hc', hw₂, hrest, fun w hm v hv => ?_, ?_⟩
    · show _ ≤ n - (asked action ++ l.pending).length
      rw [List.length_append]; omega
    · rcases List.mem_append.mp hv with hv | hv
      · exact (hcross v hv w hm).symm
      · exact hf w (List.mem_append_right _ hm) v hv
    · show (actionWindows action ++ l.windows).length + _ ≤ maxScheduledWindows
      rw [List.length_append]; omega

lemma Room.allFit {l : Load} (h : Room out aux n l actions) : AllFit n l actions := by
  induction actions generalizing l with
  | nil => trivial
  | cons action actions ih => exact ⟨h.cons.1, ih h.cons.2⟩

lemma Room.admissible (h : Room out aux n (load a) actions) (reason : Option CancelReason) :
    (a.cancelled reason).Admissible (actions.flatMap actionTransitions) := by
  have hperm := batchWindows_flatMap h.wellFormed h.apart
  have hasked : (actions.flatMap asked).length = (actions.flatMap actionTransitions).length := by
    rw [← map_flatMap_actionTransitions, List.length_map]
  have hpending : (a.cancelled reason).queue.pending.length ≤ a.queue.pending.length := by
    cases reason <;> simp [cancelled]
  have hwindows : (a.cancelled reason).frontier.windows.Sublist a.frontier.windows := by
    cases reason <;> simp [cancelled]
  have hqueue : _ ≤ n - a.queue.pending.length := h.queue
  refine ⟨?_, fun hne => h.capacity fun hnil => hne ?_, fun t _ => by simp [balanced, edgeTimes_flatMap],
    fun w hw => h.wellFormed w (hperm.mem_iff.mp hw), (pairwise_apart_perm hperm).mpr h.apart,
    fun w hw v hv => h.free w (hperm.mem_iff.mp hw) v (hwindows.subset hv), ?_⟩
  · rw [freeSlots_eq]; omega
  · rw [← List.length_eq_zero_iff, ← hasked, hnil, List.length_nil]
  · have hslots : a.frontier.windows.length + _ ≤ maxScheduledWindows := h.slots
    have := hwindows.length_le
    rw [hperm.length_eq]
    omega

/-- **A batch as a whole and one by one.** With room for all of it, the batch is lowered and both
ways accept it. Whenever they do, the adapters they leave have the same queue contents, reserved
windows and frontier exactly when no arm comes before a cancel. -/
theorem applyLowered_agrees_iff (a : ScheduledQueueAdapter n) (actions : List Action) :
    (Room out aux n (load a) actions → ∃ lowered b b',
      (new : BoardApiBatchExecutor out aux).executeBatch actions = (lowered, .ok ()) ∧
      a.applyLowered lowered = (b, .ok ()) ∧ executeEach a actions = (b', .ok ())) ∧
    ∀ lowered b b',
      (new : BoardApiBatchExecutor out aux).executeBatch actions = (lowered, .ok ()) →
      a.applyLowered lowered = (b, .ok ()) → executeEach a actions = (b', .ok ()) →
      (Agrees b b' ↔ NoArmBeforeCancel actions) := by
  refine ⟨fun hroom => ?_, fun lowered b b' hlow hb hb' => ?_⟩
  · obtain ⟨lowered, hlow⟩ := executeBatch_of_fits hroom.outputs
      hroom.commands
    obtain ⟨hitems, hcancel⟩ := executeBatch_ok hlow
    obtain ⟨b, hb⟩ := scheduleOutputBatch_ok_iff.mpr
      (hroom.admissible (lastCancel none actions))
    rcases (carries_load a).each actions with ⟨-, b', hb', -⟩ | ⟨hno, -⟩
    · refine ⟨lowered, b, b', hlow, ?_, hb'⟩
      rcases a.applyLowered_cases lowered with ⟨c, hok, heq⟩ | ⟨e, ⟨c, herr⟩, -⟩
      · rw [hitems, hcancel, hb] at hok
        rw [heq, ← hok]
      · rw [hitems, hcancel, hb] at herr
        cases (Prod.mk.inj herr).2
    · exact absurd hroom.allFit hno
  · obtain ⟨hitems, hcancel⟩ := executeBatch_ok hlow
    rcases a.applyLowered_cases lowered with ⟨c, hok, heq⟩ | ⟨e, -, heq⟩
    · obtain rfl : b = c := (Prod.mk.inj (hb.symm.trans heq)).1
      rw [hitems, hcancel] at hok
      exact agrees_iff hok hb'
    · cases (Prod.mk.inj (hb.symm.trans heq)).2

end room

def armThenCancel : List Action := [armAt 0 100 120 200 230, .cancelScheduler .manual]

def loweredArmThenCancel : BoardApiBatchExecutor 8 4 := (new.executeBatch armThenCancel).1

/-- One by one the cancel drops the arm. As a whole batch the arm stays queued. -/
theorem armThenCancel_differs :
    (new : BoardApiBatchExecutor 8 4).executeBatch armThenCancel = (loweredArmThenCancel, .ok ()) ∧
    ((new : ScheduledQueueAdapter 4).applyLowered
      loweredArmThenCancel).2 = .ok () ∧
    (executeEach (new : ScheduledQueueAdapter 4) armThenCancel).2 = .ok () ∧
    ((new : ScheduledQueueAdapter 4).applyLowered
      loweredArmThenCancel).1.queue.pending.length = 4 ∧
    (executeEach (new : ScheduledQueueAdapter 4)
      armThenCancel).1.queue.pending = [] ∧
    ¬ Agrees ((new : ScheduledQueueAdapter 4).applyLowered
        loweredArmThenCancel).1
      (executeEach (new : ScheduledQueueAdapter 4) armThenCancel).1 := by
  refine ⟨by decide +kernel, by decide +kernel, by decide +kernel, by decide +kernel, by decide +kernel,
    fun h => ?_⟩
  exact absurd h.pending.length_eq (by decide +kernel)

end Pipoco.WholeBatch
