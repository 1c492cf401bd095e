import Mathlib.Data.UInt
import Pipoco.Suspension

/-!
The scheduler and its queue under a rotation of the clock.

The clock is a 32-bit counter of microseconds and rolls over every 71 minutes. The queue compares
times by their wrapping differences, so adding a constant to every time changes nothing there. The
scheduler state compares times as plain numbers. Its comparisons survive a rotation exactly when
the rotation takes both times past the rollover or neither.
-/

namespace Pipoco.Rotation

open Domain Slots SchedState SchedQueue Suspension Runs

/-! ### Times -/

variable {a : Micros} (c : Micros) {b : Micros}

/-- Adding `c` takes the time past the rollover. -/
def carries (t : Micros) : Bool := 2 ^ 32 ≤ t.toNat + c.toNat

lemma toNat_add (t c : Micros) :
    (t + c).toNat + (if carries c t then 2 ^ 32 else 0) = t.toNat + c.toNat := by
  have ht := t.toNat_lt
  have hc := c.toNat_lt
  rw [UInt32.toNat_add]
  simp only [carries, decide_eq_true_eq]
  split_ifs <;> omega

lemma lt_add_iff {c : Micros} (h : carries c a = carries c b) : a + c < b + c ↔ a < b := by
  have ha := toNat_add a c
  have hb := toNat_add b c
  rw [h] at ha
  rw [UInt32.lt_iff_toNat_lt, UInt32.lt_iff_toNat_lt]
  omega

lemma le_add_iff {c : Micros} (h : carries c a = carries c b) : a + c ≤ b + c ↔ a ≤ b := by
  rw [← UInt32.not_lt, ← UInt32.not_lt, lt_add_iff h.symm]

/-- **Plain comparisons.** The order of two different times survives the rotation only if both
are taken past the rollover, or neither. -/
lemma carries_eq_of_lt_iff {c : Micros} (hne : a ≠ b) (h : a + c < b + c ↔ a < b) :
    carries c a = carries c b := by
  have hne' : a.toNat ≠ b.toNat := fun he => hne (UInt32.toNat_inj.mp he)
  have ha := a.toNat_lt
  have hb := b.toNat_lt
  rw [UInt32.lt_iff_toNat_lt, UInt32.lt_iff_toNat_lt, UInt32.toNat_add, UInt32.toNat_add] at h
  rw [carries, carries, decide_eq_decide]
  omega

open scoped UInt32.CommRing in
lemma sub_add_add (a b c : Micros) : a + c - (b + c) = a - b := add_sub_add_right_eq_sub a b c

lemma add_inj {c : Micros} : a + c = b + c ↔ a = b := UInt32.add_left_inj c

lemma isBefore_add (a b c : Micros) : isBefore (a + c) (b + c) = isBefore a b := by
  rw [isBefore, sub_add_add, isBefore]

lemma isAtOrAfter_add (a b c : Micros) : isAtOrAfter (a + c) (b + c) = isAtOrAfter a b := by
  rw [isAtOrAfter, sub_add_add, isAtOrAfter]

/-- Adding `c` takes all of these times past the rollover, or none. -/
def SameLap (times : List Micros) : Prop := ∀ a ∈ times, ∀ b ∈ times, carries c a = carries c b

instance (c : Micros) (times : List Micros) : Decidable (SameLap c times) :=
  decidable_of_iff ((times.all fun a => times.all fun b => carries c a == carries c b) = true)
    (by simp [SameLap])

lemma SameLap.mono {c : Micros} {us ts : List Micros} (h : SameLap c ts) (hs : us ⊆ ts) : SameLap c us :=
  fun a ha b hb => h a (hs ha) b (hs hb)

/-- The heartbeat deadline can be represented, before and after the rotation. -/
def NotSaturated (now : Micros) : Prop :=
  now.toNat + heartbeatExpiryUs.toNat < 2 ^ 32 ∧ (now + c).toNat + heartbeatExpiryUs.toNat < 2 ^ 32
  deriving Decidable

lemma satAdd32_of_lt (h : a.toNat + b.toNat < 2 ^ 32) : satAdd32 a b = a + b := by
  have hmin : min (a.toNat + b.toNat) (2 ^ 32 - 1) = a.toNat + b.toNat := min_eq_left (by omega)
  rw [satAdd32, hmin, UInt32.ofNat_add, UInt32.ofNat_toNat, UInt32.ofNat_toNat]

lemma satAdd32_add {c now : Micros} (h : NotSaturated c now) :
    satAdd32 (now + c) heartbeatExpiryUs = satAdd32 now heartbeatExpiryUs + c := by
  rw [satAdd32_of_lt h.1, satAdd32_of_lt h.2, UInt32.add_assoc, UInt32.add_comm c, UInt32.add_assoc]

lemma ite_eq_map {α : Type*} (f : α → α) {p : Prop} [Decidable p] {x y x' y' : α} (hx : x' = f x)
    (hy : y' = f y) : (if p then x' else y') = f (if p then x else y) := by
  rw [hx, hy, apply_ite f]

/-! ### Rotated values -/

variable (s : SchedulerState)

def rotateTransition (t : ScheduledTransition) : ScheduledTransition :=
  { t with atUs := t.atUs + c }

def rotateWindow (w : ScheduledWindow) : ScheduledWindow :=
  { w with startAt := w.startAt + c, endAt := w.endAt + c }

def rotateInjection (p : TimedInjectionPlan) : TimedInjectionPlan :=
  { p with startAt := p.startAt + c, endAt := p.endAt + c }

def rotateIgnition (p : TimedIgnitionPlan) : TimedIgnitionPlan :=
  { p with startAt := p.startAt + c, endAt := p.endAt + c }

def rotateState : SchedulerState :=
  { s with
    scheduledWindows := s.scheduledWindows.map (rotateWindow c)
    lastAcceptedHorizonStartUs := s.lastAcceptedHorizonStartUs.map (· + c)
    lastAcceptedHorizonEndUs := s.lastAcceptedHorizonEndUs.map (· + c)
    horizonStartUs := s.horizonStartUs.map (· + c)
    horizonEndUs := s.horizonEndUs.map (· + c)
    heartbeatDeadlineUs := s.heartbeatDeadlineUs.map (· + c)
    lastInjectionStart := s.lastInjectionStart.map (· + c)
    lastInjectionEnd := s.lastInjectionEnd.map (· + c)
    lastIgnitionStart := s.lastIgnitionStart.map (· + c)
    lastIgnitionEnd := s.lastIgnitionEnd.map (· + c) }

variable {n : ℕ}

/-- The metrics of a queue are counts and durations. -/
def rotateQueue (c : Micros) (q : ScheduledTransitionQueue n) : ScheduledTransitionQueue n :=
  { q with transitions := q.transitions.map (rotateTransition c) }

/-! ### The queue -/

section queue

open ScheduledTransitionQueue

variable (c : Micros) (q : ScheduledTransitionQueue n) (now : Micros) (t : ScheduledTransition)
  (ts : List ScheduledTransition)

@[simp] lemma activeCount_rotate : (rotateQueue c q).activeCount = q.activeCount := count_map _ _

@[simp] lemma freeSlots_rotate : (rotateQueue c q).freeSlots = q.freeSlots := by
  rw [freeSlots, activeCount_rotate, freeSlots]

lemma recordEnqueueMetrics_rotate :
    (rotateQueue c q).recordEnqueueMetrics = rotateQueue c q.recordEnqueueMetrics := by
  unfold recordEnqueueMetrics
  rw [activeCount_rotate]
  exact ite_eq_map _ rfl rfl

lemma enqueueTransition_rotate :
    (rotateQueue c q).enqueueTransition (rotateTransition c t) =
      (q.enqueueTransition t).map (rotateQueue c) id := by
  unfold enqueueTransition
  split_ifs
  · rfl
  · have hput : (rotateQueue c q).transitions.put (rotateTransition c t) =
        (q.transitions.put t).map (Table.map (rotateTransition c)) := put_map _ _ _
    rw [hput]
    rcases q.transitions.put t with _ | table
    · rfl
    · exact Prod.ext (recordEnqueueMetrics_rotate c { q with transitions := table }) rfl

lemma enqueueAll_rotate :
    (rotateQueue c q).enqueueAll (ts.map (rotateTransition c)) =
      (q.enqueueAll ts).map (rotateQueue c) id := by
  induction ts generalizing q with
  | nil => rfl
  | cons t ts ih =>
    rw [List.map_cons, enqueueAll, enqueueTransition_rotate, enqueueAll]
    rcases q.enqueueTransition t with ⟨q', e | _⟩
    · rfl
    · exact ih q'

lemma enqueueExport_rotate :
    (rotateQueue c q).enqueueExport (ts.map (rotateTransition c)) =
      (q.enqueueExport ts).map (rotateQueue c) id := by
  simp only [enqueueExport, freeSlots_rotate, List.length_map]
  split_ifs
  · rfl
  · exact enqueueAll_rotate c q ts

lemma exportWindow_rotate (kind : ScheduledTransitionKind) (channel : ChannelId)
    (startAt endAt : Micros) (capacity : ℕ) :
    exportWindow kind channel (startAt + c) (endAt + c) capacity =
      (exportWindow kind channel startAt endAt capacity).map (List.map (rotateTransition c)) := by
  simp only [exportWindow, add_inj, isBefore_add]
  split_ifs <;> rfl

/-- At equal times the type's order does not look at the time. -/
lemma selects_rotate (u : ScheduledTransition) :
    (isBefore (rotateTransition c t).atUs (rotateTransition c u).atUs ||
      (rotateTransition c t).atUs = (rotateTransition c u).atUs &&
        transitionLt (rotateTransition c t) (rotateTransition c u)) =
    (isBefore t.atUs u.atUs || t.atUs = u.atUs && transitionLt t u) := by
  have hbefore : isBefore (rotateTransition c t).atUs (rotateTransition c u).atUs =
      isBefore t.atUs u.atUs := isBefore_add _ _ _
  have heq : (rotateTransition c t).atUs = (rotateTransition c u).atUs ↔ t.atUs = u.atUs := add_inj
  rw [hbefore]
  by_cases h : t.atUs = u.atUs
  · simp [h, transitionLt, rotateTransition, UInt32.lt_irrefl]
  · simp [h, mt heq.mp h]

lemma nextDueFrom_rotate (cells : List (Option ScheduledTransition)) (idx : ℕ)
    (selected : Option (ℕ × ScheduledTransition)) :
    nextDueFrom (now + c) (cells.map (Option.map (rotateTransition c))) idx
        (selected.map (Prod.map id (rotateTransition c))) =
      (nextDueFrom now cells idx selected).map (Prod.map id (rotateTransition c)) := by
  induction cells generalizing idx selected with
  | nil => rfl
  | cons cell cells ih =>
    rcases cell with _ | t
    · exact ih (idx + 1) selected
    · have hdue : isDue (now + c) (rotateTransition c t).atUs = isDue now t.atUs := by
        rw [isDue, rotateTransition, sub_add_add, isDue]
      rw [List.map_cons, Option.map_some]
      rcases selected with _ | ⟨i, u⟩
      · rw [Option.map_none, nextDueFrom, nextDueFrom, hdue]
        split_ifs
        · exact ih (idx + 1) none
        · exact ih (idx + 1) (some (idx, t))
      · rw [Option.map_some, Prod.map_apply, id_eq, nextDueFrom, nextDueFrom, hdue, selects_rotate]
        split_ifs
        · exact ih (idx + 1) (some (i, u))
        · exact ih (idx + 1) (some (idx, t))
        · exact ih (idx + 1) (some (i, u))

lemma nextDueIndex_rotate : (rotateQueue c q).nextDueIndex (now + c) = q.nextDueIndex now := by
  have h := nextDueFrom_rotate c now q.transitions.cells 0 none
  show (nextDueFrom (now + c) (q.transitions.cells.map _) 0 none).map _ = _
  rw [Option.map_none] at h
  rw [h, Option.map_map]
  rfl

lemma recordDrainedTransition_rotate :
    (rotateQueue c q).recordDrainedTransition (now + c) (rotateTransition c t) =
      rotateQueue c (q.recordDrainedTransition now t) := by
  have hlate : now + c - (rotateTransition c t).atUs = now - t.atUs := sub_add_add _ _ _
  unfold recordDrainedTransition
  rw [hlate]
  exact ite_eq_map (rotateQueue c) rfl rfl

lemma drainLoop_rotate (room : ℕ) :
    drainLoop (now + c) room (rotateQueue c q) =
      (drainLoop now room q).map (rotateQueue c) (List.map (rotateTransition c)) := by
  induction room generalizing q with
  | zero => rfl
  | succ room ih =>
    rw [drainLoop, nextDueIndex_rotate, drainLoop]
    rcases q.nextDueIndex now with _ | idx
    · rfl
    · have hat : (rotateQueue c q).transitions.at? idx =
          (q.transitions.at? idx).map (rotateTransition c) := at?_map _ _ _
      rcases hq : q.transitions.at? idx with _ | t
      · simp only [hat, hq, Option.map_none]
        rfl
      · have htaken : ({ rotateQueue c q with
              transitions := (rotateQueue c q).transitions.clearAt idx } :
              ScheduledTransitionQueue n) =
            rotateQueue c { q with transitions := q.transitions.clearAt idx } := by
          simp only [rotateQueue, clearAt_map]
        simp only [hat, hq, Option.map_some, htaken, recordDrainedTransition_rotate, ih]
        rfl

lemma drainDue_rotate (m : ℕ) :
    (rotateQueue c q).drainDue (now + c) m =
      (q.drainDue now m).map (rotateQueue c) (List.map (rotateTransition c)) := by
  simp only [drainDue, drainLoop_rotate, Prod.map_fst, Prod.map_snd, List.length_map]
  split_ifs <;> rfl

lemma cancelWhere_rotate {p p' : ScheduledTransition → Bool}
    (hp : ∀ t, p' (rotateTransition c t) = p t) :
    (rotateQueue c q).cancelWhere p' = rotateQueue c (q.cancelWhere p) := by
  simp only [cancelWhere, rotateQueue, cancel_map _ _ hp]

lemma cancelAll_rotate : (rotateQueue c q).cancelAll = rotateQueue c q.cancelAll := by
  simp only [cancelAll, rotateQueue, map_empty]

end queue

/-! ### The scheduler state -/

section state

open SchedulerState

variable (c : Micros) (s : SchedulerState) (g : OutputGroup)

@[simp] lemma windows_rotate : (rotateState c s).windows = s.windows.map (rotateWindow c) :=
  items_map _ _

lemma refreshReservedChannels_rotate :
    (rotateState c s).refreshReservedChannels = rotateState c s.refreshReservedChannels := by
  have hfold : (rotateState c s).windows.foldl reserveBit (fun _ => 0) =
      s.windows.foldl reserveBit fun _ => 0 := by
    rw [windows_rotate, List.foldl_map]
    rfl
  simp only [refreshReservedChannels, hfold]
  rfl

lemma refreshModeFromGroups_rotate :
    (rotateState c s).refreshModeFromGroups = rotateState c s.refreshModeFromGroups := by
  exact ite_eq_map _ rfl (ite_eq_map _ rfl rfl)

lemma syncScheduledGroup_rotate :
    (rotateState c s).syncScheduledGroup g = rotateState c (s.syncScheduledGroup g) := by
  exact ite_eq_map _ rfl rfl

lemma cancelGroup_rotate : (rotateState c s).cancelGroup g = rotateState c (s.cancelGroup g) := by
  have hcancel : (rotateState c s).scheduledWindows.cancel (fun w => w.output.group = g) =
      (s.scheduledWindows.cancel fun w => w.output.group = g).map (rotateWindow c) :=
    cancel_map _ _ fun _ => rfl
  simp only [cancelGroup, hcancel]
  rfl

lemma clearScheduledOwnership_rotate :
    (rotateState c s).clearScheduledOwnership = rotateState c s.clearScheduledOwnership := by
  unfold clearScheduledOwnership
  rw [← refreshModeFromGroups_rotate]
  refine congrArg refreshModeFromGroups ?_
  simp only [rotateState, refreshCounts, map_empty]

lemma suspend_rotate : (rotateState c s).suspend = rotateState c s.suspend := by
  simp only [suspend, clearScheduledOwnership_rotate]
  rfl

lemma noteDrainedTransition_rotate (t : ScheduledTransition) :
    (rotateState c s).noteDrainedTransition (rotateTransition c t) =
      rotateState c (s.noteDrainedTransition t) := by
  have hclosed : ∀ w, closedBy (rotateTransition c t) (rotateWindow c w) = closedBy t w := by
    intro w
    have hend : (rotateWindow c w).endAt = (rotateTransition c t).atUs ↔ w.endAt = t.atUs := add_inj
    simp only [closedBy, hend]
    rfl
  have hany : (rotateState c s).windows.any (closedBy (rotateTransition c t)) =
      s.windows.any (closedBy t) := by
    rw [windows_rotate, List.any_map]
    exact congrArg s.windows.any (funext hclosed)
  have hrelease : ({ rotateState c s with scheduledWindows :=
        (rotateState c s).scheduledWindows.release (closedBy (rotateTransition c t)) } :
        SchedulerState) =
      rotateState c { s with scheduledWindows := s.scheduledWindows.release (closedBy t) } := by
    have hmap : (rotateState c s).scheduledWindows.release (closedBy (rotateTransition c t)) =
        (s.scheduledWindows.release (closedBy t)).map (rotateWindow c) := release_map _ _ hclosed
    rw [hmap]
    rfl
  unfold noteDrainedTransition
  show (if t.level ≠ .low then _ else _) = _
  rw [hany, hrelease]
  dsimp only
  split_ifs
  · rfl
  · rw [refreshReservedChannels_rotate, syncScheduledGroup_rotate, syncScheduledGroup_rotate]
    exact refreshModeFromGroups_rotate c (refreshCounts _)
  · rfl

/-- The times of the windows reserved on an output. -/
def windowTimes (output : ExclusiveChannel) : List Micros :=
  (s.windows.filter fun w => w.output = output).flatMap fun w => [w.startAt, w.endAt]

variable {c s} {output : ExclusiveChannel} {now startAt endAt : Micros}

lemma overlaps_rotate (h : SameLap c (startAt :: endAt :: windowTimes s output)) :
    ((rotateState c s).windows.any fun w => w.output = output &&
        windowsOverlap (startAt + c) (endAt + c) w.startAt w.endAt) =
      s.windows.any fun w => w.output = output &&
        windowsOverlap startAt endAt w.startAt w.endAt := by
  rw [windows_rotate, List.any_map, Bool.eq_iff_iff, List.any_eq_true, List.any_eq_true]
  refine exists_congr fun w => and_congr_right fun hw => ?_
  show (decide (w.output = output) &&
      windowsOverlap (startAt + c) (endAt + c) (w.startAt + c) (w.endAt + c)) = true ↔ _
  by_cases ho : w.output = output
  · have hmem : ∀ t ∈ [w.startAt, w.endAt], t ∈ startAt :: endAt :: windowTimes s output :=
      fun t ht => List.mem_cons_of_mem _ (List.mem_cons_of_mem _ (List.mem_flatMap.mpr
        ⟨w, List.mem_filter.mpr ⟨hw, decide_eq_true ho⟩, ht⟩))
    have h₁ := h startAt (by simp) w.endAt (hmem _ (by simp))
    have h₂ := h w.startAt (hmem _ (by simp)) endAt (by simp)
    simp only [windowsOverlap, lt_add_iff h₁, lt_add_iff h₂]
  · simp [ho]

/-- **A reservation** whose times are on one lap with the windows of its output. -/
lemma reserveWindow_rotate (h : SameLap c (startAt :: endAt :: windowTimes s output)) :
    (rotateState c s).reserveWindow output (startAt + c) (endAt + c) =
      (s.reserveWindow output startAt endAt).map (rotateState c) id := by
  have hle := le_add_iff (h endAt (by simp) startAt (by simp))
  have hput : (rotateState c s).scheduledWindows.put ⟨output, startAt + c, endAt + c⟩ =
      (s.scheduledWindows.put ⟨output, startAt, endAt⟩).map (Table.map (rotateWindow c)) :=
    put_map (rotateWindow c) s.scheduledWindows ⟨output, startAt, endAt⟩
  unfold reserveWindow
  simp only [hle, overlaps_rotate h, hput]
  rcases channelBit output.channel with e | bit
  · split_ifs <;> rfl
  split_ifs
  · rfl
  · rfl
  · rcases s.scheduledWindows.put ⟨output, startAt, endAt⟩ with _ | table
    · rfl
    · refine Prod.ext ?_ rfl
      have hstored := refreshReservedChannels_rotate c
        (({ s with scheduledWindows := table } : SchedulerState).armGroup output.group)
      exact congrArg refreshCounts hstored

lemma scheduleWindow_rotate (h : SameLap c (now :: startAt :: endAt :: windowTimes s output)) :
    (rotateState c s).scheduleWindow (now + c) (startAt + c) (endAt + c) output =
      (s.scheduleWindow now startAt endAt output).map (rotateState c) id := by
  have hstale := le_add_iff (h startAt (by simp) now (by simp))
  have hinverted := lt_add_iff (h endAt (by simp) startAt (by simp))
  have hdeadline : convertDeadline (now + c) (startAt + c) (endAt + c) =
      (convertDeadline now startAt endAt).map fun p => (p.1 + c, p.2 + c) := by
    simp only [convertDeadline, hstale, hinverted, add_inj]
    split_ifs <;> rfl
  have hmode : (rotateState c s).ensureSchedulable = s.ensureSchedulable := rfl
  unfold scheduleWindow
  rw [hmode, hdeadline]
  rcases s.ensureSchedulable with e | _
  · rfl
  rcases hd : convertDeadline now startAt endAt with e | p
  · rfl
  · obtain rfl : p = (startAt, endAt) := by
      unfold convertDeadline at hd
      split_ifs at hd
      exact (Except.ok.inj hd).symm
    exact reserveWindow_rotate (h.mono (List.subset_cons_self _ _))

lemma scheduleInjection_rotate {plan : InjectionPlan}
    (h : SameLap c (now :: startAt :: endAt :: windowTimes s plan.output)) :
    (rotateState c s).scheduleInjection (now + c) (startAt + c) (endAt + c) plan =
      (s.scheduleInjection now startAt endAt plan).map (rotateState c) (Except.map (rotateInjection c)) := by
  unfold scheduleInjection
  rw [scheduleWindow_rotate h]
  rcases s.scheduleWindow now startAt endAt plan.output with ⟨s', e | _⟩ <;> rfl

lemma scheduleIgnition_rotate {plan : IgnitionPlan}
    (h : SameLap c (now :: startAt :: endAt :: windowTimes s plan.output)) :
    (rotateState c s).scheduleIgnition (now + c) (startAt + c) (endAt + c) plan =
      (s.scheduleIgnition now startAt endAt plan).map (rotateState c) (Except.map (rotateIgnition c)) := by
  unfold scheduleIgnition
  rw [scheduleWindow_rotate h]
  rcases s.scheduleWindow now startAt endAt plan.output with ⟨s', e | _⟩ <;> rfl

lemma commitHorizon_rotate {i : TimingIslandHorizonSequenceId} {startUs endUs : Micros}
    (h : SameLap c [startUs, endUs]) (deadlineUs : Micros) (m : SafetyPermitMask) :
    (rotateState c s).commitHorizon i (startUs + c) (endUs + c) (deadlineUs + c) m =
      (s.commitHorizon i startUs endUs deadlineUs m).map (rotateState c) id := by
  have hle := le_add_iff (h endUs (by simp) startUs (by simp))
  unfold commitHorizon
  rw [sub_add_add]
  simp only [hle]
  exact ite_eq_map _ rfl (ite_eq_map _ rfl (ite_eq_map _ rfl rfl))

lemma expireHeartbeat_rotate (h : SameLap c (now :: s.heartbeatDeadlineUs.toList)) :
    (rotateState c s).expireHeartbeat (now + c) =
      (s.expireHeartbeat now).map (rotateState c) id := by
  have hrotated : (rotateState c s).heartbeatDeadlineUs = s.heartbeatDeadlineUs.map (· + c) := rfl
  unfold expireHeartbeat
  rw [hrotated]
  rcases hd : s.heartbeatDeadlineUs with _ | deadline
  · rfl
  · have hle := le_add_iff (h now (by simp) deadline (by simp [hd]))
    simp only [Option.map_some, hle]
    refine ite_eq_map _ rfl ?_
    simp only [rotateState, hd, Option.map_some, Prod.map_apply, id_eq]

lemma expireHorizon_rotate (h : SameLap c (now :: s.horizonEndUs.toList)) :
    (rotateState c s).expireHorizon (now + c) = (s.expireHorizon now).map (rotateState c) id := by
  have hrotated : (rotateState c s).horizonEndUs = s.horizonEndUs.map (· + c) := rfl
  unfold expireHorizon
  rw [hrotated]
  rcases hd : s.horizonEndUs with _ | endUs
  · rfl
  · have hle := le_add_iff (h now (by simp) endUs (by simp [hd]))
    simp only [Option.map_some, hle]
    exact ite_eq_map _ rfl rfl

lemma noteHeartbeat_rotate (h : s.activeHorizonId.isSome = true → NotSaturated c now) :
    (rotateState c s).noteHeartbeat (now + c) = rotateState c (s.noteHeartbeat now) := by
  unfold noteHeartbeat
  show (if s.activeHorizonId.isSome then _ else _) = _
  split_ifs with hactive
  · rw [satAdd32_add (h hactive)]
    rfl
  · rfl

end state

/-! ### Runs -/

inductive Outcome
  | done
  | answered (result : Except ScheduleError Unit)
  | flag (value : Bool)
  | injection (result : Except ScheduleError TimedInjectionPlan)
  | ignition (result : Except ScheduleError TimedIgnitionPlan)
  | drained (out : List ScheduledTransition)
  deriving DecidableEq

/-- A call on the scheduler state, on the queue, or on both. -/
inductive ClockOp
  | frontier (op : SchedOp)
  | queue (op : QueueOp)
  | exportInjection (plan : TimedInjectionPlan) (capacity : ℕ)
  | exportIgnition (plan : TimedIgnitionPlan) (capacity : ℕ)
  | drainDueWithFrontier (now : Micros) (m : ℕ)

/-- The scheduler state, the queue, and the answers so far. -/
structure Clocked (n : ℕ) where
  frontier : SchedulerState
  queue : ScheduledTransitionQueue n
  log : List Outcome

open Clocked

def Clocked.new : Clocked n := ⟨.new, .new, []⟩

def schedOutcome : SchedOp → Outcome
  | .reserveWindow o a b => .answered (s.reserveWindow o a b).2
  | .commitHorizon i a b d m => .flag (s.commitHorizon i a b d m).2
  | .expireHeartbeat now => .flag (s.expireHeartbeat now).2
  | .expireHorizon now => .flag (s.expireHorizon now).2
  | .scheduleInjection now a b p => .injection (s.scheduleInjection now a b p).2
  | .scheduleIgnition now a b p => .ignition (s.scheduleIgnition now a b p).2
  | _ => .done

def queueOutcome (q : ScheduledTransitionQueue n) : QueueOp → Outcome
  | .enqueueTransition t => .answered (q.enqueueTransition t).2
  | .enqueueExport ts => .answered (q.enqueueExport ts).2
  | .drainDue now m => .drained (q.drainDue now m).2
  | _ => .done

variable (x : Clocked n)

/-- Export a plan and enqueue what it gives. -/
def enqueuePlan (exported : Except ScheduleError (List ScheduledTransition)) : Clocked n :=
  match exported with
  | .error e => { x with log := x.log ++ [.answered (.error e)] }
  | .ok ts =>
    let r := x.queue.enqueueExport ts
    { x with queue := r.1, log := x.log ++ [.answered r.2] }

def step : ClockOp → Clocked n
  | .frontier op =>
    { x with frontier := schedStep x.frontier op, log := x.log ++ [schedOutcome x.frontier op] }
  | .queue op => { x with queue := queueStep x.queue op, log := x.log ++ [queueOutcome x.queue op] }
  | .exportInjection plan capacity => enqueuePlan x (SchedQueue.exportInjection plan capacity)
  | .exportIgnition plan capacity => enqueuePlan x (SchedQueue.exportIgnition plan capacity)
  | .drainDueWithFrontier now m =>
    let r := x.queue.drainDueWithFrontier now x.frontier m
    ⟨r.2.1, r.1, x.log ++ [.drained r.2.2]⟩

def rotateOutcome : Outcome → Outcome
  | .injection r => .injection (r.map (rotateInjection c))
  | .ignition r => .ignition (r.map (rotateIgnition c))
  | .drained out => .drained (out.map (rotateTransition c))
  | o => o

def rotateSched : SchedOp → SchedOp
  | .reserveWindow o a b => .reserveWindow o (a + c) (b + c)
  | .commitHorizon i a b d m => .commitHorizon i (a + c) (b + c) (d + c) m
  | .noteHeartbeat now => .noteHeartbeat (now + c)
  | .expireFrontier now => .expireFrontier (now + c)
  | .expireHeartbeat now => .expireHeartbeat (now + c)
  | .expireHorizon now => .expireHorizon (now + c)
  | .scheduleInjection now a b p => .scheduleInjection (now + c) (a + c) (b + c) p
  | .scheduleIgnition now a b p => .scheduleIgnition (now + c) (a + c) (b + c) p
  | .noteDrainedTransition t => .noteDrainedTransition (rotateTransition c t)
  | op => op

def rotateQueueOp : QueueOp → QueueOp
  | .enqueueTransition t => .enqueueTransition (rotateTransition c t)
  | .enqueueExport ts => .enqueueExport (ts.map (rotateTransition c))
  | .drainDue now m => .drainDue (now + c) m
  | .cancelChannelAfter channel cutoff => .cancelChannelAfter channel (cutoff + c)
  | op => op

def rotateOp : ClockOp → ClockOp
  | .frontier op => .frontier (rotateSched c op)
  | .queue op => .queue (rotateQueueOp c op)
  | .exportInjection plan capacity => .exportInjection (rotateInjection c plan) capacity
  | .exportIgnition plan capacity => .exportIgnition (rotateIgnition c plan) capacity
  | .drainDueWithFrontier now m => .drainDueWithFrontier (now + c) m

def Clocked.rotate (c : Micros) (x : Clocked n) : Clocked n :=
  ⟨rotateState c x.frontier, rotateQueue c x.queue, x.log.map (rotateOutcome c)⟩

/-- The times that a call on the scheduler state compares as plain numbers. -/
def compared : SchedOp → List Micros
  | .reserveWindow o a b => a :: b :: windowTimes s o
  | .commitHorizon _ a b _ _ => [a, b]
  | .expireFrontier now => now :: (s.heartbeatDeadlineUs.toList ++ s.horizonEndUs.toList)
  | .expireHeartbeat now => now :: s.heartbeatDeadlineUs.toList
  | .expireHorizon now => now :: s.horizonEndUs.toList
  | .scheduleInjection now a b p => now :: a :: b :: windowTimes s p.output
  | .scheduleIgnition now a b p => now :: a :: b :: windowTimes s p.output
  | _ => []

/-- A heartbeat under a live horizon has a deadline that does not saturate. -/
def heartbeatFits : SchedOp → Bool
  | .noteHeartbeat now => !s.activeHorizonId.isSome || decide (NotSaturated c now)
  | _ => true

/-- **The condition on a call.** The rotation takes all times it compares as plain numbers past
the rollover, or none, and no heartbeat deadline saturates. The queue's own calls are free. -/
def Steady (c : Micros) (x : Clocked n) : ClockOp → Prop
  | .frontier op => SameLap c (compared x.frontier op) ∧ heartbeatFits c x.frontier op = true
  | .drainDueWithFrontier now _ => SameLap c (compared x.frontier (.expireFrontier now))
  | _ => True

instance (c : Micros) (x : Clocked n) : ∀ op, Decidable (Steady c x op)
  | .frontier _ => inferInstanceAs (Decidable (_ ∧ _))
  | .drainDueWithFrontier _ _ => inferInstanceAs (Decidable (SameLap c _))
  | .queue _ | .exportInjection _ _ | .exportIgnition _ _ => isTrue trivial

variable {s}

lemma expireFrontier_rotate {c : Micros} {now : Micros}
    (h : SameLap c (compared s (.expireFrontier now))) :
    (rotateState c s).expireFrontier (now + c) = rotateState c (s.expireFrontier now) := by
  have hkeep : (s.expireHeartbeat now).1.horizonEndUs = s.horizonEndUs := by
    unfold SchedulerState.expireHeartbeat
    split
    · rfl
    · split_ifs <;> rfl
  have hbeat : SameLap c (now :: s.heartbeatDeadlineUs.toList) :=
    h.mono (List.cons_subset_cons _ (List.subset_append_left _ _))
  have hend : SameLap c (now :: (s.expireHeartbeat now).1.horizonEndUs.toList) := by
    rw [hkeep]
    exact h.mono (List.cons_subset_cons _ (List.subset_append_right _ _))
  simp only [SchedulerState.expireFrontier, expireHeartbeat_rotate hbeat, Prod.map_fst,
    expireHorizon_rotate hend]

lemma answers {σ α : Type*} {F : σ → σ} {g : α → α} {p p' : σ × α} (mk : α → Outcome)
    (h : p' = p.map F g) : p'.1 = F p.1 ∧ mk p'.2 = mk (g p.2) := by
  subst h
  exact ⟨rfl, rfl⟩

lemma sched_rotate {c : Micros} {op : SchedOp} (h : SameLap c (compared s op))
    (hbeat : heartbeatFits c s op = true) :
    schedStep (rotateState c s) (rotateSched c op) = rotateState c (schedStep s op) ∧
      schedOutcome (rotateState c s) (rotateSched c op) = rotateOutcome c (schedOutcome s op) := by
  cases op with
  | armGroup g => exact ⟨rfl, rfl⟩
  | reserveWindow o a b => exact answers .answered (reserveWindow_rotate h)
  | cancelGroup g => exact ⟨cancelGroup_rotate c s g, rfl⟩
  | cancelAll =>
    refine ⟨?_, rfl⟩
    show ((rotateState c s).clearScheduledOwnership).clearLiveFrontierState _ = _
    rw [clearScheduledOwnership_rotate]
    rfl
  | suspend => exact ⟨suspend_rotate c s, rfl⟩
  | onSyncLoss => exact ⟨suspend_rotate c (s.clearLiveFrontierState .syncLost), rfl⟩
  | onSyncRecovered => exact ⟨ite_eq_map _ rfl rfl, rfl⟩
  | onGeometryCommit =>
    refine ⟨?_, rfl⟩
    show ((rotateState c s).cancelGroup .injector).cancelGroup .ignition = _
    rw [cancelGroup_rotate, cancelGroup_rotate]
    rfl
  | onHardSafetyShutdown => exact ⟨suspend_rotate c (s.clearLiveFrontierState .timingFault), rfl⟩
  | commitHorizon i a b d m => exact answers .flag (commitHorizon_rotate (i := i) h d m)
  | noteHeartbeat now =>
    refine ⟨noteHeartbeat_rotate fun hactive => ?_, rfl⟩
    simpa [heartbeatFits, hactive] using hbeat
  | expireFrontier now => exact ⟨expireFrontier_rotate h, rfl⟩
  | clearLiveFrontierState r => exact ⟨rfl, rfl⟩
  | expireHeartbeat now => exact answers .flag (expireHeartbeat_rotate h)
  | expireHorizon now => exact answers .flag (expireHorizon_rotate h)
  | scheduleInjection now a b p => exact answers .injection (scheduleInjection_rotate h)
  | scheduleIgnition now a b p => exact answers .ignition (scheduleIgnition_rotate h)
  | noteDrainedTransition t => exact ⟨noteDrainedTransition_rotate c s t, rfl⟩
  | clearScheduledOwnership => exact ⟨clearScheduledOwnership_rotate c s, rfl⟩

lemma queue_rotate (c : Micros) (q : ScheduledTransitionQueue n) (op : QueueOp) :
    queueStep (rotateQueue c q) (rotateQueueOp c op) = rotateQueue c (queueStep q op) ∧
      queueOutcome (rotateQueue c q) (rotateQueueOp c op) = rotateOutcome c (queueOutcome q op) := by
  cases op with
  | enqueueTransition t => exact answers .answered (enqueueTransition_rotate c q t)
  | enqueueExport ts => exact answers .answered (enqueueExport_rotate c q ts)
  | drainDue now m => exact answers .drained (drainDue_rotate c q now m)
  | cancelChannelAfter channel cutoff =>
    refine ⟨cancelWhere_rotate c q fun t => ?_, rfl⟩
    show (decide (t.channel = channel) && isAtOrAfter (t.atUs + c) (cutoff + c)) = _
    rw [isAtOrAfter_add]
  | cancelChannelAll channel => exact ⟨cancelWhere_rotate c q fun _ => rfl, rfl⟩
  | cancelGroup g =>
    refine ⟨?_, rfl⟩
    cases g with
    | injector | ignition => exact cancelWhere_rotate c q fun _ => rfl
    | idle | fan => rfl
  | cancelAll => exact ⟨cancelAll_rotate c q, rfl⟩

lemma enqueuePlan_rotate (c : Micros) (x : Clocked n)
    (exported : Except ScheduleError (List ScheduledTransition)) :
    enqueuePlan (x.rotate c) (exported.map (List.map (rotateTransition c))) =
      (enqueuePlan x exported).rotate c := by
  rcases exported with e | ts
  · simp [enqueuePlan, rotate, Except.map, rotateOutcome]
  · have heq := enqueueExport_rotate c x.queue ts
    simp [enqueuePlan, rotate, Except.map, rotateOutcome, heq]

lemma step_rotate {c : Micros} {x : Clocked n} {op : ClockOp} (h : Steady c x op) :
    step (x.rotate c) (rotateOp c op) = (step x op).rotate c := by
  cases op with
  | frontier op =>
    obtain ⟨hstate, hout⟩ := sched_rotate h.1 h.2
    simp only [rotateOp, step, rotate, hstate, hout, List.map_append, List.map_cons, List.map_nil]
  | queue op =>
    obtain ⟨hqueue, hout⟩ := queue_rotate c x.queue op
    simp only [rotateOp, step, rotate, hqueue, hout, List.map_append, List.map_cons, List.map_nil]
  | exportInjection plan capacity | exportIgnition plan capacity =>
    refine Eq.trans ?_ (enqueuePlan_rotate c x _)
    exact congrArg (enqueuePlan (x.rotate c)) (exportWindow_rotate c _ _ _ _ capacity)
  | drainDueWithFrontier now m =>
    have hexp := expireFrontier_rotate h
    have hdrain : (rotateQueue c x.queue).drainDueWithFrontier (now + c)
          (rotateState c x.frontier) m =
        (rotateQueue c (x.queue.drainDueWithFrontier now x.frontier m).1,
          rotateState c (x.queue.drainDueWithFrontier now x.frontier m).2.1,
          (x.queue.drainDueWithFrontier now x.frontier m).2.2.map (rotateTransition c)) := by
      simp only [ScheduledTransitionQueue.drainDueWithFrontier, hexp, drainDue_rotate]
      show (if ScheduledTransitionQueue.gateClosed (x.frontier.expireFrontier now) then _
        else _) = _
      split_ifs
      · rw [cancelAll_rotate]; rfl
      · rfl
    simp only [rotateOp, step, rotate, hdrain, rotateOutcome, List.map_append,
      List.map_cons, List.map_nil]

/-- **Where the clock stands does not matter** to a run whose calls are all steady: rotated, it
has the same acceptances and rejections, and drains the same transitions, rotated. -/
theorem run_rotate {c : Micros} {x : Clocked n} {ops : List ClockOp}
    (h : Along step (Steady c) x ops) :
    run step (x.rotate c) (ops.map (rotateOp c)) = (run step x ops).rotate c :=
  run_rename (fun _ _ => step_rotate) h

/-- One injection, planned, exported, enqueued, and drained when it has started. -/
def pulse (now startAt endAt : Micros) : List ClockOp :=
  [.frontier (.scheduleInjection now startAt endAt ⟨⟨.injector, 0⟩, 1000⟩),
    .exportInjection ⟨⟨⟨.injector, 0⟩, 1000⟩, startAt, endAt⟩ 4, .queue (.drainDue (startAt + 1) 4)]

/-- A pulse whose times are all taken past the rollover is drained there as it was before. -/
theorem run_rotate_pulse :
    Along step (Steady 4294966796) (new : Clocked 4) (pulse 1000 2000 3000) ∧
    (run step (new : Clocked 4) (pulse 1000 2000 3000)).log.length = 3 ∧
    (run step ((new : Clocked 4).rotate 4294966796)
      ((pulse 1000 2000 3000).map (rotateOp 4294966796))).log =
      (run step (new : Clocked 4) (pulse 1000 2000 3000)).log.map
        (rotateOutcome 4294966796) := by
  have hsteady : Along step (Steady 4294966796) (new : Clocked 4)
      (pulse 1000 2000 3000) := by decide +kernel
  exact ⟨hsteady, by decide +kernel, congrArg log (run_rotate hsteady)⟩

/-- A pulse of a millisecond is planned. With the clock 600 microseconds before the rollover the
same pulse is refused as stale: it ends on the next lap. -/
theorem pulse_across_rollover :
    (run step (new : Clocked 4) (pulse 0 100 1100)).log =
      [.injection (.ok ⟨⟨⟨.injector, 0⟩, 1000⟩, 100, 1100⟩), .answered (.ok ()),
        .drained [⟨100, .injector, 0, .high⟩]] ∧
    (run step ((new : Clocked 4).rotate 4294966696)
        ((pulse 0 100 1100).map (rotateOp 4294966696))).log =
      [.injection (.error .staleDeadline), .answered (.ok ()),
        .drained [⟨4294966796, .injector, 0, .high⟩]] ∧
    run step ((new : Clocked 4).rotate 4294966696)
        ((pulse 0 100 1100).map (rotateOp 4294966696)) ≠
      (run step (new : Clocked 4) (pulse 0 100 1100)).rotate 4294966696 := by
  refine ⟨by decide +kernel, by decide +kernel, fun h => ?_⟩
  exact absurd (congrArg log h) (by decide +kernel)

end Pipoco.Rotation
