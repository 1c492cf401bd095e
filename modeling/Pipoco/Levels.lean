import Pipoco.OutPins
import Pipoco.Ownership
import Pipoco.Trains

/-!
Output levels against accepted windows.

A board that only schedules batches and drains. The abstract board knows the windows that were
accepted: a pin should be high exactly while the clock is in one of its windows. The board
itself knows nothing of windows when it drives pins; it applies drained transitions one after
another. The two agree after a drain exactly when no `Low` overtakes: whenever a `Low` of an
output is drained inside a window of that output, a `High` of the output is drained after it.
That can fail, because of equal deadlines the later slot is drained first.
-/

namespace Pipoco.Levels

open Domain SchedState SchedQueue OutAdapter Ownership ScheduledQueueAdapter
open OutPins Runs Trains

/-! ### The board -/

/-- An adapter with its pins, the windows accepted so far and the time of the last drain. -/
structure Board (n : ℕ) where
  adapter : ScheduledQueueAdapter n
  pins : Pins
  accepted : List ScheduledWindow
  clock : Micros

inductive BoardOp
  | scheduleOutputBatch (batch : List OutputTransition)
  | drainDue (now : Micros) (m : ℕ)

variable {n : ℕ} (b : Board n) (w : ScheduledWindow)

def Board.new : Board n := ⟨.new, fun _ => .low, [], 0⟩

def step : BoardOp → Board n
  | .scheduleOutputBatch batch =>
    match b.adapter.scheduleOutputBatch batch with
    | (a, .ok _) => { b with adapter := a, accepted := batchWindows batch ++ b.accepted }
    | (a, .error _) => { b with adapter := a }
  | .drainDue now m =>
    let r := b.adapter.drainDue now m
    { b with adapter := r.1, pins := driveAll b.pins r.2, clock := now }

/-- The window contains a time: its start is included, its end is not. -/
def InWindow (o : ExclusiveChannel) (t : Micros) : Prop :=
  w.output = o ∧ w.startAt ≤ t ∧ t < w.endAt
  deriving Decidable

/-- The pins follow the accepted windows. -/
def LevelsFollow (now : Micros) : Prop := ∀ o, b.pins o = .high ↔ ∃ w ∈ b.accepted, InWindow w o now

/-- The property of one operation: after a drain the pins follow the accepted windows. -/
def Holds : BoardOp → Prop
  | .scheduleOutputBatch _ => True
  | .drainDue now m => LevelsFollow (step b (.drainDue now m)) now

/-- Drains happen at non-decreasing times, into a buffer with room for everything due. -/
def Legal : BoardOp → Prop
  | .scheduleOutputBatch _ => True
  | .drainDue now m => b.clock ≤ now ∧ m ≤ maxMetadataCapacity ∧
      (b.adapter.queue.pending.filter fun t => isDue now t.atUs).length ≤ m

/-- The clock of a drain is near enough to every pending deadline for the wrapping comparison
to agree with the plain one. -/
def Coherent : BoardOp → Prop
  | .scheduleOutputBatch _ => True
  | .drainDue now _ => ∀ t ∈ b.adapter.queue.pending, isDue now t.atUs = true ↔ t.atUs ≤ now

/-- No `Low` overtakes: a `Low` drained while a window of its output contains the time is
followed by a `High` of the output, with a later deadline or with the same deadline and an
earlier slot. -/
def NoOvertake : BoardOp → Prop
  | .scheduleOutputBatch _ => True
  | .drainDue now _ => ∀ lo ∈ b.adapter.queue.pending, lo.level = .low → lo.atUs ≤ now →
      (∃ w ∈ b.adapter.frontier.windows, InWindow w lo.output now) →
      ∃ hi ∈ b.adapter.queue.pending, hi.level = .high ∧ hi.output = lo.output ∧
        hi.atUs ≤ now ∧
        (lo.atUs < hi.atUs ∨ lo.atUs = hi.atUs ∧ [hi, lo].Sublist b.adapter.queue.pending)

instance : ∀ (b : Board n) (op : BoardOp), Decidable (Legal b op)
  | _, .scheduleOutputBatch _ => isTrue trivial
  | _, .drainDue _ _ => inferInstanceAs (Decidable (_ ∧ _ ∧ _))

instance : ∀ (b : Board n) (op : BoardOp), Decidable (Coherent b op)
  | _, .scheduleOutputBatch _ => isTrue trivial
  | b, .drainDue now _ =>
    inferInstanceAs (Decidable (∀ t ∈ b.adapter.queue.pending, _ ↔ t.atUs ≤ now))

/-! ### Windows as pulses -/

variable (a : ScheduledQueueAdapter n)

def pulse : Pulse ExclusiveChannel ℕ := ⟨w.output, w.startAt.toNat, w.endAt.toNat⟩

/-- The reserved windows of a matched adapter are a train. -/
def train (h : Matched a) : Train ExclusiveChannel ℕ where
  pulses := a.frontier.windows.map pulse
  proper := by
    intro p hp
    obtain ⟨w, hw, rfl⟩ := List.mem_map.mp hp
    exact UInt32.lt_iff_toNat_lt.mp (h.wellFormed w hw).1
  apart := by
    rw [List.pairwise_map]
    refine h.apart.imp fun hap he => ?_
    have := hap he
    exact this

lemma pulse_injective : Function.Injective pulse := by
  rintro ⟨o, s, e⟩ ⟨o', s', e'⟩ h
  simp only [pulse, Pulse.mk.injEq, UInt32.toNat_inj] at h
  obtain ⟨rfl, rfl, rfl⟩ := h
  rfl

section windows

variable {a : ScheduledQueueAdapter n} (h : Matched a) {v w : ScheduledWindow}
include h

lemma eq_of_startKey (hv : v ∈ a.frontier.windows) (hw : w ∈ a.frontier.windows)
    (he : startKey v = startKey w) : v = w := by
  obtain ⟨ho, hs⟩ := Prod.mk.inj he
  exact pulse_injective ((train a h).eq_of_rise_eq (List.mem_map_of_mem hv)
    (List.mem_map_of_mem hw) ho (congrArg UInt32.toNat hs))

lemma eq_of_endKey (hv : v ∈ a.frontier.windows) (hw : w ∈ a.frontier.windows)
    (he : endKey v = endKey w) : v = w := by
  obtain ⟨ho, hs⟩ := Prod.mk.inj he
  exact pulse_injective ((train a h).eq_of_fall_eq (List.mem_map_of_mem hv)
    (List.mem_map_of_mem hw) ho (congrArg UInt32.toNat hs))

lemma nodup_windows : a.frontier.windows.Nodup := List.Nodup.of_map pulse (train a h).nodup

lemma nodup_startKeys : (a.frontier.windows.map startKey).Nodup :=
  List.Nodup.map_on (fun _ hv _ hw he => eq_of_startKey h hv hw he) (nodup_windows h)

lemma nodup_endKeys : (a.frontier.windows.map endKey).Nodup :=
  List.Nodup.map_on (fun _ hv _ hw he => eq_of_endKey h hv hw he) (nodup_windows h)

end windows

/-! ### The invariant -/

variable {b}

/-- The window's `High` has been drained: the pulse is under way. -/
def Opened (w : ScheduledWindow) : Prop := startKey w ∉ edges .high a.queue.pending

/-- What is true of a board whose pins have followed the accepted windows so far. A reserved
window whose `High` is no longer pending contains the time of the last drain, and its pin is
high; accepted windows that have not ended are still reserved. -/
structure Inv (b : Board n) : Prop where
  matched : Matched b.adapter
  noHorizon : b.adapter.hasLiveFrontier = false
  highs : ∀ k ∈ edges .high b.adapter.queue.pending, k ∈ b.adapter.frontier.windows.map startKey
  nodup : (edges .high b.adapter.queue.pending).Nodup
  opened : ∀ w ∈ b.adapter.frontier.windows, Opened b.adapter w →
    w.startAt ≤ b.clock ∧ b.clock < w.endAt
  pins : ∀ o, b.pins o = .high ↔ ∃ w ∈ b.adapter.frontier.windows, w.output = o ∧ Opened b.adapter w
  owned : ∀ w ∈ b.adapter.frontier.windows, w ∈ b.accepted
  kept : ∀ w ∈ b.accepted, b.clock < w.endAt → w ∈ b.adapter.frontier.windows

lemma inv_new : Inv (Board.new : Board n) where
  matched := matched_new
  noHorizon := rfl
  highs := by simp [Board.new, new, edges]
  nodup := by simp [Board.new, new, edges]
  opened := by simp [Board.new, new]
  pins := by simp [Board.new, new]
  owned := by simp [Board.new, new]
  kept := by simp [Board.new]

lemma mem_edges {l : ScheduledLevel} {ts : List ScheduledTransition}
    {k : ExclusiveChannel × Micros} :
    k ∈ edges l ts ↔ ∃ t ∈ ts, t.level = l ∧ edgeKey t = k := by
  simp [edges, and_assoc]

section Added
variable {a a' : ScheduledQueueAdapter n} {added : List ScheduledWindow}

/-- Windows that arrive with their `High`s pending are not open: those open afterwards are the
ones open before. -/
lemma opened_iff_of_added (hm : Matched a')
    (hwindows : a'.frontier.windows.Perm (added ++ a.frontier.windows))
    (hedges : (edges .high a'.queue.pending).Perm
      (added.map startKey ++ edges .high a.queue.pending))
    {w : ScheduledWindow} (hw : w ∈ a'.frontier.windows) :
    Opened a' w ↔ w ∈ a.frontier.windows ∧ Opened a w := by
  rw [Opened, hedges.mem_iff, List.mem_append, not_or]
  constructor
  · rintro ⟨hnew, hold⟩
    refine ⟨?_, hold⟩
    rcases List.mem_append.mp (hwindows.mem_iff.mp hw) with hw | hw
    · exact absurd (List.mem_map_of_mem hw) hnew
    · exact hw
  · rintro ⟨hold, ho⟩
    refine ⟨fun hnew => ?_, ho⟩
    have hnd := (hwindows.map startKey).nodup_iff.mp (nodup_startKeys hm)
    rw [List.map_append] at hnd
    exact (List.nodup_append.mp hnd).2.2 _ hnew _ (List.mem_map_of_mem hold) rfl

lemma inv_added (h : Inv b) (hm : Matched a')
    (hlive : a'.hasLiveFrontier = b.adapter.hasLiveFrontier)
    (hwindows : a'.frontier.windows.Perm (added ++ b.adapter.frontier.windows))
    (hedges : (edges .high a'.queue.pending).Perm
      (added.map startKey ++ edges .high b.adapter.queue.pending)) :
    Inv { b with adapter := a', accepted := added ++ b.accepted } := by
  have hstarts : (a'.frontier.windows.map startKey).Perm
      (added.map startKey ++ b.adapter.frontier.windows.map startKey) := by
    rw [← List.map_append]; exact hwindows.map _
  have hnd := List.nodup_append.mp (hstarts.nodup_iff.mp (nodup_startKeys hm))
  have hopen := fun w hw => opened_iff_of_added (w := w) hm hwindows hedges hw
  have hmem : ∀ w ∈ b.adapter.frontier.windows, w ∈ a'.frontier.windows := fun w hw =>
    hwindows.mem_iff.mpr (List.mem_append_right _ hw)
  refine ⟨hm, hlive.trans h.noHorizon, ?_, ?_, ?_, ?_, ?_, ?_⟩
  · intro k hk
    rcases List.mem_append.mp (hedges.mem_iff.mp hk) with hk | hk
    · exact hstarts.mem_iff.mpr (List.mem_append_left _ hk)
    · exact hstarts.mem_iff.mpr (List.mem_append_right _ (h.highs k hk))
  · rw [hedges.nodup_iff, List.nodup_append]
    exact ⟨hnd.1, h.nodup, fun k hk k' hk' he => hnd.2.2 k hk k' (h.highs k' hk') he⟩
  · intro w hw ho
    obtain ⟨hw', ho'⟩ := (hopen w hw).mp ho
    exact h.opened w hw' ho'
  · intro o
    rw [h.pins o]
    constructor
    · rintro ⟨w, hw, hwo, ho⟩
      exact ⟨w, hmem w hw, hwo, (hopen w (hmem w hw)).mpr ⟨hw, ho⟩⟩
    · rintro ⟨w, hw, hwo, ho⟩
      obtain ⟨hw', ho'⟩ := (hopen w hw).mp ho
      exact ⟨w, hw', hwo, ho'⟩
  · intro w hw
    rcases List.mem_append.mp (hwindows.mem_iff.mp hw) with hw | hw
    · exact List.mem_append_left _ hw
    · exact List.mem_append_right _ (h.owned w hw)
  · intro w hw hc
    rcases List.mem_append.mp hw with hw | hw
    · exact hwindows.mem_iff.mpr (List.mem_append_left _ hw)
    · exact hmem w (h.kept w hw hc)

end Added

/-- An accepted batch adds windows whose `High`s are pending, and opens none. -/
lemma inv_scheduleOutputBatch (h : Inv b) (batch : List OutputTransition) :
    Inv (step b (.scheduleOutputBatch batch)) := by
  have hm := h.matched.scheduleOutputBatch batch
  rcases b.adapter.scheduleOutputBatch_cases batch with
    ⟨queue, frontier, heq, hb, hres, hq⟩ | ⟨e, heq⟩
  · rw [heq] at hm
    have hedges : (edges .high queue.pending).Perm
        ((batchWindows batch).map startKey ++ edges .high b.adapter.queue.pending) := by
      refine (edges_perm_of_perm hq).trans ?_
      rw [edges_append]
      exact (batchWindows_starts hb).symm.append_right _
    have hid := congrArg SchedulerState.HorizonView.activeHorizonId (horizon_reserveAll hres)
    have hstep : step b (.scheduleOutputBatch batch) = { b with
        adapter := ⟨queue, frontier⟩, accepted := batchWindows batch ++ b.accepted } := by
      rw [step, heq]
    rw [hstep]
    exact inv_added h hm (congrArg Option.isSome hid) (reserveAll_ok hres).1 hedges
  · have hstep : step b (.scheduleOutputBatch batch) = b := by
      rw [step, heq, rejected, if_neg (by simp [h.noHorizon])]
    rw [hstep]
    exact h

lemma nodup_pending (h : Inv b) : b.adapter.queue.pending.Nodup := by
  have hlow : (b.adapter.queue.pending.filter fun t => t.level = .low).Nodup :=
    List.Nodup.of_map edgeKey (h.matched.ends.nodup_iff.mp (nodup_endKeys h.matched))
  have hhigh : (b.adapter.queue.pending.filter fun t => t.level = .high).Nodup :=
    List.Nodup.of_map edgeKey h.nodup
  have hsplit := List.filter_append_perm (fun t : ScheduledTransition => decide (t.level = .low))
    b.adapter.queue.pending
  have hneg : (fun t : ScheduledTransition => !decide (t.level = .low)) =
      fun t => decide (t.level = .high) := by
    funext t; cases t.level <;> rfl
  rw [hneg] at hsplit
  refine hsplit.nodup_iff.mp (List.nodup_append.mpr ⟨hlow, hhigh, fun t ht u hu he => ?_⟩)
  have h₁ := (List.mem_filter.mp ht).2
  have h₂ := (List.mem_filter.mp hu).2
  rw [← he, of_decide_eq_true h₁] at h₂
  cases h₂

/-! ### One drain -/

variable (pins : Pins) (out : List ScheduledTransition)

lemma age_of_le {now d : Micros} (h : d ≤ now) : age now d = now.toNat - d.toNat := by
  have hle := UInt32.le_iff_toNat_le.mp h
  have := now.toNat_lt
  rw [age_eq]
  omega

/-- The last transition of an output decides its pin. -/
lemma driveAll_eq (o : ExclusiveChannel) :
    driveAll pins out o =
      (((out.filter fun t => t.output = o).getLast?).map (·.level)).getD (pins o) := by
  induction out using List.reverseRecOn with
  | nil => rfl
  | append_singleton out t ih =>
    rw [driveAll, List.foldl_append, List.foldl_cons, List.foldl_nil, List.filter_append]
    by_cases ho : t.output = o
    · subst ho
      simp [drive]
    · have hne : o ≠ t.output := fun he => ho he.symm
      have hf : ([t].filter fun t => decide (t.output = o)) = [] := by simp [ho]
      rw [hf, List.append_nil, drive, Function.update_of_ne hne]
      exact ih

/-- The two cases of a drain for one output: nothing of it is drained, or some transition of it
is drained last. -/
lemma driveAll_cases (o : ExclusiveChannel) :
    ((∀ t ∈ out, t.output ≠ o) ∧ driveAll pins out o = pins o) ∨
    ∃ t ∈ out, t.output = o ∧ driveAll pins out o = t.level ∧
      ∀ (R : ScheduledTransition → ScheduledTransition → Prop), out.Pairwise R →
        ∀ u ∈ out, u.output = o → u = t ∨ R u t := by
  rw [driveAll_eq]
  rcases List.eq_nil_or_concat (out.filter fun t => t.output = o) with hnil | ⟨ys, t, hcat⟩
  · left
    refine ⟨fun t ht ho => ?_, by rw [hnil]; rfl⟩
    exact List.filter_eq_nil_iff.mp hnil t ht (by simpa using ho)
  · right
    rw [List.concat_eq_append] at hcat
    have hmem : ∀ u, u ∈ ys ++ [t] ↔ u ∈ out ∧ u.output = o := by
      intro u; rw [← hcat, List.mem_filter]; simp
    obtain ⟨ht, hto⟩ := (hmem t).mp (by simp)
    refine ⟨t, ht, hto, by rw [hcat]; simp, fun R hR u hu huo => ?_⟩
    have hp : (ys ++ [t]).Pairwise R := by rw [← hcat]; exact hR.filter _
    rcases List.mem_append.mp ((hmem u).mpr ⟨hu, huo⟩) with hu' | hu'
    · exact .inr ((List.pairwise_append.mp hp).2.2 u hu' t (by simp))
    · exact .inl (List.mem_singleton.mp hu')

section drain

variable {b : Board n} (h : Inv b) {now : Micros} {m : ℕ} (hl : Legal b (.drainDue now m))
  (hc : Coherent b (.drainDue now m))

include hl hc in
lemma mem_out_iff (t : ScheduledTransition) : t ∈ (b.adapter.drainDue now m).2 ↔
    t ∈ b.adapter.queue.pending ∧ t.atUs ≤ now := by
  have hd := b.adapter.queue.drainDue_spec now m
  have hrest := b.adapter.queue.drainDue_complete now hl.2.1 hl.2.2
  constructor
  · intro ht
    have hp := hd.perm.mem_iff.mp (List.mem_append_left _ ht)
    exact ⟨hp, (hc t hp).mp (hd.due t ht)⟩
  · rintro ⟨hp, hle⟩
    rcases List.mem_append.mp (hd.perm.mem_iff.mpr hp) with ht | ht
    · exact ht
    · have := hrest t ht
      rw [(hc t hp).mpr hle] at this
      cases this

include hl hc in
lemma mem_rest_iff (t : ScheduledTransition) :
    t ∈ (b.adapter.drainDue now m).1.queue.pending ↔
      t ∈ b.adapter.queue.pending ∧ now < t.atUs := by
  have hd := b.adapter.queue.drainDue_spec now m
  have hrest := b.adapter.queue.drainDue_complete now hl.2.1 hl.2.2
  constructor
  · intro ht
    have hp := hd.perm.mem_iff.mp (List.mem_append_right _ ht)
    refine ⟨hp, UInt32.not_le.mp fun hle => ?_⟩
    have := hrest t ht
    rw [(hc t hp).mpr hle] at this
    cases this
  · rintro ⟨hp, hlt⟩
    rcases List.mem_append.mp (hd.perm.mem_iff.mpr hp) with ht | ht
    · exact absurd ((hc t hp).mp (hd.due t ht)) (UInt32.not_le.mpr hlt)
    · exact ht

include hl hc in
lemma mem_edges_rest_iff {l : ScheduledLevel} {k : ExclusiveChannel × Micros} :
    k ∈ edges l (b.adapter.drainDue now m).1.queue.pending ↔
      k ∈ edges l b.adapter.queue.pending ∧ now < k.2 := by
  simp only [mem_edges, mem_rest_iff hl hc]
  constructor
  · rintro ⟨t, ⟨ht, hlt⟩, hlev, rfl⟩
    exact ⟨⟨t, ht, hlev, rfl⟩, hlt⟩
  · rintro ⟨⟨t, ht, hlev, rfl⟩, hlt⟩
    exact ⟨t, ⟨ht, hlt⟩, hlev, rfl⟩

omit hc in
include h hl in
lemma inWindow_accepted_iff (o : ExclusiveChannel) :
    (∃ w ∈ b.accepted, InWindow w o now) ↔ ∃ w ∈ b.adapter.frontier.windows, InWindow w o now := by
  constructor
  · rintro ⟨w, hw, hin⟩
    exact ⟨w, h.kept w hw (UInt32.lt_of_le_of_lt hl.1 hin.2.2), hin⟩
  · rintro ⟨w, hw, hin⟩
    exact ⟨w, h.owned w hw, hin⟩

include h hl hc

lemma mem_windows_drained_iff (w : ScheduledWindow) :
    w ∈ (b.adapter.drainDue now m).1.frontier.windows ↔
      w ∈ b.adapter.frontier.windows ∧ now < w.endAt := by
  have hm := h.matched.drainDue now m
  have hsub := windows_noteDrainedOwnership_sublist b.adapter.frontier
    (b.adapter.queue.drainDue now m).2
  constructor
  · intro hw
    have hk := hm.ends.mem_iff.mp (List.mem_map_of_mem hw)
    exact ⟨hsub.subset hw, ((mem_edges_rest_iff hl hc).mp hk).2⟩
  · rintro ⟨hw, hlt⟩
    have hk := h.matched.ends.mem_iff.mp (List.mem_map_of_mem hw)
    have hk' := (mem_edges_rest_iff hl hc).mpr ⟨hk, hlt⟩
    obtain ⟨w', hw', he⟩ := List.mem_map.mp (hm.ends.mem_iff.mpr hk')
    rwa [← eq_of_endKey h.matched (hsub.subset hw') hw he]

lemma opened_drained_iff {w : ScheduledWindow} (hw : w ∈ b.adapter.frontier.windows) :
    Opened (b.adapter.drainDue now m).1 w ↔ w.startAt ≤ now := by
  rw [Opened, mem_edges_rest_iff hl hc, not_and, startKey]
  constructor
  · intro hk
    by_cases ho : Opened b.adapter w
    · exact UInt32.le_trans (h.opened w hw ho).1 hl.1
    · exact UInt32.not_lt.mp (hk (not_not.mp ho))
  · exact fun hle _ => UInt32.not_lt.mpr hle

/-- A pin that is high after the drain is in a window: a `High` drained last has its `Low`
still to come. -/
lemma inWindow_of_high (o : ExclusiveChannel)
    (hp : driveAll b.pins (b.adapter.drainDue now m).2 o = .high) :
    ∃ w ∈ b.adapter.frontier.windows, InWindow w o now := by
  have hd := b.adapter.queue.drainDue_spec now m
  rcases driveAll_cases b.pins (b.adapter.drainDue now m).2 o with
    ⟨hnone, heq⟩ | ⟨t, ht, hto, heq, hlast⟩
  · -- nothing drained: the window was opened before, and its `Low` is not due
    rw [heq] at hp
    obtain ⟨w, hw, hwo, ho⟩ := (h.pins o).mp hp
    have hstart := UInt32.le_trans (h.opened w hw ho).1 hl.1
    refine ⟨w, hw, hwo, hstart, UInt32.not_le.mp fun hend => ?_⟩
    obtain ⟨lo, hlo, -, hk⟩ := mem_edges.mp
      (h.matched.ends.mem_iff.mp (List.mem_map_of_mem hw))
    obtain ⟨hko, hka⟩ := Prod.mk.inj hk
    exact hnone lo ((mem_out_iff hl hc lo).mpr ⟨hlo, hka ▸ hend⟩) (hko.trans hwo)
  · rw [heq] at hp
    obtain ⟨htp, htn⟩ := (mem_out_iff hl hc t).mp ht
    obtain ⟨w, hw, hk⟩ := List.mem_map.mp
      (h.highs (edgeKey t) (mem_edges.mpr ⟨t, htp, hp, rfl⟩))
    obtain ⟨hko, hka⟩ := Prod.mk.inj hk
    refine ⟨w, hw, hko.trans hto, hka ▸ htn, UInt32.not_le.mp fun hend => ?_⟩
    -- the window's `Low` would be due, later than the last transition
    obtain ⟨lo, hlo, hll, hlk⟩ := mem_edges.mp
      (h.matched.ends.mem_iff.mp (List.mem_map_of_mem hw))
    obtain ⟨hlko, hlka⟩ := Prod.mk.inj hlk
    have hlon : lo.atUs ≤ now := hlka ▸ hend
    have hlt : t.atUs < lo.atUs := by
      rw [hlka, ← hka]; exact (h.matched.wellFormed w hw).1
    have hage : age now lo.atUs < age now t.atUs := by
      rw [age_of_le hlon, age_of_le htn]
      have := UInt32.lt_iff_toNat_lt.mp hlt
      have := UInt32.le_iff_toNat_le.mp hlon
      omega
    rcases hlast _ hd.sorted lo ((mem_out_iff hl hc lo).mpr ⟨hlo, hlon⟩)
      (hlko.trans (hko.trans hto)) with rfl | hprec
    · rw [hp] at hll; cases hll
    · rcases hprec with hp' | ⟨hp', -⟩ <;> omega

/-- If no `Low` overtakes, an output in a window is high after the drain. -/
lemma high_of_noOvertake (hov : NoOvertake b (.drainDue now m)) (o : ExclusiveChannel)
    (hin : ∃ w ∈ b.adapter.frontier.windows, InWindow w o now) :
    driveAll b.pins (b.adapter.drainDue now m).2 o = .high := by
  have hd := b.adapter.queue.drainDue_spec now m
  rcases driveAll_cases b.pins (b.adapter.drainDue now m).2 o with
    ⟨hnone, heq⟩ | ⟨t, ht, hto, heq, hlast⟩
  · -- nothing drained: the window's `High` was drained earlier
    obtain ⟨w, hw, hwo, hstart, -⟩ := hin
    rw [heq, h.pins o]
    refine ⟨w, hw, hwo, fun hk => ?_⟩
    obtain ⟨hi, hhi, -, he⟩ := mem_edges.mp hk
    obtain ⟨hko, hka⟩ := Prod.mk.inj he
    exact hnone hi ((mem_out_iff hl hc hi).mpr ⟨hhi, hka ▸ hstart⟩) (hko.trans hwo)
  · rw [heq]
    rcases hlev : t.level with _ | _
    · -- a `Low` drained last would have been overtaken
      exfalso
      obtain ⟨htp, htn⟩ := (mem_out_iff hl hc t).mp ht
      obtain ⟨hi, hhi, hhl, hho, hhn, hlate⟩ := hov t htp hlev htn (by rw [hto]; exact hin)
      have hage := age_of_le htn
      have hage' := age_of_le hhn
      have hhn' := UInt32.le_iff_toNat_le.mp hhn
      rcases hlast _ hd.sorted hi ((mem_out_iff hl hc hi).mpr ⟨hhi, hhn⟩) (hho.trans hto) with
        rfl | hprec
      · rw [hlev] at hhl; cases hhl
      · rcases hlate with hlt | ⟨heq', hsub⟩
        · have := UInt32.lt_iff_toNat_lt.mp hlt
          rcases hprec with hp | ⟨hp, -⟩ <;> omega
        · rcases hprec with hp | ⟨-, hsub'⟩
          · rw [heq'] at hp; omega
          · exact Slots.not_sublist_swap (nodup_pending h) hsub hsub'
    · rfl

omit h in
/-- Conversely, if the outputs in a window are high after the drain, no `Low` overtakes. -/
lemma noOvertake_of_high
    (hh : ∀ o, (∃ w ∈ b.adapter.frontier.windows, InWindow w o now) →
      driveAll b.pins (b.adapter.drainDue now m).2 o = .high) :
    NoOvertake b (.drainDue now m) := by
  intro lo hlo hll hln hin
  have hd := b.adapter.queue.drainDue_spec now m
  have hout := (mem_out_iff hl hc lo).mpr ⟨hlo, hln⟩
  rcases driveAll_cases b.pins (b.adapter.drainDue now m).2 lo.output with
    ⟨hnone, -⟩ | ⟨t, ht, hto, heq, hlast⟩
  · exact absurd rfl (hnone lo hout)
  · have hlev : t.level = .high := heq.symm.trans (hh lo.output hin)
    obtain ⟨htp, htn⟩ := (mem_out_iff hl hc t).mp ht
    refine ⟨t, htp, hlev, hto, htn, ?_⟩
    rcases hlast _ hd.sorted lo hout rfl with rfl | hprec
    · rw [hlev] at hll; cases hll
    · rcases hprec with hp | ⟨hp, hsub⟩
      · left
        rw [age_of_le htn, age_of_le hln] at hp
        exact UInt32.lt_iff_toNat_lt.mpr (by omega)
      · exact .inr ⟨(age_inj hp).symm, hsub⟩

/-- **One drain.** The pins follow the accepted windows after it exactly when no `Low`
overtakes. -/
theorem holds_iff_noOvertake : Holds b (.drainDue now m) ↔ NoOvertake b (.drainDue now m) := by
  have hpins : ∀ o, (step b (.drainDue now m)).pins o =
      driveAll b.pins (b.adapter.drainDue now m).2 o := fun _ => rfl
  constructor
  · intro hh
    refine noOvertake_of_high hl hc fun o hin => ?_
    rw [← hpins]
    exact (hh o).mpr ((inWindow_accepted_iff h hl o).mpr hin)
  · intro hov o
    rw [hpins, show (step b (.drainDue now m)).accepted = b.accepted from rfl,
      inWindow_accepted_iff h hl]
    exact ⟨inWindow_of_high h hl hc o, high_of_noOvertake h hl hc hov o⟩

/-- A drain after which the pins follow the windows keeps the invariant. -/
lemma inv_drainDue (hh : Holds b (.drainDue now m)) : Inv (step b (.drainDue now m)) := by
  have hwin := mem_windows_drained_iff h hl hc
  have hopen : ∀ {w}, w ∈ b.adapter.frontier.windows →
      (Opened (b.adapter.drainDue now m).1 w ↔ w.startAt ≤ now) := opened_drained_iff h hl hc
  have hsub : (edges .high (b.adapter.drainDue now m).1.queue.pending).Sublist
      (edges .high b.adapter.queue.pending) :=
    ((b.adapter.queue.drainDue_spec now m).sub.filter _).map _
  refine ⟨h.matched.drainDue now m, ?_, ?_, h.nodup.sublist hsub, ?_, ?_, ?_, ?_⟩
  · have := horizon_noteDrainedOwnership b.adapter.frontier
      (b.adapter.queue.drainDue now m).2
    have hid := congrArg SchedulerState.HorizonView.activeHorizonId this
    exact (congrArg Option.isSome hid).trans h.noHorizon
  · intro k hk
    obtain ⟨hk', hlt⟩ := (mem_edges_rest_iff hl hc).mp hk
    obtain ⟨w, hw, rfl⟩ := List.mem_map.mp (h.highs k hk')
    refine List.mem_map_of_mem ((hwin w).mpr ⟨hw, ?_⟩)
    exact UInt32.lt_trans hlt (h.matched.wellFormed w hw).1
  · intro w hw ho
    obtain ⟨hw', hlt⟩ := (hwin w).mp hw
    exact ⟨(hopen hw').mp ho, hlt⟩
  · intro o
    rw [hh o]
    constructor
    · rintro ⟨w, hw, hwo, hstart, hend⟩
      have hw' := h.kept w hw (UInt32.lt_of_le_of_lt hl.1 hend)
      exact ⟨w, (hwin w).mpr ⟨hw', hend⟩, hwo, (hopen hw').mpr hstart⟩
    · rintro ⟨w, hw, hwo, ho⟩
      obtain ⟨hw', hlt⟩ := (hwin w).mp hw
      exact ⟨w, h.owned w hw', hwo, (hopen hw').mp ho, hlt⟩
  · intro w hw
    exact h.owned w ((hwin w).mp hw).1
  · intro w hw hlt
    exact (hwin w).mpr ⟨h.kept w hw (UInt32.lt_of_le_of_lt hl.1 hlt), hlt⟩

end drain

/-! ### Whole runs -/

variable {op : BoardOp}

lemma holds_iff (h : Inv b) (hl : Legal b op) (hc : Coherent b op) :
    Holds b op ↔ NoOvertake b op := by
  cases op with
  | scheduleOutputBatch batch => exact Iff.rfl
  | drainDue now m => exact holds_iff_noOvertake h hl hc

lemma inv_step (h : Inv b) (hl : Legal b op) (hc : Coherent b op) (hh : Holds b op) :
    Inv (step b op) := by
  cases op with
  | scheduleOutputBatch batch => exact inv_scheduleOutputBatch h batch
  | drainDue now m => exact inv_drainDue h hl hc hh

/-- **When output levels follow the accepted windows.** In every run of batches and drains from
a fresh board, with drains at non-decreasing times, room for everything due and a clock near
the pending deadlines: the pins follow the accepted windows after every drain exactly when at
every drain no `Low` overtakes. -/
theorem levels_follow_iff (n : ℕ) (ops : List BoardOp)
    (hl : Along step Legal (Board.new : Board n) ops)
    (hc : Along step Coherent (Board.new : Board n) ops) :
    Along step Holds (Board.new : Board n) ops ↔
      Along step NoOvertake (Board.new : Board n) ops := by
  refine along_iff_of_inv (I := Inv) ?_ ?_ inv_new (along_and.mpr ⟨hl, hc⟩)
  · exact fun b op h hlc => holds_iff h hlc.1 hlc.2
  · exact fun b op h hlc hh => inv_step h hlc.1 hlc.2 hh

/-- Two pulses of one output that touch, scheduled in one batch and drained inside the second. -/
def touchingRun : List BoardOp :=
  [.scheduleOutputBatch [⟨.injector 1, .high, 10⟩, ⟨.injector 1, .low, 20⟩,
      ⟨.injector 1, .high, 20⟩, ⟨.injector 1, .low, 30⟩],
    .drainDue 25 4]

/-- One pulse, drained inside it and after it. -/
def singleRun : List BoardOp :=
  [.scheduleOutputBatch [⟨.injector 1, .high, 10⟩, ⟨.injector 1, .low, 20⟩],
    .drainDue 15 4, .drainDue 20 4]

theorem levels_follow_iff_single :
    Along step Legal (Board.new : Board 4) singleRun ∧
      Along step Coherent (Board.new : Board 4) singleRun ∧
      (Along step Holds (Board.new : Board 4) singleRun ↔
        Along step NoOvertake (Board.new : Board 4) singleRun) :=
  ⟨by decide +kernel, by decide +kernel,
    levels_follow_iff 4 singleRun (by decide +kernel) (by decide +kernel)⟩

/-- The second pulse is lost: both are accepted, the drain at 25 has room and a near clock, and
25 lies in the window from 20 to 30, but the pin is low. -/
theorem touching_pulse_lost :
    Along step Legal (Board.new : Board 4) touchingRun ∧
      Along step Coherent (Board.new : Board 4) touchingRun ∧
      (run step (Board.new : Board 4) touchingRun).accepted =
        [⟨⟨.injector, 1⟩, 10, 20⟩, ⟨⟨.injector, 1⟩, 20, 30⟩] ∧
      (run step (Board.new : Board 4) touchingRun).pins ⟨.injector, 1⟩ = .low ∧
      ¬ LevelsFollow (run step (Board.new : Board 4) touchingRun) 25 := by
  refine ⟨by decide +kernel, by decide +kernel, by decide +kernel, by decide +kernel, fun h => ?_⟩
  have hhigh := (h ⟨.injector, 1⟩).mpr ⟨⟨⟨.injector, 1⟩, 20, 30⟩, by decide +kernel, by decide⟩
  exact absurd hhigh (by decide +kernel)

end Pipoco.Levels
