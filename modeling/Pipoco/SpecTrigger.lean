import Pipoco.Evidence
import Pipoco.SpecFuel

/-!
The 60-2 decoder of the specification.

The tooth that confirms the gap is given the index of the gap's own tooth. In the revolution in which
sync is gained every tooth is therefore numbered one too low, until the next gap. So is every tooth
behind a wrap of the clock.
-/

namespace Pipoco.SpecTrigger

open Domain Evidence Spec

inductive TriggerSyncState
  | noSync | preSync | synced | syncLoss
  deriving DecidableEq

structure TriggerState where
  (triggerState syncState : TriggerSyncState)
  (lastToothTimestampUs prevToothIntervalUs : UInt32)
  gapFaultWindows : UInt8
  stallCounter : UInt16
  toothIndex : UInt8
  (angleDeg10 rpmEstimate : UInt16)

def TriggerState.default : TriggerState := ⟨.noSync, .noSync, 0, 0, 0, 0, 0, 0, 0⟩

structure TriggerStepResult where
  state : TriggerState
  syncState : TriggerSyncState
  (angleDeg10 rpmEstimate : UInt16)
  engineMode : EngineMode
  cancelPendingEvents : Bool

structure SyncTransitionInput where
  syncState : TriggerSyncState
  toothIndex : UInt8
  angleDeg10 : UInt16
  (missingToothCandidate gapOutsideTolerance : Bool)
  priorGapFaultWindows : UInt8
  (prevDtUs dtUs : UInt32)
  stall : Bool

def gapOutsideTolerance (prevDtUs dtUs : UInt32) (missingToothCandidate : Bool) : Bool :=
  if prevDtUs = 0 ∨ dtUs = 0 ∨ missingToothCandidate then false
  else dtUs.toNat * 4 < prevDtUs.toNat * 3 ∨ dtUs.toNat * 4 > prevDtUs.toNat * 5

def rpmEstimateFromDt (dtUs : UInt32) (prior : UInt16) : UInt16 :=
  if dtUs = 0 then prior else .ofNat (min (60000000 / (dtUs.toNat * 58)) 20000)

def stepSyncAndAngle (i : SyncTransitionInput) : TriggerSyncState × UInt8 × UInt16 × UInt8 :=
  if i.dtUs = 0 then (i.syncState, i.toothIndex, i.angleDeg10, i.priorGapFaultWindows)
  else if i.stall then (.syncLoss, 0, 0, 0)
  else
    match i.syncState with
    | .noSync | .syncLoss => (if i.missingToothCandidate then .preSync else .noSync, 0, 0, 0)
    | .preSync =>
      if i.missingToothCandidate then (.preSync, 0, 0, 0)
      else if i.prevDtUs > 0 ∧ i.dtUs ≥ i.prevDtUs then (.noSync, 0, 0, 0)
      else (.synced, 0, 0, 0)
    | .synced =>
      let gapFaultWindows := if i.gapOutsideTolerance then satAdd8 i.priorGapFaultWindows 1 else 0
      if gapFaultWindows ≥ 2 then (.syncLoss, 0, 0, 0)
      else if i.missingToothCandidate then (.synced, 0, 0, 0)
      else
        let nextIndex := (i.toothIndex.toUInt16 + 1) % 58
        (.synced, nextIndex.toUInt8, nextIndex * 120 % 7200, gapFaultWindows)

variable (s : TriggerState) (toothTimestampUs : UInt32)

def dtOf : UInt32 := .ofNat (toothTimestampUs.toNat - s.lastToothTimestampUs.toNat)

def isCandidate (dt : UInt32) : Bool :=
  s.prevToothIntervalUs ≠ 0 ∧ dt.toNat ≥ s.prevToothIntervalUs.toNat * 3 / 2

def trigger602Step : TriggerStepResult :=
  let dt := dtOf s toothTimestampUs
  let candidate := isCandidate s dt
  let rpm := rpmEstimateFromDt dt s.rpmEstimate
  let stall := dt ≥ 400000
  let (sync, index, angle, windows) := stepSyncAndAngle
    ⟨s.syncState, s.toothIndex, s.angleDeg10, candidate,
      gapOutsideTolerance s.prevToothIntervalUs dt candidate, s.gapFaultWindows,
      s.prevToothIntervalUs, dt, stall⟩
  let rpm := if sync = .syncLoss then 0 else rpm
  { state := ⟨sync, sync, toothTimestampUs, dt, windows,
      if stall then satAdd16 s.stallCounter 1 else 0, index, angle, rpm⟩
    syncState := sync
    angleDeg10 := angle
    rpmEstimate := rpm
    engineMode := if stall ∨ rpm = 0 then .off else .running
    cancelPendingEvents := s.syncState ≠ .syncLoss ∧ sync = .syncLoss }

/-! ### Streams of edges -/

/-- The spaces between a tooth and the one before it: tooth 0 comes after the gap. -/
def spaces (tooth : ℕ) : ℕ := if tooth % 58 = 0 then 3 else 1

/-- The times of the first edges of a wheel that starts with some tooth and turns at a constant
speed, of between `T` and `T + 1` microseconds a space. -/
structure Steady (T first n : ℕ) (time : ℕ → ℕ) : Prop where
  lower : ∀ k < n, time k + spaces (first + k + 1) * T ≤ time (k + 1)
  upper : ∀ k < n, time (k + 1) ≤ time k + spaces (first + k + 1) * (T + 1)
  fast : 4 ≤ T
  slow : 3 * (T + 1) < 400000

structure Ideal (T first n : ℕ) (time : ℕ → ℕ) : Prop extends Steady T first n time where
  /-- The clock does not wrap. -/
  clock : ∀ k ≤ n, time k < 2 ^ 32
  /-- The time of the first edge is not taken for a short space. -/
  late : time 0 = 0 ∨ T + 1 < time 0 * 3 / 2

/-- The decoder after an edge. -/
def decoded (time : ℕ → ℕ) : ℕ → TriggerState
  | 0 => (trigger602Step .default (stamp (time 0))).state
  | k + 1 => (trigger602Step (decoded time k) (stamp (time (k + 1)))).state

/-- The space that is measured at the next edge. -/
abbrev measured (time : ℕ → ℕ) (k : ℕ) : UInt32 := dtOf (decoded time k) (stamp (time (k + 1)))

lemma index_next (i : UInt8) :
    ((i.toUInt16 + 1) % 58).toUInt8.toNat = (i.toNat + 1) % 58 ∧
      ((i.toUInt16 + 1) % 58 * 120 % 7200).toNat = 120 * ((i.toNat + 1) % 58) := by
  have hi := i.toNat_lt
  simp only [UInt16.toNat_toUInt8, UInt16.toNat_mod, UInt16.toNat_mul, UInt16.toNat_add,
    UInt8.toNat_toUInt16, UInt16.toNat_ofNat, Nat.reduceMod, Nat.reducePow]
  rw [Nat.mod_eq_of_lt (by omega : i.toNat + 1 < 65536)]
  rw [Nat.mod_eq_of_lt (by omega : (i.toNat + 1) % 58 * 120 < 65536)]
  omega

/-- The number of a tooth behind a wrap at edge `w`: one too low up to the next gap. A gap before the
first edge behind the wrap is not measured, one before the second has nothing to be compared with. -/
def behindWrap (first w k : ℕ) : ℕ :=
  if (first + k) / 58 ≤ (first + w + 2) / 58 then (first + k - 1) % 58 else (first + k) % 58

/-! ### One edge -/

/-- The length of the space before a tooth. -/
def InSpace (T tooth : ℕ) (dt : UInt32) : Prop :=
  4 ≤ T ∧ 3 * (T + 1) < 400000 ∧ spaces tooth * T ≤ dt.toNat ∧ dt.toNat ≤ spaces tooth * (T + 1)

/-- Synced, with a number for tooth `m`. A fault is counted only at the tooth behind the gap. -/
@[mk_iff]
structure Counts (m i : ℕ) (s : TriggerState) : Prop where
  synced : s.syncState = .synced
  index : s.toothIndex.toNat = i
  angle : s.angleDeg10.toNat = 120 * i
  fault : s.gapFaultWindows = 0 ∨ m % 58 = 1

section edge

variable {s : TriggerState} {T m i : ℕ} {t dt : UInt32}

lemma InSpace.ne (hdt : InSpace T m dt) : dt ≠ 0 ∧ ¬ dt ≥ 400000 := by
  rw [ge_iff_le, UInt32.le_iff_toNat_le, ne_eq, ← UInt32.toNat_inj]
  change ¬ _ = 0 ∧ ¬ 400000 ≤ _
  unfold InSpace spaces at hdt
  split_ifs at hdt <;> omega

/-- Without a space before it an edge is neither the gap nor a fault. -/
lemma counts_of_unmeasured (hs : s.syncState = .synced) (hprev : s.prevToothIntervalUs = 0)
    (hdt : InSpace T m (dtOf s t)) (hi : i = (s.toothIndex.toNat + 1) % 58) :
    Counts m i (trigger602Step s t).state := by
  subst hi
  obtain ⟨h0, h1⟩ := hdt.ne
  have hindex := index_next s.toothIndex
  constructor <;> simp [trigger602Step, stepSyncAndAngle, isCandidate, gapOutsideTolerance, hprev,
    h0, h1, hs, hindex]

variable (hprev : InSpace T m s.prevToothIntervalUs) (hdt : InSpace T (m + 1) dt)
include hprev hdt

/-- With a space measured before, the decoder tells the gap from the other spaces. -/
lemma isCandidate_iff : isCandidate s dt = true ↔ (m + 1) % 58 = 0 := by
  rw [isCandidate, decide_eq_true_eq, ne_eq, ← UInt32.toNat_inj, UInt32.toNat_zero]
  unfold InSpace spaces at hprev hdt
  split_ifs at hprev hdt <;> omega

/-- Only the space behind the gap is out of tolerance. -/
lemma gap_before_of_outside
    (ho : gapOutsideTolerance s.prevToothIntervalUs dt (isCandidate s dt) = true) :
    m % 58 = 0 ∧ (m + 1) % 58 ≠ 0 := by
  have hgap := isCandidate_iff hprev hdt
  unfold gapOutsideTolerance at ho
  split_ifs at ho with hskip
  rw [decide_eq_true_eq] at ho
  have hnot := mt hgap.mpr fun hc => hskip (.inr (.inr hc))
  unfold InSpace spaces at hprev hdt
  rw [if_neg hnot] at hdt
  split_ifs at hprev with hp
  · exact ⟨hp, hnot⟩
  · omega

omit hdt in
lemma Counts.next {i' : ℕ} (hc : Counts m i s) (hdt : InSpace T (m + 1) (dtOf s t))
    (hi : i' = if (m + 1) % 58 = 0 then 0 else (i + 1) % 58) :
    Counts (m + 1) i' (trigger602Step s t).state := by
  obtain ⟨hs, rfl, -, hw⟩ := hc
  subst hi
  obtain ⟨h0, h1⟩ := hdt.ne
  have hgap := isCandidate_iff hprev hdt
  have hout := gap_before_of_outside hprev hdt
  have hindex := index_next s.toothIndex
  rw [counts_iff]
  simp only [trigger602Step, stepSyncAndAngle, h0, h1, if_false, decide_false, hs]
  generalize isCandidate _ _ = candidate at hgap hout ⊢
  generalize gapOutsideTolerance _ _ _ = outside at hout ⊢
  by_cases hg : (m + 1) % 58 = 0
  · obtain rfl := hgap.mpr hg
    cases outside
    · simp [hg]
    · exact absurd hg (hout rfl).2
  · cases candidate
    · cases outside
      · simp [hg, hindex]
      · obtain ⟨hp, -⟩ := hout rfl
        obtain hw | hw := hw
        · simp [hg, hw, hindex, satAdd8]
          omega
        · omega
    · exact absurd (hgap.mp rfl) hg

end edge

/-! ### Runs -/

section stream

variable {T first n k : ℕ} {time : ℕ → ℕ}

lemma last_decoded : (decoded time k).lastToothTimestampUs = stamp (time k) := by cases k <;> rfl

/-- Between two edges of one turn of the clock the space is measured. -/
lemma Steady.measured (h : Steady T first n time) (hk : k < n)
    (hlap : time k / 2 ^ 32 = time (k + 1) / 2 ^ 32) :
    InSpace T (first + k + 1) (measured time k) := by
  have hlower := h.lower k hk
  have hupper := h.upper k hk
  have hdt : (SpecTrigger.measured time k).toNat = time (k + 1) - time k := by
    rw [SpecTrigger.measured, dtOf, last_decoded, stamp, stamp, UInt32.toNat_ofNat',
      UInt32.toNat_ofNat', UInt32.toNat_ofNat']
    omega
  exact ⟨h.fast, h.slow, by omega, by omega⟩

variable (h : Ideal T first n time) (hk : k < n)
include h hk

lemma measured_inSpace : InSpace T (first + k + 1) (measured time k) :=
  h.measured hk (by
    have h0 := h.clock k hk.le
    have h1 := h.clock (k + 1) hk
    omega)

lemma previous_inSpace (hpos : k ≠ 0) :
    InSpace T (first + k) (decoded time k).prevToothIntervalUs := by
  obtain ⟨k, rfl⟩ := Nat.exists_eq_add_one_of_ne_zero hpos
  exact measured_inSpace h (by omega : k < n)

lemma gap_of_isCandidate (hc : isCandidate (decoded time k) (measured time k) = true) :
    (first + k + 1) % 58 = 0 := by
  have hdt := measured_inSpace h hk
  rcases Nat.eq_zero_or_pos k with rfl | hpos
  · have hlate := h.late
    have hprev : (decoded time 0).prevToothIntervalUs.toNat = time 0 := by
      change (UInt32.ofNat ((stamp (time 0)).toNat - 0)).toNat = time 0
      rw [Nat.sub_zero, UInt32.ofNat_toNat, stamp, UInt32.toNat_ofNat_of_lt' (h.clock 0 (Nat.zero_le _))]
    rw [isCandidate, decide_eq_true_eq, ne_eq, ← UInt32.toNat_inj, hprev] at hc
    unfold InSpace spaces at hdt
    split_ifs at hdt with hgap
    · exact hgap
    · change time 0 ≠ 0 ∧ _ at hc
      omega
  · exact (isCandidate_iff (previous_inSpace h hk hpos.ne') hdt).mp hc

lemma gap_of_preSync (hs : (decoded time (k + 1)).syncState = .preSync) :
    (first + k + 1) % 58 = 0 := by
  obtain ⟨h0, h1⟩ := (measured_inSpace h hk).ne
  refine gap_of_isCandidate h hk ?_
  simp only [decoded, trigger602Step, stepSyncAndAngle, h0, h1, if_false, decide_false] at hs
  generalize isCandidate _ _ = candidate at hs ⊢
  generalize (decoded time k).syncState = sync at hs
  cases candidate
  · cases sync <;> simp only [Bool.false_eq_true, if_false] at hs
    all_goals try split_ifs at hs
    all_goals cases hs
  · rfl

lemma synced_entry (hs : (decoded time (k + 1)).syncState = .synced)
    (hbefore : (decoded time k).syncState ≠ .synced) :
    (decoded time k).syncState = .preSync ∧ Counts (first + k + 1) 0 (decoded time (k + 1)) := by
  obtain ⟨h0, h1⟩ := (measured_inSpace h hk).ne
  rw [counts_iff]
  simp only [decoded, trigger602Step, stepSyncAndAngle, h0, h1, if_false, decide_false] at hs ⊢
  cases hsync : (decoded time k).syncState with
  | synced => exact absurd hsync hbefore
  | preSync =>
    simp only [hsync] at hs ⊢
    split_ifs at hs ⊢ <;> exact ⟨trivial, rfl, rfl, rfl, .inl rfl⟩
  | noSync | syncLoss =>
    simp only [hsync] at hs
    split_ifs at hs

omit hk in
lemma gap_before_sync {j : ℕ} (hj : j < n) (hs : (decoded time (j + 1)).syncState = .synced)
    (hbefore : (decoded time j).syncState ≠ .synced) : j ≠ 0 ∧ (first + j) % 58 = 0 := by
  obtain ⟨hpre, -⟩ := synced_entry h hj hs hbefore
  cases j with
  | zero =>
    simp [decoded, trigger602Step, stepSyncAndAngle, isCandidate, TriggerState.default,
      apply_ite Prod.fst] at hpre
    split_ifs at hpre
  | succ j => exact ⟨nofun, gap_of_preSync h (by omega) hpre⟩

omit h hk in
lemma wrap_loses_one (h : Steady T first n time) {w : ℕ} (hw : time w < 2 ^ 32)
    (hwrap : ∀ k, w < k → k ≤ n → time k / 2 ^ 32 = 1) (hs : (decoded time w).syncState = .synced)
    (hright : (decoded time w).toothIndex.toNat = (first + w) % 58) (hwk : w < k) (hkn : k ≤ n) :
    (decoded time k).syncState = .synced ∧
      (decoded time k).toothIndex.toNat = behindWrap first w k := by
  have hlap := hwrap (w + 1) (by omega) (by omega)
  have hupper := h.upper w (by omega)
  have hslow := h.slow
  -- the saturated difference of the two readings
  have hdt : measured time w = 0 := by
    rw [measured, dtOf, last_decoded, stamp, stamp, UInt32.toNat_ofNat', UInt32.toNat_ofNat',
      Nat.sub_eq_zero_of_le]
    · rfl
    · unfold spaces at hupper
      split_ifs at hupper <;> omega
  have hkept : (decoded time (w + 1)).syncState = .synced ∧
      (decoded time (w + 1)).toothIndex = (decoded time w).toothIndex := by
    simp [decoded, trigger602Step, stepSyncAndAngle, hdt, hs]
  rcases Nat.eq_or_lt_of_le hwk with rfl | hlt
  · rw [hkept.2, hright, behindWrap, if_pos (Nat.div_le_div_right (by omega))]
    exact ⟨hkept.1, rfl⟩
  have hspace {k : ℕ} (hwk : w < k) (hkn : k < n) : InSpace T (first + k + 1) (measured time k) :=
    h.measured hkn (by rw [hwrap k hwk hkn.le, hwrap (k + 1) (by omega) hkn])
  refine (fun hrun : Counts (first + k) _ (decoded time k) => ⟨hrun.synced, hrun.index⟩) ?_
  induction k, hlt using Nat.le_induction with
  | base =>
    refine counts_of_unmeasured hkept.1 hdt (hspace (by omega) hkn) ?_
    rw [hkept.2, hright, behindWrap, if_pos (by omega)]
    omega
  | succ k hlt ih =>
    obtain ⟨j, rfl⟩ := Nat.exists_eq_add_one_of_ne_zero (by omega : k ≠ 0)
    refine (ih (by omega) (by omega)).next (hspace (by omega : w < j) (by omega))
      (hspace (by omega) hkn) ?_
    unfold behindWrap
    split_ifs <;> omega

omit hk in
/-- **Numbers.** After sync is gained at an edge the decoder stays synced, and from the gap on that
comes 57 edges later it numbers every tooth right; before, none. If the clock then wraps, sync is kept
and the numbers are one too low up to the next gap. -/
theorem numbered_iff {j : ℕ} (hs : (decoded time (j + 1)).syncState = .synced)
    (hbefore : (decoded time j).syncState ≠ .synced) (hjk : j < k) (hkn : k ≤ n) :
    (decoded time k).syncState = .synced ∧
      (decoded time k).angleDeg10.toNat = 120 * (decoded time k).toothIndex.toNat ∧
      ((decoded time k).toothIndex.toNat = (first + k) % 58 ↔ j + 58 ≤ k) ∧
      ∀ N i, j + 58 ≤ k → Steady T first N time → (∀ m, k < m → m ≤ N → time m / 2 ^ 32 = 1) →
        k < i → i ≤ N → (decoded time i).syncState = .synced ∧
          (decoded time i).toothIndex.toNat = behindWrap first k i := by
  obtain ⟨hj, hgap⟩ := gap_before_sync h (by omega) hs hbefore
  have hrun : Counts (first + k) (if k < j + 58 then k - (j + 1) else (first + k) % 58)
      (decoded time k) := by
    induction k, hjk using Nat.le_induction with
    | base =>
      have hentry := (synced_entry h (by omega) hs hbefore).2
      rwa [if_pos (by omega), Nat.sub_self]
    | succ k hjk ih =>
      refine (ih (by omega)).next (previous_inSpace h hkn (by omega)) (measured_inSpace h hkn) ?_
      split_ifs <;> omega
  refine ⟨hrun.synced, by rw [hrun.angle, hrun.index], ?_, fun N i hjk hN hwrap => ?_⟩
  · rw [hrun.index]
    split_ifs <;> omega
  · refine wrap_loses_one hN (h.clock k hkn) hwrap hrun.synced ?_
    rw [hrun.index, if_neg (by omega)]

end stream

/-- A wheel that starts with tooth 55 and has a millisecond a space. -/
def wheel (start k : ℕ) : ℕ := start + 1000 * (60 * ((55 + k) / 58) + (55 + k) % 58 - 55)

theorem numbered_iff_wheel : (decoded (wheel 1000000) 62).toothIndex.toNat = (55 + 62) % 58 :=
  (numbered_iff (T := 1000) (j := 3) (n := 62) ⟨⟨by decide +kernel, by decide +kernel,
    by decide, by decide⟩, by decide +kernel, .inr (by decide)⟩ (by decide +kernel) (by decide +kernel)
    (by decide) le_rfl).2.2.1.mpr (by decide)

/-- The tooth after the gap is number 0 when sync is gained and number 1 a revolution later. When the
clock wraps a tooth is not counted, and the numbers are one too low again. -/
theorem first_turn_numbers :
    (decoded (wheel 1000000) 4).toothIndex = 0 ∧ (decoded (wheel 1000000) 62).toothIndex = 1 ∧
      (decoded (wheel (2 ^ 32 - 70500)) 65).toothIndex = 4 ∧
      (decoded (wheel (2 ^ 32 - 70500)) 69).toothIndex = 7 := by
  decide +kernel

end Pipoco.SpecTrigger
