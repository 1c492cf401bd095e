import Pipoco.Runs
import Pipoco.TrigDecoder

/-!
A real wheel is tracked.

The upper half of this file is about wheels alone: teeth pass at true times, one after another,
and once per turn the missing teeth make a long spacing. The lower half feeds the timestamps of
such a stream to the decoder and follows what it remembers from edge to edge.
-/

namespace Pipoco.TrigWheel

open Domain TrigDecoder TrigDecoder.MissingToothDecoder Runs

/-! ### Wheels -/

/-- The edges of a wheel with `teeth` teeth, from the one at position `start` after the gap on. -/
structure EdgeStream where
  (teeth start : ℕ)
  time : ℕ → ℕ

namespace EdgeStream

variable (s : EdgeStream) (k : ℕ)

/-- The index of an edge, counted from the gap. -/
def index : ℕ := (s.start + k) % s.teeth + 1

/-- The spacing between edge `k` and the next. -/
def spacing : ℕ := s.time (k + 1) - s.time k

/-- The gap lies between edge `k` and the next. -/
def Gap : Prop := s.index (k + 1) = 1
  deriving Decidable

/-- The last normal spacing before edge `k`. -/
def lastNormal : ℕ → Option ℕ
  | 0 => none
  | k + 1 => if s.Gap k then lastNormal k else some (s.spacing k)

/-- A gap that follows a normal spacing lies before edge `k`. -/
def GapSeen : Prop := ∃ j < k, s.Gap j ∧ (s.lastNormal j).isSome

instance : Decidable (s.GapSeen k) := inferInstanceAs (Decidable (∃ j < k, _))

/-- The spacing a listener compares with at edge `k` that starts from the first spacing whatever
it is, and does not take gaps after that. -/
def reference : ℕ → ℕ
  | 0 => 0
  | 1 => s.spacing 0
  | k + 2 => if s.Gap (k + 1) then reference (k + 1) else s.spacing (k + 1)

variable {s}

lemma index_succ (ht : 2 ≤ s.teeth) (k : ℕ) :
    s.index (k + 1) = if s.index k = s.teeth then 1 else s.index k + 1 := by
  have hlt := Nat.mod_lt (s.start + k) (show s.teeth > 0 by omega)
  have hstep : (s.start + (k + 1)) % s.teeth = ((s.start + k) % s.teeth + 1) % s.teeth := by
    rw [← Nat.add_assoc, Nat.add_mod, Nat.mod_eq_of_lt (show 1 < s.teeth by omega)]
  by_cases hend : s.index k = s.teeth
  · rw [if_pos hend, index, hstep]
    rw [index] at hend
    rw [hend, Nat.mod_self]
  · rw [if_neg hend, index, index, hstep]
    rw [index] at hend
    rw [Nat.mod_eq_of_lt (by omega)]

variable {k}

lemma gap_iff (ht : 2 ≤ s.teeth) : s.Gap k ↔ s.index k = s.teeth := by
  have hpos : 1 ≤ s.index k := Nat.le_add_left 1 _
  rw [Gap, index_succ ht]
  split_ifs with h
  · simp [h]
  · simp only [h, iff_false]
    omega

lemma not_gap_succ (ht : 2 ≤ s.teeth) (hg : s.Gap k) : ¬ s.Gap (k + 1) := fun hg' => by
  have h₁ : s.index (k + 1) = 1 := hg
  have h₂ : s.index (k + 1) = s.teeth := (gap_iff ht).mp hg'
  omega

/-- No normal spacing has passed only at the first edge, or when the first spacing is the gap. -/
lemma lastNormal_eq_none (ht : 2 ≤ s.teeth) (hk : k ≠ 0) (h : s.lastNormal k = none) :
    k = 1 ∧ s.Gap 0 := by
  obtain _ | _ | k := k
  · exact absurd rfl hk
  · by_contra hne
    have hg : ¬ s.Gap 0 := fun hg => hne ⟨rfl, hg⟩
    simp [lastNormal, hg] at h
  · -- of two spacings in a row one is normal
    by_cases hg : s.Gap k
    · simp [lastNormal, not_gap_succ ht hg] at h
    · by_cases hg' : s.Gap (k + 1) <;> simp [lastNormal, hg, hg'] at h

lemma reference_of_lastNormal {p : ℕ} (h : s.lastNormal k = some p) : s.reference k = p := by
  induction k with
  | zero => simp [lastNormal] at h
  | succ k ih =>
    by_cases hg : s.Gap k
    · simp only [lastNormal, hg, if_true] at h
      cases k with
      | zero => simp [lastNormal] at h
      | succ k => simpa only [reference, hg, if_true] using ih h
    · simp only [lastNormal, hg, if_false, Option.some.injEq] at h
      cases k with
      | zero => exact h
      | succ k => simpa only [reference, hg, if_false] using h

lemma gapSeen_succ : s.GapSeen (k + 1) ↔ s.GapSeen k ∨ (s.Gap k ∧ (s.lastNormal k).isSome) := by
  constructor
  · rintro ⟨j, hj, h⟩
    rcases Nat.lt_succ_iff_lt_or_eq.mp hj with hj | rfl
    · exact .inl ⟨j, hj, h⟩
    · exact .inr h
  · rintro (⟨j, hj, h⟩ | h)
    · exact ⟨j, by omega, h⟩
    · exact ⟨k, by omega, h⟩

lemma GapSeen.ne_zero (h : s.GapSeen k) : k ≠ 0 := by
  obtain ⟨j, hj, -⟩ := h
  omega

/-- Every gap but the first spacing follows a normal spacing. -/
lemma gapSeen_succ_of_gap (ht : 2 ≤ s.teeth) (hg : s.Gap k) (h0 : k ≠ 0) : s.GapSeen (k + 1) := by
  refine gapSeen_succ.mpr (.inr ⟨hg, ?_⟩)
  by_contra hn
  obtain ⟨rfl, hg0⟩ := lastNormal_eq_none ht h0 (Option.not_isSome_iff_eq_none.mp hn)
  exact not_gap_succ ht hg0 hg

lemma gapSeen_succ_of_not_gap (hg : ¬ s.Gap k) : s.GapSeen (k + 1) ↔ s.GapSeen k := by
  rw [gapSeen_succ]
  exact or_iff_left fun h => hg h.1

lemma reference_succ (h0 : k ≠ 0) :
    s.reference (k + 1) = if s.Gap k then s.reference k else s.spacing k := by
  obtain ⟨k, rfl⟩ := Nat.exists_eq_succ_of_ne_zero h0
  rfl

end EdgeStream

/-! ### The stream and the decoder -/

open EdgeStream

section wheel

variable (config : MissingToothDecoderConfig) (s : EdgeStream) (n : ℕ)

/-- Up to edge `n` the edges advance, fit the counter and pass the edge filter. -/
structure Advancing : Prop where
  teeth : s.teeth = (config.nominalTeeth - config.missingTeeth).toNat
  advancing : ∀ k < n, s.time k < s.time (k + 1)
  short : ∀ k < n, s.spacing k < 2 ^ 32
  unfiltered : ∀ k < n, config.minimumEdgeInterval.toNat ≤ s.spacing k

/-- Up to edge `n` the stream is that of a wheel the configuration describes: the threshold tells the
gap from the teeth. -/
structure Real : Prop extends Advancing config s n where
  normal : ∀ k < n, ∀ p ∈ s.lastNormal k, ¬ s.Gap k →
    s.spacing k * 1000 < p * config.normalizedGapThresholdX1000.toNat
  gap : ∀ k < n, ∀ p ∈ s.lastNormal k, s.Gap k →
    p * config.normalizedGapThresholdX1000.toNat ≤ s.spacing k * 1000

/-- When the first spacing is the gap, the one after it, if it comes, is not long against it. -/
def Settled : Prop :=
  1 < n → s.Gap 0 → s.spacing 1 * 1000 < s.spacing 0 * config.normalizedGapThresholdX1000.toNat

instance : Decidable (Settled config s n) := inferInstanceAs (Decidable (_ → _ → _))

end wheel

variable (d : MissingToothDecoder) (s : EdgeStream) (k : ℕ)

/-- The timestamp of an edge, on the wrapping counter. -/
def EdgeStream.timestamp : Ticks := UInt32.ofNat (s.time k)

/-- The decoder after the edges `0 .. k - 1`. -/
def after : MissingToothDecoder :=
  run (fun d t => (d.ingestPrimaryEdge t).1) d ((List.range k).map s.timestamp)

lemma after_succ : after d s (k + 1) = ((after d s k).ingestPrimaryEdge (s.timestamp k)).1 := by
  simp [after, List.range_succ, run_append]

section edge

variable {config : MissingToothDecoderConfig} {s : EdgeStream} {n k : ℕ}

lemma Advancing.spacing_pos (hs : Advancing config s n) (hk : k < n) : 0 < s.spacing k :=
  Nat.sub_pos_of_lt (hs.advancing k hk)

/-- The difference of two timestamps is the spacing, across a rollover too. -/
lemma elapsedTicks_timestamp (hle : s.time k < s.time (k + 1)) (hlt : s.spacing k < 2 ^ 32) :
    (elapsedTicks (s.timestamp (k + 1)) (s.timestamp k)).toNat = s.spacing k := by
  rw [TrigDecoder.elapsedTicks, EdgeStream.timestamp, EdgeStream.timestamp,
    ← UInt32.ofNat_sub hle.le]
  exact UInt32.toNat_ofNat_of_lt hlt

lemma Advancing.elapsedTicks (hs : Advancing config s n) (hk : k < n) :
    (elapsedTicks (s.timestamp (k + 1)) (s.timestamp k)).toNat = s.spacing k :=
  elapsedTicks_timestamp (hs.advancing k hk) (hs.short k hk)

lemma Advancing.measured (hs : Advancing config s n) (hk : k < n) :
    ¬ TrigDecoder.elapsedTicks (s.timestamp (k + 1)) (s.timestamp k) < config.minimumEdgeInterval ∧
      TrigDecoder.elapsedTicks (s.timestamp (k + 1)) (s.timestamp k) ≠ 0 := by
  have helapsed := hs.elapsedTicks hk
  have hpos := hs.spacing_pos hk
  constructor
  · rw [UInt32.lt_iff_toNat_lt, helapsed]
    exact Nat.not_lt.mpr (hs.unfiltered k hk)
  · intro hzero
    rw [hzero] at helapsed
    have hz : (0 : UInt32).toNat = 0 := rfl
    omega

lemma Advancing.two_le (hs : Advancing config s n) {d : MissingToothDecoder}
    (hnew : tryNew config = .ok d) : 2 ≤ s.teeth := by
  obtain ⟨-, -, hobserved, -, -⟩ := tryNew_ok hnew
  exact hs.teeth ▸ UInt8.le_iff_toNat_le.mp hobserved

lemma Real.reference_pos (hs : Real config s n) (h0 : k ≠ 0) (hk : k ≤ n) : 0 < s.reference k := by
  induction k with
  | zero => exact absurd rfl h0
  | succ k ih =>
    by_cases hz : k = 0
    · subst hz
      exact hs.spacing_pos hk
    · rw [reference_succ hz]
      split_ifs
      · exact ih hz (by omega)
      · exact hs.spacing_pos hk

/-- From the second spacing on, the remembered spacing tells the gap from the teeth. -/
lemma Real.reference_decides (hs : Real config s n) (ht : 2 ≤ s.teeth)
    (hset : Settled config s n) (hk : k < n) (h0 : k ≠ 0) :
    s.reference k * config.normalizedGapThresholdX1000.toNat ≤ s.spacing k * 1000 ↔ s.Gap k := by
  cases hl : s.lastNormal k with
  | some p =>
    rw [reference_of_lastNormal hl]
    have hn := hs.normal k hk p hl
    exact ⟨fun h => not_not.mp fun hg => absurd h (Nat.not_le.mpr (hn hg)), hs.gap k hk p hl⟩
  | none =>
    obtain ⟨rfl, hg⟩ := lastNormal_eq_none ht h0 hl
    exact iff_of_false (Nat.not_le.mpr (hset hk hg)) (not_gap_succ ht hg)

/-- What the decoder knows after edge `k`. -/
structure Tracks (config : MissingToothDecoderConfig) (s : EdgeStream) (k : ℕ)
    (d : MissingToothDecoder) : Prop where
  loss : d.diagnostics.lastSyncLoss = none ∨
    (config.secondary.mode ≠ .none ∧ d.diagnostics.lastSyncLoss = some .secondaryTimeout)
  losses : d.diagnostics.authority.syncLossCount = 0
  config : d.config = config
  teeth : d.observedTeeth.toNat = s.teeth
  last : d.lastEdgeTimestamp = some (s.timestamp k)
  previous : d.previousInterval.toNat = s.reference k
  normal : d.lastNormalInterval = d.previousInterval
  locked : d.primaryLocked = true ↔ s.GapSeen k
  tooth : s.GapSeen k → d.currentTooth.toNat = s.index k ∧ d.teethSinceGap.toNat = s.index k

variable {d : MissingToothDecoder}

/-- An edge of the stream that cannot be compared, because it is the second one. -/
lemma Tracks.unmeasured (h : Tracks config s 0 d) (interval : Ticks)
    (hi : interval.toNat = s.spacing 0) :
    Tracks config s 1 (d.acceptUnmeasured (s.timestamp 1) interval) where
  config := h.config
  teeth := h.teeth
  last := rfl
  previous := hi
  normal := rfl
  locked := by
    have hnone : ¬ s.GapSeen 1 := fun ⟨j, hj, _, hn⟩ => by
      obtain rfl : j = 0 := by omega
      cases hn
    have hlock : ¬ d.primaryLocked = true := fun hl => (h.locked.mp hl).ne_zero rfl
    exact iff_of_false hlock hnone
  tooth := fun ⟨j, hj, _, hn⟩ => by
    obtain rfl : j = 0 := by omega
    cases hn
  losses := h.losses
  loss := h.loss

/-- The check of the secondary input before a gap can only note a missed one. -/
lemma Tracks.validateSecondary (h : Tracks config s k d) :
    Tracks config s k d.validateSecondaryBeforeNextGap := by
  unfold validateSecondaryBeforeNextGap
  split_ifs with hc
  · obtain ⟨hl, hm⟩ : d.primaryLocked = true ∧ d.config.secondary.mode ≠ .none := by
      simp only [Bool.and_eq_true, decide_eq_true_eq] at hc
      exact hc.1
    have hfault : d.recordSecondaryFault .secondaryTimeout =
        ({ d with
          phaseValidated := false
          secondarySeenSinceGap := false
          diagnostics := { d.diagnostics with lastSyncLoss := some .secondaryTimeout } } :
            MissingToothDecoder).setLockedAuthority := by
      simp only [recordSecondaryFault, hl, if_true]
    rw [hfault]
    exact { h with
      loss := .inr ⟨h.config ▸ hm, rfl⟩
      losses := h.losses, config := h.config, teeth := h.teeth, last := h.last
      previous := h.previous, normal := h.normal, locked := h.locked, tooth := h.tooth }
  · exact h

/-- A gap: the count is complete if there was a lock, and there is a lock afterwards. -/
lemma Tracks.acceptGap (h : Tracks config s k d) (ht : 2 ≤ s.teeth) (hg : s.Gap k) (h0 : k ≠ 0)
    (interval : Ticks) (ratio : UInt16) :
    Tracks config s (k + 1) (d.acceptGap (s.timestamp (k + 1)) interval ratio).1 ∧
      (d.acceptGap (s.timestamp (k + 1)) interval ratio).2 = .ok (.gap 1) := by
  have hcount : d.primaryLocked = true → d.teethSinceGap = d.observedTeeth := fun hl => by
    have hc := (h.tooth (h.locked.mp hl)).2
    exact UInt8.toNat.inj (by rw [hc, h.teeth, (gap_iff ht).mp hg])
  have hkeep : ¬ (d.primaryLocked && d.teethSinceGap ≠ d.observedTeeth) = true := by
    simpa using hcount
  have hc := h.validateSecondary
  have hseen := gapSeen_succ_of_gap ht hg h0
  have hindex : (1 : UInt8).toNat = s.index (k + 1) := Eq.symm hg
  simp only [MissingToothDecoder.acceptGap, if_neg hkeep, and_true]
  exact {
    loss := hc.loss
    losses := hc.losses
    config := hc.config
    teeth := hc.teeth
    last := rfl
    previous := by
      rw [reference_succ h0, if_pos hg, ← hc.previous, ← hc.normal]
      rfl
    normal := rfl
    locked := iff_of_true rfl hseen
    tooth := fun _ => ⟨hindex, hindex⟩ }

/-- A normal spacing: one tooth more if there is a lock. -/
lemma Tracks.acceptTooth (h : Tracks config s k d) (ht : 2 ≤ s.teeth) (hg : ¬ s.Gap k) (h0 : k ≠ 0)
    {interval : Ticks} (hi : interval.toNat = s.spacing k) (ratio : UInt16) :
    Tracks config s (k + 1) (d.acceptTooth (s.timestamp (k + 1)) interval ratio).1 ∧
      ∃ event, (d.acceptTooth (s.timestamp (k + 1)) interval ratio).2 = .ok event := by
  have hend : s.index k ≠ s.teeth := fun he => hg ((gap_iff ht).mpr he)
  have hlt : s.index k < s.teeth := lt_of_le_of_ne (Nat.mod_lt _ (by omega)) hend
  have hindex : s.index (k + 1) = s.index k + 1 := by rw [index_succ ht, if_neg hend]
  have hteeth : s.teeth < 256 := h.teeth ▸ d.observedTeeth.toNat_lt
  have hseen := gapSeen_succ_of_not_gap hg
  have href : s.reference (k + 1) = s.spacing k := by rw [reference_succ h0, if_neg hg]
  cases hl : d.primaryLocked with
  | true =>
    obtain ⟨hcur, hsince⟩ := h.tooth (h.locked.mp hl)
    have hnot : ¬ d.currentTooth ≥ d.observedTeeth := by
      rw [ge_iff_le, UInt8.le_iff_toNat_le, hcur, h.teeth]
      omega
    -- below the last tooth the eight-bit counters are exact
    have hcount : ∀ n : UInt8, n.toNat = s.index k → (satAdd8 n 1).toNat = s.index (k + 1) := by
      intro n hn
      rw [toNat_satAdd8_one (hn ▸ hlt) hteeth, hn, hindex]
    simp only [MissingToothDecoder.acceptTooth, updateObservation, hl, hnot, decide_false,
      Bool.and_false, Bool.false_eq_true, if_true, if_false]
    exact ⟨{
      loss := h.loss
      losses := h.losses
      config := h.config
      teeth := h.teeth
      last := rfl
      previous := hi.trans href.symm
      normal := rfl
      locked := iff_of_true rfl (hseen.mpr (h.locked.mp hl))
      tooth := fun _ => ⟨hcount _ hcur, hcount _ hsince⟩ }, _, rfl⟩
  | false =>
    have hunseen : ¬ s.GapSeen k := fun hs => absurd (h.locked.mpr hs) (by simp [hl])
    simp only [MissingToothDecoder.acceptTooth, updateObservation, hl, Bool.false_and,
      Bool.false_eq_true, if_false]
    exact ⟨{
      loss := h.loss
      losses := h.losses
      config := h.config
      teeth := h.teeth
      last := rfl
      previous := hi.trans href.symm
      normal := rfl
      locked := iff_of_false (fun h => nomatch h) (hseen.not.mpr hunseen)
      tooth := fun hs => absurd (hseen.mp hs) hunseen }, _, rfl⟩

lemma tracks_first (hteeth : s.teeth = (config.nominalTeeth - config.missingTeeth).toNat) :
    let d := initial config (config.nominalTeeth - config.missingTeeth)
    Tracks config s 0 (d.ingestPrimaryEdge (s.timestamp 0)).1 ∧
      (d.ingestPrimaryEdge (s.timestamp 0)).2 = .ok .firstEdge := by
  have hnone : ¬ s.GapSeen 0 := fun h => h.ne_zero rfl
  have hedge : (initial config (config.nominalTeeth - config.missingTeeth)).ingestPrimaryEdge
      (s.timestamp 0) =
        (({ initial config (config.nominalTeeth - config.missingTeeth) with
          lastEdgeTimestamp := some (s.timestamp 0) } : MissingToothDecoder).setSearchingAuthority,
          .ok .firstEdge) := by
    simp [ingestPrimaryEdge, ingestPrimaryEdgeWithKind, initial]
  intro d
  simp only [d, hedge, and_true]
  exact {
    loss := .inl rfl
    losses := rfl
    config := rfl
    teeth := hteeth.symm
    last := rfl
    previous := rfl
    normal := rfl
    locked := iff_of_false (fun h => nomatch h) hnone
    tooth := fun h => absurd h hnone }

lemma Tracks.next (hs : Real config s n) (ht : 2 ≤ s.teeth) (hset : Settled config s n)
    (h : Tracks config s k d) (hk : k < n) :
    Tracks config s (k + 1) (d.ingestPrimaryEdge (s.timestamp (k + 1))).1 ∧
      ∃ event, (d.ingestPrimaryEdge (s.timestamp (k + 1))).2 = .ok event := by
  have hel := hs.elapsedTicks hk
  obtain ⟨hpass, hnz⟩ := hs.measured hk
  rw [← h.config] at hpass
  generalize hint : TrigDecoder.elapsedTicks (s.timestamp (k + 1)) (s.timestamp k) = interval
    at hel hpass hnz
  by_cases h0 : k = 0
  · subst h0
    have hprev : d.previousInterval = 0 := UInt32.toNat.inj h.previous
    simp only [ingestPrimaryEdge, ingestPrimaryEdgeWithKind, ne_eq, not_true_eq_false, if_false,
      h.last, hint, hpass, hprev, true_or, if_true]
    exact ⟨h.unmeasured interval hel, _, rfl⟩
  · have hprev : d.previousInterval ≠ 0 := fun hz => by
      have hpos := hs.reference_pos h0 hk.le
      rw [← h.previous, hz] at hpos
      exact absurd hpos (by decide)
    have hdecides := hs.reference_decides ht hset hk h0
    rw [← h.previous, ← hel] at hdecides
    rw [← h.config] at hdecides
    simp only [ingestPrimaryEdge, ingestPrimaryEdgeWithKind, ne_eq, not_true_eq_false, if_false,
      h.last, hint, hpass, hprev, hnz, or_self, missingToothGapDetected_ok hnz hprev, ge_iff_le,
      hdecides, decide_eq_true_eq]
    split_ifs with hg
    · exact ⟨(h.acceptGap ht hg h0 _ _).1, _, (h.acceptGap ht hg h0 _ _).2⟩
    · exact h.acceptTooth ht hg h0 hel _

lemma tracks_after (hnew : tryNew config = .ok d) (hs : Real config s n)
    (hset : Settled config s n) (hk : k ≤ n) :
    Tracks config s k (after d s (k + 1)) ∧
      ∃ event, ((after d s k).ingestPrimaryEdge (s.timestamp k)).2 = .ok event := by
  have ht := hs.two_le hnew
  obtain ⟨-, -, -, -, rfl⟩ := tryNew_ok hnew
  induction k with
  | zero => exact ⟨(tracks_first hs.teeth).1, _, (tracks_first hs.teeth).2⟩
  | succ k ih =>
    rw [after_succ]
    exact (ih (by omega)).1.next hs ht hset hk

end edge

/-- **A real wheel is tracked.** After every edge of the stream: the edge was taken without an
error, the decoder is locked exactly when a gap that follows a normal spacing has passed, the
current tooth of a locked decoder is the true one, and no loss of synchronisation was counted or
reported, except that a configured secondary input may have been noted as missing. -/
theorem wheel_tracked {config : MissingToothDecoderConfig} {d : MissingToothDecoder}
    (hnew : tryNew config = .ok d) {s : EdgeStream} {n : ℕ} (hs : Real config s n)
    (hset : Settled config s n) {k : ℕ} (hk : k ≤ n) :
    (∃ event, ((after d s k).ingestPrimaryEdge (s.timestamp k)).2 = .ok event) ∧
      ((after d s (k + 1)).primaryLocked = true ↔ s.GapSeen k) ∧
      (s.GapSeen k → (after d s (k + 1)).currentTooth.toNat = s.index k) ∧
      (after d s (k + 1)).diagnostics.authority.syncLossCount = 0 ∧
      ((after d s (k + 1)).diagnostics.lastSyncLoss = none ∨
        (config.secondary.mode ≠ .none ∧
          (after d s (k + 1)).diagnostics.lastSyncLoss = some .secondaryTimeout)) := by
  obtain ⟨h, hok⟩ := tracks_after hnew hs hset hk
  exact ⟨hok, h.locked, fun hg => (h.tooth hg).1, h.losses, h.loss⟩

/-- A stream with the given times, from the last tooth before the gap on. -/
def fromLastTooth (times : List ℕ) : EdgeStream := ⟨3, 2, fun k => times.getD k 0⟩

theorem wheel_tracked_rollover :
    let s := fromLastTooth [4294967000, 4294967200, 4294967300, 4294967410, 4294967620, 4294967710]
    s.GapSeen 5 ∧ (after (initial fourMinusOne 3) s 6).primaryLocked = true ∧
      (after (initial fourMinusOne 3) s 6).currentTooth.toNat = 2 := by
  intro s
  have hseen : s.GapSeen 5 := by decide
  have hreal : Real fourMinusOne s 5 := ⟨⟨rfl, by decide, by decide, by decide⟩, by decide, by decide⟩
  have hnew : tryNew fourMinusOne = .ok (initial fourMinusOne 3) := rfl
  obtain ⟨-, hlocked, htooth, -⟩ := wheel_tracked hnew hreal (by decide) le_rfl
  exact ⟨hseen, hlocked.mpr hseen, (htooth hseen).trans (by decide)⟩

/-- Without the condition on the start: the first spacing is the gap, and the normal one after it
is long against it. The decoder takes that one for the gap, locks on the second tooth as if it
were the first, loses the lock at the next edge and misses the first true gap. -/
theorem slowing_start_not_tracked :
    let s := fromLastTooth [0, 60, 160, 260, 460]
    Real fourMinusOne s 4 ∧
      (¬ s.GapSeen 2 ∧ (after (initial fourMinusOne 3) s 3).primaryLocked = true ∧
        (after (initial fourMinusOne 3) s 3).currentTooth = 1 ∧ s.index 2 = 2) ∧
      ((after (initial fourMinusOne 3) s 3).ingestPrimaryEdge (s.timestamp 3)).2 =
        .error .wrongToothCount ∧
      s.GapSeen 4 ∧ (after (initial fourMinusOne 3) s 5).primaryLocked = false := by
  refine ⟨⟨⟨rfl, ?_, ?_, ?_⟩, ?_, ?_⟩, ?_⟩ <;> decide +kernel

end Pipoco.TrigWheel
