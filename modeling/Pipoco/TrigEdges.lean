import Pipoco.TrigCoherence

/-!
What one primary edge does.

An edge takes one of eight paths through the decoder. Each path is named here once, with what it
asks of the decoder and what it does to the fields that follow the wheel; later files argue by
these cases and do not look into the decoder again.
-/

namespace Pipoco.TrigDecoder

open Domain Runs TrigCoherence

/-- The fields that follow the wheel. -/
structure Tracking where
  config : MissingToothDecoderConfig
  observedTeeth : UInt8
  lastEdgeTimestamp : Option Ticks
  (previousInterval lastNormalInterval : Ticks)
  (currentTooth teethSinceGap : UInt8)
  primaryLocked : Bool
  deriving DecidableEq

/-- A spacing is measured and counted. -/
def Tracking.spaced (t : Tracking) (timestamp interval : Ticks) : Tracking :=
  { t with
    lastEdgeTimestamp := some timestamp
    previousInterval := interval
    lastNormalInterval := interval
    teethSinceGap := satAdd8 t.teethSinceGap 1 }

/-- A revolution begins. -/
def Tracking.atGap (t : Tracking) (timestamp : Ticks) : Tracking :=
  { t with
    lastEdgeTimestamp := some timestamp
    previousInterval := t.lastNormalInterval
    currentTooth := 1
    teethSinceGap := 1
    primaryLocked := true }

namespace MissingToothDecoder

variable (d : MissingToothDecoder)

def tracking : Tracking where
  config := d.config
  observedTeeth := d.observedTeeth
  lastEdgeTimestamp := d.lastEdgeTimestamp
  previousInterval := d.previousInterval
  lastNormalInterval := d.lastNormalInterval
  currentTooth := d.currentTooth
  teethSinceGap := d.teethSinceGap
  primaryLocked := d.primaryLocked

/-- The spacing is long against the one before it. -/
def LongSpacing (interval : Ticks) : Prop :=
  d.previousInterval.toNat * d.config.normalizedGapThresholdX1000.toNat ≤ interval.toNat * 1000
  deriving Decidable

/-- The paths of a primary edge, by what it reports. -/
inductive PrimaryStep (d : MissingToothDecoder) (timestamp : Ticks) (edge : TriggerEdge)
    (d' : MissingToothDecoder) : Except SyncLossReason MissingToothDecoderEvent → Prop
  | otherKind (hkind : edge ≠ d.config.primaryEdge) (h : d'.tracking = d.tracking) :
      PrimaryStep d timestamp edge d' (.error .unexpectedPrimaryEdge)
  | firstEdge (hlast : d.lastEdgeTimestamp = none)
      (h : d'.tracking = { d.tracking with lastEdgeTimestamp := some timestamp }) :
      PrimaryStep d timestamp edge d' (.ok .firstEdge)
  | filtered {last : Ticks} (hlast : d.lastEdgeTimestamp = some last)
      (hfilter : elapsedTicks timestamp last < d.config.minimumEdgeInterval)
      (h : d'.tracking = d.tracking) :
      PrimaryStep d timestamp edge d' (.ok .ignoredByFilter)
  | unmeasured {last : Ticks} (hkind : edge = d.config.primaryEdge)
      (hlast : d.lastEdgeTimestamp = some last)
      (hfilter : ¬ elapsedTicks timestamp last < d.config.minimumEdgeInterval)
      (hzero : d.previousInterval = 0 ∨ elapsedTicks timestamp last = 0)
      (h : d'.tracking = d.tracking.spaced timestamp (elapsedTicks timestamp last)) :
      PrimaryStep d timestamp edge d' (.ok .searching)
  | gap {last : Ticks} (hlast : d.lastEdgeTimestamp = some last)
      (hprevious : d.previousInterval ≠ 0) (hlong : d.LongSpacing (elapsedTicks timestamp last))
      (hcount : d.primaryLocked = true → d.teethSinceGap = d.observedTeeth)
      (h : d'.tracking = d.tracking.atGap timestamp) :
      PrimaryStep d timestamp edge d' (.ok (.gap 1))
  | tooth {last : Ticks} (hlast : d.lastEdgeTimestamp = some last)
      (hfilter : ¬ elapsedTicks timestamp last < d.config.minimumEdgeInterval)
      (hinterval : elapsedTicks timestamp last ≠ 0) (hlocked : d.primaryLocked = true)
      (hcount : d.currentTooth < d.observedTeeth)
      (h : d'.tracking = { d.tracking.spaced timestamp (elapsedTicks timestamp last) with
        currentTooth := satAdd8 d.currentTooth 1 }) :
      PrimaryStep d timestamp edge d' (.ok (.tooth (satAdd8 d.currentTooth 1)))
  | searched {last : Ticks} (hlast : d.lastEdgeTimestamp = some last)
      (hfilter : ¬ elapsedTicks timestamp last < d.config.minimumEdgeInterval)
      (hshort : ¬ d.LongSpacing (elapsedTicks timestamp last)) (hunlocked : d.primaryLocked = false)
      (h : d'.tracking = d.tracking.spaced timestamp (elapsedTicks timestamp last)) :
      PrimaryStep d timestamp edge d' (.ok .searching)
  | lost (hlocked : d.primaryLocked = true)
      (h : d'.tracking = { d.tracking with
        lastEdgeTimestamp := some timestamp
        previousInterval := 0
        lastNormalInterval := 0
        currentTooth := 0
        teethSinceGap := 0
        primaryLocked := false }) :
      PrimaryStep d timestamp edge d' (.error .wrongToothCount)

section paths

variable {d : MissingToothDecoder} {timestamp last : Ticks} {edge : TriggerEdge}

lemma tracking_recordSecondaryFault (reason : SyncLossReason) :
    (d.recordSecondaryFault reason).tracking = d.tracking := by
  cases hl : d.primaryLocked with
  | true =>
    simp only [recordSecondaryFault, hl, if_true]
    simp only [tracking, hl]
    rfl
  | false =>
    simp only [recordSecondaryFault, hl, Bool.false_eq_true, if_false]
    simp only [tracking, hl]
    rfl

lemma tracking_validateSecondary : d.validateSecondaryBeforeNextGap.tracking = d.tracking := by
  unfold validateSecondaryBeforeNextGap
  split_ifs
  · exact tracking_recordSecondaryFault _
  · rfl

lemma primaryStep_acceptGap (hlast : d.lastEdgeTimestamp = some last)
    (hprevious : d.previousInterval ≠ 0) (hlong : d.LongSpacing (elapsedTicks timestamp last))
    (interval : Ticks) (ratio : UInt16) :
    PrimaryStep d timestamp edge (d.acceptGap timestamp interval ratio).1
      (d.acceptGap timestamp interval ratio).2 := by
  unfold acceptGap
  split_ifs with hwrong
  · simp only [Bool.and_eq_true, decide_eq_true_eq] at hwrong
    exact .lost hwrong.1 rfl
  · have hcount : d.primaryLocked = true → d.teethSinceGap = d.observedTeeth := by
      simpa using hwrong
    refine .gap hlast hprevious hlong hcount ?_
    rw [← tracking_validateSecondary (d := d)]
    rfl

lemma primaryStep_acceptTooth (hlast : d.lastEdgeTimestamp = some last)
    (hfilter : ¬ elapsedTicks timestamp last < d.config.minimumEdgeInterval)
    (hinterval : elapsedTicks timestamp last ≠ 0)
    (hshort : ¬ d.LongSpacing (elapsedTicks timestamp last)) (ratio : UInt16) :
    PrimaryStep d timestamp edge (d.acceptTooth timestamp (elapsedTicks timestamp last) ratio).1
      (d.acceptTooth timestamp (elapsedTicks timestamp last) ratio).2 := by
  unfold acceptTooth
  cases hl : d.primaryLocked with
  | true =>
    by_cases hend : d.currentTooth ≥ d.observedTeeth
    · simp only [hend, decide_true, Bool.and_self, if_true]
      exact .lost hl rfl
    · simp only [updateObservation, hend, decide_false, Bool.and_false, Bool.false_eq_true,
        if_true, if_false]
      exact .tooth hlast hfilter hinterval hl (UInt8.not_le.mp hend) (by simp only [tracking, hl]; rfl)
  | false => exact .searched hlast hfilter hshort hl (by simp only [tracking, hl]; rfl)

variable (d) in
/-- **The paths of a primary edge.** -/
theorem primaryStep_ingest (timestamp : Ticks) (edge : TriggerEdge) :
    PrimaryStep d timestamp edge (d.ingestPrimaryEdgeWithKind timestamp edge).1
      (d.ingestPrimaryEdgeWithKind timestamp edge).2 := by
  by_cases hkind : edge = d.config.primaryEdge
  swap
  · simp only [ingestPrimaryEdgeWithKind, if_pos hkind]
    exact .otherKind hkind (by split_ifs <;> rfl)
  simp only [ingestPrimaryEdgeWithKind, if_neg (not_not.mpr hkind)]
  cases hlast : d.lastEdgeTimestamp with
  | none => exact .firstEdge hlast rfl
  | some last =>
    by_cases hfilter : elapsedTicks timestamp last < d.config.minimumEdgeInterval
    · simp only [hfilter, if_true]
      exact .filtered hlast hfilter (by simp only [tracking, hlast])
    simp only [hfilter, if_false]
    by_cases hzero : d.previousInterval = 0 ∨ elapsedTicks timestamp last = 0
    · simp only [hzero, if_true]
      exact .unmeasured hkind hlast hfilter hzero rfl
    · obtain ⟨hprevious, hinterval⟩ := not_or.mp hzero
      simp only [hzero, if_false, missingToothGapDetected_ok hinterval hprevious]
      split_ifs with hlong
      · exact primaryStep_acceptGap hlast hprevious (of_decide_eq_true hlong) _ _
      · exact primaryStep_acceptTooth hlast hfilter hinterval (fun h => hlong (decide_eq_true h)) _

lemma tracking_ingestSecondaryEdge : (d.ingestSecondaryEdge edge).1.tracking = d.tracking := by
  unfold ingestSecondaryEdge
  split
  · simp only
    split_ifs
    · exact tracking_recordSecondaryFault _
    · exact tracking_recordSecondaryFault _
    · rfl
    · rfl
  all_goals exact tracking_recordSecondaryFault _

lemma tracking_ingestSecondaryLevel (level : TriggerLevel) :
    (d.ingestSecondaryLevel level).1.tracking = d.tracking := by
  unfold ingestSecondaryLevel
  split
  · split_ifs
    · exact tracking_recordSecondaryFault _
    · exact tracking_recordSecondaryFault _
    · rfl
  all_goals exact tracking_recordSecondaryFault _

end paths

lemma config_step (op : DecoderOp) : (step d op).config = d.config := by
  cases op with
  | primaryEdge timestamp edge =>
    have hstep := primaryStep_ingest d timestamp edge
    generalize (d.ingestPrimaryEdgeWithKind timestamp edge).2 = result at hstep
    cases hstep <;> exact congrArg Tracking.config ‹_ = _›
  | secondaryEdge edge => exact congrArg Tracking.config tracking_ingestSecondaryEdge
  | secondaryLevel level => exact congrArg Tracking.config (tracking_ingestSecondaryLevel level)
  | reset => rfl

/-! ### What every run keeps -/

/-- The spacings that are remembered agree, the wheel is the configured one, and a locked decoder
stands at a tooth. -/
structure Kept (c : MissingToothDecoderConfig) (t : Tracking) : Prop where
  config : t.config = c
  observed : t.observedTeeth = c.nominalTeeth - c.missingTeeth
  normal : t.previousInterval = t.lastNormalInterval
  tooth : t.primaryLocked = true → 1 ≤ t.currentTooth ∧ t.currentTooth ≤ t.observedTeeth
  edge : t.primaryLocked = true → t.lastEdgeTimestamp ≠ none

section kept

variable {c : MissingToothDecoderConfig} {d d' : MissingToothDecoder} {timestamp : Ticks}
  {edge : TriggerEdge} {result : Except SyncLossReason MissingToothDecoderEvent}

lemma kept_initial : Kept c (initial c (c.nominalTeeth - c.missingTeeth)).tracking where
  config := rfl
  observed := rfl
  normal := rfl
  tooth := fun h => nomatch h
  edge := fun h => nomatch h

lemma Kept.primaryStep (hteeth : 1 ≤ c.nominalTeeth - c.missingTeeth) (hd : Kept c d.tracking)
    (hstep : PrimaryStep d timestamp edge d' result) : Kept c d'.tracking := by
  cases hstep with
  | otherKind _ h | filtered _ _ h => exact h ▸ hd
  | firstEdge _ h =>
    rw [h]
    exact ⟨hd.config, hd.observed, hd.normal, hd.tooth, fun _ => Option.some_ne_none _⟩
  | unmeasured _ _ _ _ h =>
    rw [h]
    exact ⟨hd.config, hd.observed, rfl, hd.tooth, fun _ => Option.some_ne_none _⟩
  | gap _ _ _ _ h =>
    rw [h]
    exact ⟨hd.config, hd.observed, rfl,
      fun _ => ⟨UInt8.le_refl 1, hd.observed.symm ▸ hteeth⟩, fun _ => Option.some_ne_none _⟩
  | tooth _ _ _ _ hcount h =>
    rw [h]
    obtain ⟨hle, hge⟩ := satAdd8_one hcount
    exact ⟨hd.config, hd.observed, rfl, fun _ => ⟨hge, hle⟩, fun _ => Option.some_ne_none _⟩
  | searched _ _ _ _ h =>
    rw [h]
    exact ⟨hd.config, hd.observed, rfl, hd.tooth, fun _ => Option.some_ne_none _⟩
  | lost _ h =>
    rw [h]
    exact ⟨hd.config, hd.observed, rfl, fun he => absurd he Bool.false_ne_true,
      fun he => nomatch he⟩

lemma Kept.step (hteeth : 1 ≤ c.nominalTeeth - c.missingTeeth) (hd : Kept c d.tracking)
    (op : DecoderOp) : Kept c (step d op).tracking := by
  cases op with
  | primaryEdge timestamp edge => exact hd.primaryStep hteeth (primaryStep_ingest d timestamp edge)
  | secondaryEdge edge => exact (tracking_ingestSecondaryEdge (d := d)).symm ▸ hd
  | secondaryLevel level => exact (tracking_ingestSecondaryLevel (d := d) level).symm ▸ hd
  | reset =>
    have hconfig : d.config = c := hd.config
    have hobserved : d.observedTeeth = c.nominalTeeth - c.missingTeeth := hd.observed
    have hreset : TrigCoherence.step d .reset = initial c (c.nominalTeeth - c.missingTeeth) := by
      rw [TrigCoherence.step, MissingToothDecoder.reset, hobserved, hconfig]
    exact hreset ▸ kept_initial

theorem kept_run (hnew : tryNew c = .ok d) (ops : List DecoderOp) :
    Kept c (run step d ops).tracking := by
  obtain ⟨-, -, hobserved, -, rfl⟩ := tryNew_ok hnew
  have hteeth : 1 ≤ c.nominalTeeth - c.missingTeeth := UInt8.le_trans (by decide) hobserved
  exact run_inv (I := fun d : MissingToothDecoder => Kept c d.tracking)
    (fun _ op hd => hd.step hteeth op) kept_initial ops

end kept

end MissingToothDecoder

end Pipoco.TrigDecoder
