import Pipoco.SemArbiter

/-!
Knock retard over whole runs.

The retard is worked out twice in an evaluation: for the trim, from the state before the arbiter,
and at the end of the arbiter, where it is stored. The arbiter ends early when it cuts, and then
only the trim sees the knock. This file compares both with one step of the knock controller of
the specification.
-/

namespace Pipoco.SemKnock

open Domain Runs SemFuel

variable {cal : RuntimeSemanticCalibration} {input : RuntimeSemanticInputSnapshot}
  {s next : RuntimeSemanticState} {obs : RuntimeSemanticFuelObservations}

/-! ### The specification -/

structure KnockState where
  retardDeg10 : Int16
  recoveryCounter : UInt16
  detected : Bool
  deriving DecidableEq

structure KnockResult where
  advanceTrimDeg10 : Int16
  knockActive : Bool
  nextState : KnockState
  deriving DecidableEq

def detected (cal : RuntimeSemanticCalibration) (input : RuntimeSemanticInputSnapshot) : Bool :=
  input.knockIntensityX100 ≥ cal.knockThresholdX100

/-- One step of the knock controller, from the retard and the counter it has kept. -/
def knockStep (cal : RuntimeSemanticCalibration) (input : RuntimeSemanticInputSnapshot)
    (retardDeg10 : Int16) (recoveryCounter : UInt16) : KnockResult :=
  let next : Int16 × UInt16 :=
    if detected cal input then
      let maxRetard := cal.knockRetardMaxDeg10.toInt16
      let raised := satInt16 (retardDeg10.toInt + cal.knockRetardStepDeg10.toInt16.toInt)
      (if raised > maxRetard then maxRetard else raised, 0)
    else if retardDeg10 > 0 then
      if recoveryCounter ≥ cal.knockRecoveryDelayCycles then
        let lowered := satInt16 (retardDeg10.toInt - cal.knockRecoveryStepDeg10.toInt16.toInt)
        (if lowered < 0 then 0 else lowered, 0)
      else (retardDeg10, satAdd16 recoveryCounter 1)
    else (retardDeg10, 0)
  { advanceTrimDeg10 := -next.1
    knockActive := next.1 > 0
    nextState := ⟨next.1, next.2, detected cal input⟩ }

/-- The ranges the specification validates. -/
structure KnockRanges (cal : RuntimeSemanticCalibration) : Prop where
  threshold : cal.knockThresholdX100.toNat ≤ 10000
  retardStep : cal.knockRetardStepDeg10.toNat ≤ 200
  retardMax : cal.knockRetardMaxDeg10.toNat ≤ 720
  recoveryStep : cal.knockRecoveryStepDeg10.toNat ≤ 200
  softRetard : cal.softRetardMaxDeg10.toNat ≤ 720

/-- A retard within its limits; without one nothing recovers. -/
structure Within (cal : RuntimeSemanticCalibration) (retard : Int16) (counter : UInt16) : Prop where
  low : 0 ≤ retard.toInt
  high : retard.toInt ≤ cal.knockRetardMaxDeg10.toNat
  idle : retard.toInt = 0 → counter = 0

section knockStep

variable {retard : Int16} {counter : UInt16} {retard' : Int16} {counter' : UInt16}

/-- The specification's step in exact integers. -/
inductive KnockSpec (cal : RuntimeSemanticCalibration) (input : RuntimeSemanticInputSnapshot)
    (retard : Int16) (counter : UInt16) (retard' : Int16) (counter' : UInt16) : Prop
  | raised (hdetected : detected cal input = true)
      (hretard : retard'.toInt =
        min (retard.toInt + cal.knockRetardStepDeg10.toNat) cal.knockRetardMaxDeg10.toNat)
      (hcounter : counter' = 0)
  | lowered (hdetected : detected cal input = false) (hpos : 0 < retard.toInt)
      (hdelay : cal.knockRecoveryDelayCycles ≤ counter)
      (hretard : retard'.toInt = max (retard.toInt - cal.knockRecoveryStepDeg10.toNat) 0)
      (hcounter : counter' = 0)
  | waits (hdetected : detected cal input = false) (hpos : 0 < retard.toInt)
      (hdelay : counter < cal.knockRecoveryDelayCycles) (hretard : retard' = retard)
      (hcounter : counter' = satAdd16 counter 1)
  | quiet (hdetected : detected cal input = false) (hzero : retard.toInt = 0)
      (hretard : retard' = retard) (hcounter : counter' = 0)

/-- Within the ranges the sums of the controllers do not saturate. -/
lemma toInt_moved (hcal : KnockRanges cal) (hw : Within cal retard counter) {step : UInt16}
    (hstep : step.toNat ≤ 200) :
    (satInt16 (retard.toInt + step.toInt16.toInt)).toInt = retard.toInt + step.toNat ∧
      (satInt16 (retard.toInt - step.toInt16.toInt)).toInt = retard.toInt - step.toNat := by
  have hmax := hcal.retardMax
  have hlow := hw.low
  have hhigh := hw.high
  rw [toInt_toInt16 (by omega)]
  exact ⟨toInt_satInt16 (by omega) (by omega), toInt_satInt16 (by omega) (by omega)⟩

lemma toInt_retardMax (hcal : KnockRanges cal) :
    cal.knockRetardMaxDeg10.toInt16.toInt = cal.knockRetardMaxDeg10.toNat :=
  toInt_toInt16 (lt_of_le_of_lt hcal.retardMax (by decide))

lemma toInt_capped (a b : Int16) : (if a > b then b else a).toInt = min a.toInt b.toInt := by
  split_ifs with h
  · exact (min_eq_right (Int16.lt_iff_toInt_lt.mp h).le).symm
  · exact (min_eq_left (Int.not_lt.mp fun hlt => h (Int16.lt_iff_toInt_lt.mpr hlt))).symm

lemma toInt_floored (a : Int16) : (if a < 0 then 0 else a).toInt = max a.toInt 0 := by
  split_ifs with h
  · exact (max_eq_right (Int16.lt_iff_toInt_lt.mp h).le).symm
  · exact (max_eq_left (Int.not_lt.mp fun hlt => h (Int16.lt_iff_toInt_lt.mpr hlt))).symm

lemma knockSpec_knockStep (hcal : KnockRanges cal) (hw : Within cal retard counter) :
    KnockSpec cal input retard counter (knockStep cal input retard counter).nextState.retardDeg10
      (knockStep cal input retard counter).nextState.recoveryCounter := by
  unfold knockStep
  cases hd : detected cal input with
  | true =>
    refine .raised hd ?_ rfl
    simp only [if_true, toInt_capped, (toInt_moved hcal hw hcal.retardStep).1, toInt_retardMax hcal]
  | false =>
    simp only [Bool.false_eq_true, if_false]
    by_cases hpos : retard > 0
    · have hpos' : 0 < retard.toInt := Int16.lt_iff_toInt_lt.mp hpos
      simp only [hpos, if_true]
      by_cases hdelay : counter ≥ cal.knockRecoveryDelayCycles
      · simp only [hdelay, if_true]
        refine .lowered hd hpos' hdelay ?_ rfl
        rw [toInt_floored, (toInt_moved hcal hw hcal.recoveryStep).2]
      · simp only [hdelay, if_false]
        exact .waits hd hpos' (UInt16.not_le.mp hdelay) rfl rfl
    · have hzero : retard.toInt = 0 := by
        have hnot : ¬ 0 < retard.toInt := fun h => hpos (Int16.lt_iff_toInt_lt.mpr h)
        exact le_antisymm (not_lt.mp hnot) hw.low
      simp only [hpos, if_false]
      exact .quiet hd hzero rfl rfl

lemma KnockSpec.within (h : KnockSpec cal input retard counter retard' counter')
    (hw : Within cal retard counter) : Within cal retard' counter' := by
  have hlow := hw.low
  have hhigh := hw.high
  cases h with
  | raised _ hretard hcounter | lowered _ _ _ hretard hcounter =>
    exact ⟨by omega, by omega, fun _ => hcounter⟩
  | waits _ hpos _ hretard _ => exact hretard ▸ ⟨hlow, hhigh, fun hzero => by omega⟩
  | quiet _ _ hretard hcounter => exact hretard ▸ ⟨hlow, hhigh, fun _ => hcounter⟩

variable (cal input) in
/-- Nothing is left to do for the controller: the retard can rise no further, or is off, or does
not recover. -/
def Steady (retard : Int16) (counter : UInt16) : Prop :=
  if detected cal input then
    counter = 0 ∧ (retard.toInt = cal.knockRetardMaxDeg10.toNat ∨ cal.knockRetardStepDeg10 = 0)
  else retard = 0 ∨ counter = 0 ∧ cal.knockRecoveryDelayCycles = 0 ∧ cal.knockRecoveryStepDeg10 = 0
  deriving Decidable

lemma steady_iff_of_quiet (hd : detected cal input = false) :
    Steady cal input retard counter ↔ retard.toInt = 0 ∨
      counter = 0 ∧ cal.knockRecoveryDelayCycles = 0 ∧ cal.knockRecoveryStepDeg10.toNat = 0 := by
  have hretard : retard = 0 ↔ retard.toInt = 0 := Int16.toInt_inj.symm
  have hstep : cal.knockRecoveryStepDeg10 = 0 ↔ cal.knockRecoveryStepDeg10.toNat = 0 :=
    UInt16.toNat_inj.symm
  rw [Steady, hd, if_neg Bool.false_ne_true, hretard, hstep]

lemma KnockSpec.same_iff (h : KnockSpec cal input retard counter retard' counter')
    (hw : Within cal retard counter) :
    (retard' = retard ∧ counter' = counter) ↔ Steady cal input retard counter := by
  have hhigh := hw.high
  cases h with
  | raised hd hretard hcounter =>
    have hstep : cal.knockRetardStepDeg10 = 0 ↔ cal.knockRetardStepDeg10.toNat = 0 :=
      UInt16.toNat_inj.symm
    rw [Steady, if_pos hd, hcounter, ← Int16.toInt_inj, hretard, hstep, and_comm,
      eq_comm (a := (0 : UInt16))]
    exact and_congr_right fun _ => by omega
  | lowered hd hpos hdelay hretard hcounter =>
    rw [steady_iff_of_quiet hd, or_iff_right hpos.ne', hcounter, ← Int16.toInt_inj, hretard]
    constructor
    · rintro ⟨hsame, rfl⟩
      exact ⟨rfl, UInt16.le_zero_iff.mp hdelay, by omega⟩
    · rintro ⟨hc, -, hrecovery⟩
      exact ⟨by omega, hc.symm⟩
  | waits hd hpos hdelay hretard hcounter =>
    rw [steady_iff_of_quiet hd, or_iff_right hpos.ne']
    refine iff_of_false (fun hsame => ?_) (fun hsteady => ?_)
    · exact satAdd16_one_ne hdelay (hcounter ▸ hsame.2)
    · rw [hsteady.2.1] at hdelay
      exact UInt16.not_lt_zero hdelay
  | quiet hd hzero hretard hcounter =>
    rw [steady_iff_of_quiet hd]
    exact iff_of_true ⟨hretard, hcounter.trans (hw.idle hzero).symm⟩ (.inl hzero)

end knockStep

/-! ### One evaluation -/

variable (cal input s) in
/-- The specification's step from the retard and the counter of a state. -/
def stepped : KnockState :=
  (knockStep cal input s.knockRetardDeg10 s.knockRecoveryCounter).nextState

variable (cal s) in
def Limited : Prop := Within cal s.knockRetardDeg10 s.knockRecoveryCounter

lemma within_stepped (hcal : KnockRanges cal) (hw : Limited cal s) :
    Within cal (stepped cal input s).retardDeg10 (stepped cal input s).recoveryCounter :=
  (knockSpec_knockStep hcal hw).within hw

lemma detected_iff :
    input.knockIntensityX100 ≥ cal.knockThresholdX100 ↔ detected cal input = true :=
  (decide_eq_true_iff).symm

lemma semanticKnockRetardForTrim_eq (hw : Limited cal s) :
    semanticKnockRetardForTrim cal input s.knockRetardDeg10 s.knockRecoveryCounter =
      (stepped cal input s).retardDeg10 := by
  unfold semanticKnockRetardForTrim stepped knockStep
  simp only [detected_iff]
  cases detected cal input with
  | true => rfl
  | false =>
    by_cases hpos : s.knockRetardDeg10 > 0
    · simp only [hpos, if_true]
      split_ifs <;> rfl
    · -- the trim writes a zero where the specification keeps the retard
      have hnot : ¬ 0 < s.knockRetardDeg10.toInt := fun h => hpos (Int16.lt_iff_toInt_lt.mpr h)
      simp only [hpos, if_false]
      exact Int16.toInt_inj.mp (le_antisymm hw.low (not_lt.mp hnot))

lemma raised_eq (hcal : KnockRanges cal) {retard : Int16} {counter : UInt16}
    (hw : Within cal retard counter) :
    let maxRetard := cal.knockRetardMaxDeg10.toInt16
    let raised := satInt16 (retard.toInt + cal.knockRetardStepDeg10.toInt16.toInt)
    (if retard < maxRetard then if raised > maxRetard then maxRetard else raised else retard) =
      if raised > maxRetard then maxRetard else raised := by
  intro maxRetard raised
  by_cases hbelow : retard < maxRetard
  · rw [if_pos hbelow]
  · have hle : cal.knockRetardMaxDeg10.toNat ≤ retard.toInt := by
      rw [← toInt_retardMax hcal]
      exact not_lt.mp fun hlt => hbelow (Int16.lt_iff_toInt_lt.mpr hlt)
    have hhigh := hw.high
    rw [if_neg hbelow, ← Int16.toInt_inj, toInt_capped, (toInt_moved hcal hw hcal.retardStep).1,
      toInt_retardMax hcal]
    omega

variable (input) in
lemma evaluateKnock_eq (hcal : KnockRanges cal) (hw : Limited cal s) :
    (evaluateKnock cal input s).knockRetardDeg10 = (stepped cal input s).retardDeg10 ∧
      (evaluateKnock cal input s).knockRecoveryCounter = (stepped cal input s).recoveryCounter := by
  unfold evaluateKnock stepped knockStep
  simp only [detected_iff]
  cases detected cal input with
  | true => exact ⟨raised_eq hcal hw, rfl⟩
  | false =>
    simp only [Bool.false_eq_true, if_false]
    split_ifs <;> exact ⟨rfl, rfl⟩

/-- No cut: the arbiter gets to the knock controller. -/
@[mk_iff]
structure Uncut (cal : RuntimeSemanticCalibration) (input : RuntimeSemanticInputSnapshot)
    (s : RuntimeSemanticState) : Prop extends PassesCycles cal input s where
  dfco : ¬ (input.mode = .running ∧ (evaluateDfco cal input s).dfcoActive = true)
  soft : softLimited cal input s.revSoftActive = false

instance : Decidable (Uncut cal input s) := decidable_of_iff' _ (uncut_iff cal input s)

/-- What an evaluation does to the stored retard and its counter. -/
inductive KnockStep (cal : RuntimeSemanticCalibration) (input : RuntimeSemanticInputSnapshot)
    (s : RuntimeSemanticState) (retard : Int16) (counter : UInt16) : Prop
  | stored (huncut : Uncut cal input s) (hretard : retard = (stepped cal input s).retardDeg10)
      (hcounter : counter = (stepped cal input s).recoveryCounter)
  | left (huncut : ¬ Uncut cal input s) (hretard : retard = s.knockRetardDeg10)
      (hcounter : counter = s.knockRecoveryCounter)

lemma dfcoActive_passed : (evaluateDfco cal input (passed s)).dfcoActive =
    (evaluateDfco cal input s).dfcoActive := by
  unfold evaluateDfco passed
  simp only
  split_ifs <;> rfl

lemma knockStep_arbitrated (hcal : KnockRanges cal) (hw : Limited cal s)
    {cut : RuntimeSemanticState} {fuel spark : Bool} (h : Arbitrated cal input s cut fuel spark) :
    KnockStep cal input s cut.knockRetardDeg10 cut.knockRecoveryCounter := by
  by_cases hpass : PassesCycles cal input s
  · obtain ⟨active, counter, hstage⟩ := dfcoStage_frame cal input (passed s)
    have hstaged := h.staged hpass
    rw [dfcoActive_passed, hstage] at hstaged
    rcases hstaged with ⟨hdfco, rfl⟩ | ⟨hdfco, ⟨hsoft, rfl⟩ | ⟨hsoft, rfl⟩⟩
    · exact .left (fun h => h.dfco hdfco) rfl rfl
    · exact .left (fun h => absurd (h.soft.symm.trans hsoft) Bool.false_ne_true) rfl rfl
    · have hstored := evaluateKnock_eq input hcal (s := { passed s with
        dfcoActive := active, dfcoQualifyCounter := counter, revSoftActive := false }) hw
      exact .stored ⟨hpass, hdfco, hsoft⟩ hstored.1 hstored.2
  · obtain ⟨launch, flat, safety, hard, rfl⟩ := h.early hpass
    exact .left (fun h => hpass h.toPassesCycles) rfl rfl

lemma uncut_evaluateAe_iff : Uncut cal input (evaluateAe cal input s) ↔ Uncut cal input s := by
  obtain ⟨pulse, remaining, active, hae⟩ := evaluateAe_frame cal input s
  have hdfco : (evaluateDfco cal input (evaluateAe cal input s)).dfcoActive =
      (evaluateDfco cal input s).dfcoActive := by
    rw [hae]
    unfold evaluateDfco
    simp only
    split_ifs <;> rfl
  have hsoft : (evaluateAe cal input s).revSoftActive = s.revSoftActive := by rw [hae]
  exact ⟨fun h => ⟨passesCycles_evaluateAe_iff.mp h.toPassesCycles, hdfco ▸ h.dfco, hsoft ▸ h.soft⟩,
    fun h => ⟨passesCycles_evaluateAe_iff.mpr h.toPassesCycles, hdfco.symm ▸ h.dfco,
      hsoft.symm ▸ h.soft⟩⟩

lemma knockStep_evaluated (hcal : KnockRanges cal) (hw : Limited cal s)
    (h : evaluated cal s input = some (obs, next)) :
    KnockStep cal input s next.knockRetardDeg10 next.knockRecoveryCounter := by
  obtain ⟨cut, count, lambda, idle, hcut, rfl⟩ := evaluated_state h
  obtain ⟨pulse, remaining, active, hae⟩ := evaluateAe_frame cal input s
  have huncut : Uncut cal input (evaluateAe cal input s) ↔ Uncut cal input s := uncut_evaluateAe_iff
  have hretard : (evaluateAe cal input s).knockRetardDeg10 = s.knockRetardDeg10 := by rw [hae]
  have hcounter : (evaluateAe cal input s).knockRecoveryCounter = s.knockRecoveryCounter := by
    rw [hae]
  have hstepped : stepped cal input (evaluateAe cal input s) = stepped cal input s := by
    rw [hae]
    rfl
  cases knockStep_arbitrated hcal (by rwa [Limited, hretard, hcounter]) hcut with
  | stored hu hr hc => exact .stored (huncut.mp hu) (hstepped ▸ hr) (hstepped ▸ hc)
  | left hu hr hc => exact .left (huncut.not.mp hu) (hr.trans hretard) (hc.trans hcounter)

variable (cal input next) in
/-- The part of the trim that is not of the knock controller. -/
def softTrim : ℤ :=
  if softLimited cal input next.revSoftActive then -cal.softRetardMaxDeg10.toNat else 0

/-- Within the ranges nothing of the trim is cut off, so its parts add up. -/
lemma trim_evaluated (hcal : KnockRanges cal) (hw : Limited cal s)
    (h : evaluated cal s input = some (obs, next)) :
    obs.advanceDeg10Trim.toInt =
      softTrim cal input next - (stepped cal input s).retardDeg10.toInt := by
  obtain ⟨cut, -, hpair⟩ := evaluated_cases h
  obtain ⟨pulse, remaining, active, hae⟩ := evaluateAe_frame cal input s
  have hnext : next.revSoftActive = cut.revSoftActive :=
    congrArg (fun result => result.2.revSoftActive) hpair
  have htrim : obs.advanceDeg10Trim = satInt16
      ((if softLimited cal input cut.revSoftActive = true then -cal.softRetardMaxDeg10.toInt16
        else 0).toInt - (semanticKnockRetardForTrim cal input
          (evaluateAe cal input s).knockRetardDeg10
          (evaluateAe cal input s).knockRecoveryCounter).toInt) :=
    congrArg (fun result => result.1.advanceDeg10Trim) hpair
  have hretard : semanticKnockRetardForTrim cal input (evaluateAe cal input s).knockRetardDeg10
      (evaluateAe cal input s).knockRecoveryCounter = (stepped cal input s).retardDeg10 := by
    rw [hae]
    exact semanticKnockRetardForTrim_eq hw
  have hsoft : (if softLimited cal input cut.revSoftActive = true then
      -cal.softRetardMaxDeg10.toInt16 else 0).toInt = softTrim cal input next := by
    have hmax := hcal.softRetard
    rw [softTrim, hnext]
    split_ifs
    · rw [Int16.toInt_neg, toInt_toInt16 (by omega), Int.bmod_eq_of_le (by omega) (by omega)]
    · rfl
  have hbounds : -720 ≤ softTrim cal input next ∧ softTrim cal input next ≤ 0 := by
    have hmax := hcal.softRetard
    unfold softTrim
    split_ifs <;> omega
  have hmax := hcal.retardMax
  have hlow : 0 ≤ (stepped cal input s).retardDeg10.toInt := (within_stepped hcal hw).low
  have hhigh : (stepped cal input s).retardDeg10.toInt ≤ cal.knockRetardMaxDeg10.toNat :=
    (within_stepped hcal hw).high
  rw [htrim, hretard, hsoft, toInt_satInt16 (by omega) (by omega)]

/-! ### Runs -/

variable (cal s)

/-- The knock part of the trim is the retard that is stored, which is within its limits, and is,
with its counter, what the specification makes of those before. -/
def Remembered (input : RuntimeSemanticInputSnapshot) : Prop :=
  ∀ obs next, evaluated cal s input = some (obs, next) →
    obs.advanceDeg10Trim.toInt = softTrim cal input next - next.knockRetardDeg10.toInt ∧
    (0 ≤ next.knockRetardDeg10.toInt ∧
      next.knockRetardDeg10.toInt ≤ cal.knockRetardMaxDeg10.toNat) ∧
    next.knockRetardDeg10 = (stepped cal input s).retardDeg10 ∧
    next.knockRecoveryCounter = (stepped cal input s).recoveryCounter

/-- Nothing cuts, or the controller has nothing to do. -/
def Undropped (input : RuntimeSemanticInputSnapshot) : Prop :=
  (evaluated cal s input).isSome →
    Uncut cal input s ∨ Steady cal input s.knockRetardDeg10 s.knockRecoveryCounter
  deriving Decidable

variable {cal s}

lemma remembered_iff (hcal : KnockRanges cal) (hs : Limited cal s) :
    Remembered cal s input ↔ Undropped cal s input := by
  refine forall_evaluated_iff fun obs next heval => ?_
  cases knockStep_evaluated hcal hs heval with
  | stored huncut hretard hcounter =>
    refine iff_of_true ?_ (.inl huncut)
    rw [hretard, hcounter]
    exact ⟨trim_evaluated hcal hs heval,
      ⟨(within_stepped hcal hs).low, (within_stepped hcal hs).high⟩, rfl, rfl⟩
  | left huncut hretard hcounter =>
    have hsame : ((stepped cal input s).retardDeg10 = s.knockRetardDeg10 ∧
        (stepped cal input s).recoveryCounter = s.knockRecoveryCounter) ↔
        Steady cal input s.knockRetardDeg10 s.knockRecoveryCounter :=
      (knockSpec_knockStep hcal hs).same_iff hs
    rw [or_iff_right huncut, ← hsame, hretard, hcounter]
    constructor
    · rintro ⟨-, -, hr, hc⟩
      exact ⟨hr.symm, hc.symm⟩
    · rintro ⟨hr, hc⟩
      refine ⟨?_, ⟨hs.low, hs.high⟩, hr.symm, hc.symm⟩
      rw [← hr]
      exact trim_evaluated hcal hs heval

lemma Limited.step (hcal : KnockRanges cal) (hs : Limited cal s) (h : Remembered cal s input) :
    Limited cal (carried cal s input) := by
  refine carried_inv hs fun obs next heval => ?_
  obtain ⟨-, -, hretard, hcounter⟩ := h obs next heval
  unfold Limited
  rw [hretard, hcounter]
  exact within_stepped hcal hs

/-- **Whether the retard applied is remembered.** In every run from the default state, of a
calibration within the validated ranges: the knock part of the trim is the retard that is stored,
which keeps its limits and follows the specification, at every evaluation, exactly if at every
evaluation nothing cuts or the knock controller has nothing to do. -/
theorem retard_remembered_iff {cal : RuntimeSemanticCalibration} (hcal : KnockRanges cal)
    {inputs : List RuntimeSemanticInputSnapshot} :
    Along (carried cal) (Remembered cal) {} inputs ↔
      Along (carried cal) (Undropped cal) {} inputs :=
  along_iff_of_inv (I := Limited cal) (L := fun _ _ => True)
    (fun _ _ hs _ => remembered_iff hcal hs) (fun _ _ hs _ h => hs.step hcal h)
    ⟨le_refl (0 : ℤ), Int.natCast_nonneg _, fun _ => rfl⟩ along_true

def knocking (rpm : Rpm) : RuntimeSemanticInputSnapshot :=
  { cruising rpm 3000 400 with knockIntensityX100 := 300 }

/-- One knock and a recovery: the retard waits for two steps and then comes back. -/
theorem retard_remembered_iff_recovery :
    (run (carried roadCalibration) {} [knocking 3000, cruising 3000 3000 400,
      cruising 3000 3000 400, cruising 3000 3000 400]).knockRetardDeg10 = 10 ∧
      Along (carried roadCalibration) (Remembered roadCalibration) {} [knocking 3000,
        cruising 3000 3000 400, cruising 3000 3000 400, cruising 3000 3000 400] :=
  ⟨by decide +kernel, (retard_remembered_iff ⟨by decide, by decide, by decide, by decide,
    by decide⟩).mpr (by decide +kernel)⟩

/-- Knock while the soft limit cuts the spark: the trim takes two degrees of knock retard beside
the five of the limit, and none are stored. -/
theorem knock_under_cut_is_forgotten :
    ((evaluated roadCalibration {} (knocking 5600)).map fun result =>
      (result.1.sparkCut, result.1.advanceDeg10Trim, softTrim roadCalibration (knocking 5600)
        result.2, result.2.knockRetardDeg10)) = some (true, -70, -50, 0) ∧
      (knockStep roadCalibration (knocking 5600) 0 0).nextState.retardDeg10 = 20 := by
  decide +kernel

end Pipoco.SemKnock
