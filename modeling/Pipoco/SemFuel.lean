import Pipoco.Domain

/-!
The semantic fuel evaluator: table lookups, corrections, the cut arbiter and the two
closed-loop controllers, over one step.

Lookups and corrections are exact in wider integers and cut to the width of the source where the
source casts. Two remainders of the arbiter divide by a configured count plus one, which is zero
for the largest count; the evaluator returns `none` there.
-/

namespace Pipoco.SemFuel

open Domain

/-! ### Tables and curves -/

def runtimeSemanticTableLen : ℕ := 16

structure RuntimeSemanticAxis16 where
  len : UInt8
  values : Vector UInt16 16
  deriving DecidableEq

structure RuntimeSemanticTable2dU16 where
  (rpmAxis loadAxis : RuntimeSemanticAxis16)
  /-- Indexed by load, then by rpm. -/
  values : Vector (Vector UInt16 16) 16
  deriving DecidableEq

structure RuntimeSemanticDeadtimeTableU16 where
  (vbatMvAxis pressureKpa10Axis : RuntimeSemanticAxis16)
  values : Vector (Vector UInt16 16) 16
  deriving DecidableEq

structure RuntimeSemanticCurve16U16 where
  axis : RuntimeSemanticAxis16
  values : Vector UInt16 16
  deriving DecidableEq

/-- An array read. The lengths that reach a lookup are validated, so no index is out of range. -/
def cell {α : Type} [Inhabited α] (v : Vector α 16) (i : ℕ) : α := v.toList.getD i default

lemma cell_eq_getElem {α : Type} [Inhabited α] (v : Vector α 16) {i : ℕ} (h : i < 16) :
    cell v i = v[i] := by
  have hlen : i < v.toList.length := by simpa using h
  rw [cell, List.getD_eq_getElem?_getD, List.getElem?_eq_getElem hlen, Option.getD_some,
    Vector.getElem_toList]

def clampU16 (value lo hi : UInt16) : UInt16 :=
  if value < lo then lo else if value > hi then hi else value

/-- A quotient that is zero when the divisor is. -/
def mulDivFloorU64 (num mul div : ℕ) : ℕ := num * mul / div

def mulRatioX1000Floor (value ratioX1000 : UInt32) : UInt32 :=
  UInt32.ofNat (value.toNat * ratioX1000.toNat / 1000)

variable (axis : RuntimeSemanticAxis16)

/-- Segments are closed on the left and open on the right; the last one is closed on both. -/
def semanticFindSegment (x : UInt16) : ℕ :=
  let len := axis.len.toNat
  if len < 2 then 0
  else
    let clipped := clampU16 x (cell axis.values 0) (cell axis.values (len - 1))
    ((List.range (len - 1)).find? fun idx =>
      let lo := cell axis.values idx
      let hi := cell axis.values (idx + 1)
      clipped ≥ lo && (clipped < hi || (idx + 1 = len - 1 && clipped = hi))).getD (len - 2)

/-- The quotient rounded down: the truncated one, less one for an inexact negative product. -/
def floorDiv (product den : ℤ) : ℤ :=
  product.tdiv den + if product < 0 ∧ product.tmod den ≠ 0 then -1 else 0

def semanticLerpU16 (x0 x1 y0 y1 x : UInt16) : UInt32 :=
  if x1 ≤ x0 then y0.toUInt32
  else
    let xClip := clampU16 x x0 x1
    let num : ℤ := (xClip - x0).toNat
    let den : ℤ := (x1 - x0).toNat
    let delta : ℤ := (y1.toNat : ℤ) - y0.toNat
    UInt32.ofInt (y0.toNat + floorDiv (delta * num) den)

def semanticBilerpU16 (table : RuntimeSemanticTable2dU16) (rpm load : UInt16) : UInt32 :=
  let lenRpm := table.rpmAxis.len.toNat
  let lenLoad := table.loadAxis.len.toNat
  if lenRpm < 2 || lenLoad < 2 then (cell (cell table.values 0) 0).toUInt32
  else
    let rpmIdx := semanticFindSegment table.rpmAxis rpm
    let loadIdx := semanticFindSegment table.loadAxis load
    let rpmNext := min (rpmIdx + 1) (lenRpm - 1)
    let loadNext := min (loadIdx + 1) (lenLoad - 1)
    let rpmLo := cell table.rpmAxis.values rpmIdx
    let rpmHi := cell table.rpmAxis.values rpmNext
    let v00 := cell (cell table.values loadIdx) rpmIdx
    let v01 := cell (cell table.values loadNext) rpmIdx
    let v10 := cell (cell table.values loadIdx) rpmNext
    let v11 := cell (cell table.values loadNext) rpmNext
    let interpLo := semanticLerpU16 rpmLo rpmHi v00 v10 rpm
    let interpHi := semanticLerpU16 rpmLo rpmHi v01 v11 rpm
    semanticLerpU16 (cell table.loadAxis.values loadIdx) (cell table.loadAxis.values loadNext)
      interpLo.toUInt16 interpHi.toUInt16 load

def semanticDeadtimeLookupUs (table : RuntimeSemanticDeadtimeTableU16)
    (vbatMv pressureKpa10 : UInt16) : UInt32 :=
  semanticBilerpU16 ⟨table.vbatMvAxis, table.pressureKpa10Axis, table.values⟩ vbatMv pressureKpa10

def semanticCurveLookup (curve : RuntimeSemanticCurve16U16) (x : UInt16) : UInt32 :=
  let len := curve.axis.len.toNat
  if len < 2 then (cell curve.values 0).toUInt32
  else
    let idx := semanticFindSegment curve.axis x
    let nextIdx := min (idx + 1) (len - 1)
    semanticLerpU16 (cell curve.axis.values idx) (cell curve.axis.values nextIdx)
      (cell curve.values idx) (cell curve.values nextIdx) x

/-! ### Calibration, input and state -/

inductive RuntimeSemanticFuelError
  | axisLenInvalid | axisNotStrictlyIncreasing | zeroPrefKpa | zeroTargetAfr
  | correctionRangeInvalid
  deriving DecidableEq, Repr

inductive RuntimeSemanticEngineMode
  | off | cranking | running | shutdown
  deriving DecidableEq, Repr

structure RuntimeSemanticCalibration where
  (veTable afrTargetTable : RuntimeSemanticTable2dU16)
  deadtimeTableUs : RuntimeSemanticDeadtimeTableU16
  (cltCorrCurve iatCorrCurve baroCorrCurve vbatCorrCurve crankingCurve : RuntimeSemanticCurve16U16)
  afterstartTable : RuntimeSemanticTable2dU16
  (warmupCurve aeTpsThresholdCurve aeMapThresholdCurve aeShotCurveUs : RuntimeSemanticCurve16U16)
  (aeDecayStepsCurve aeDecayRatioCurveX1000 : RuntimeSemanticCurve16U16)
  requiredFuelUs : UInt32
  (prefKpa10 stoichAfrX100 : UInt16)
  pwMaxUs : UInt32
  (afterstartWindowCycles dfcoEntryRpm dfcoExitRpm dfcoEntryTpsX100 dfcoExitTpsX100 : UInt16)
  (dfcoEntryMapKpa10 dfcoDelayCycles softRevRpm hardRevRpm revHysteresisRpm : UInt16)
  (softRetardMaxDeg10 idleTargetRpm idleBaseDutyX1000 idleKpX1000 idleKiX1000 launchRpmLimit : UInt16)
  (launchCutCycles flatShiftRpmMin flatShiftCutCycles knockThresholdX100 : UInt16)
  (knockRetardStepDeg10 knockRetardMaxDeg10 knockRecoveryStepDeg10 knockRecoveryDelayCycles : UInt16)
  (lambdaKpX1000 lambdaKiX1000 : UInt16)

structure RuntimeSemanticInputSnapshot where
  tUs : Micros
  rpm : Rpm
  (mapKpa10 loadKpa10 : Kpa10)
  tpsX100 : UInt16
  (cltC10 iatC10 : Int16)
  baroKpa10 : Kpa10
  vbattMv : UInt16
  lambdaValid : Bool
  lambdaMeasured : Lambda100
  requestedOpenLoop : Bool
  knockIntensityX100 : UInt16
  (launchArmed flatShiftArmed : Bool)
  sync : SyncState
  (fuelCut sparkCut directFuelCutRequest directSparkCutRequest safetyLatchRequest : Bool)
  mode : RuntimeSemanticEngineMode
  targetAfrOverrideX100 : Option UInt16
  deriving DecidableEq

structure RuntimeSemanticState where
  afterstartCycleCount : UInt32 := 0
  lastValidLoadKpa10 : UInt16 := 0
  lastValidMapKpa10 : UInt16 := 0
  aeActive : Bool := false
  aePulseUs : UInt32 := 0
  aeDecayStepsRemaining : UInt16 := 0
  idleIntegratorAcc : Int32 := 0
  lambdaIntegratorAcc : Int32 := 0
  dfcoActive : Bool := false
  dfcoQualifyCounter : UInt16 := 0
  revSoftActive : Bool := false
  revHardActive : Bool := false
  safetyLatched : Bool := false
  sensorPlausibilityLatched : Bool := false
  launchActive : Bool := false
  launchCutCycleCount : UInt16 := 0
  flatShiftActive : Bool := false
  flatShiftCutCycleCount : UInt16 := 0
  knockRetardDeg10 : Int16 := 0
  knockRecoveryCounter : UInt16 := 0
  deriving DecidableEq

structure RuntimeSemanticPiIntegratorState where
  (acc minAcc maxAcc : Int32)
  frozen : Bool
  deriving DecidableEq

structure RuntimeSemanticFuelObservations where
  (vePctX100 targetAfrX100 : UInt16)
  (pwBaseUs pwAirUs pwCorrUs : UInt32)
  warmupCorrX1000 : UInt16
  (fuelCut sparkCut : Bool)
  lambdaCorrectionX1000 : UInt16
  lambdaIntegratorState : RuntimeSemanticPiIntegratorState
  idleDutyX1000 : UInt16
  idleIntegratorState : RuntimeSemanticPiIntegratorState
  advanceDeg10Trim : Int16
  deriving DecidableEq

def validateAxis : Except RuntimeSemanticFuelError Unit :=
  let len := axis.len.toNat
  if ¬ (2 ≤ len ∧ len ≤ runtimeSemanticTableLen) then .error .axisLenInvalid
  else if (List.range (len - 1)).any fun idx =>
      cell axis.values idx ≥ cell axis.values (idx + 1) then .error .axisNotStrictlyIncreasing
  else .ok ()

variable (cal : RuntimeSemanticCalibration)

/-- The axes in the order in which they are validated. -/
def RuntimeSemanticCalibration.axes : List RuntimeSemanticAxis16 :=
  [cal.veTable.rpmAxis, cal.veTable.loadAxis, cal.afrTargetTable.rpmAxis,
    cal.afrTargetTable.loadAxis, cal.deadtimeTableUs.vbatMvAxis,
    cal.deadtimeTableUs.pressureKpa10Axis, cal.cltCorrCurve.axis, cal.iatCorrCurve.axis,
    cal.baroCorrCurve.axis, cal.vbatCorrCurve.axis, cal.crankingCurve.axis,
    cal.afterstartTable.rpmAxis, cal.afterstartTable.loadAxis, cal.warmupCurve.axis,
    cal.aeTpsThresholdCurve.axis, cal.aeMapThresholdCurve.axis, cal.aeShotCurveUs.axis,
    cal.aeDecayStepsCurve.axis, cal.aeDecayRatioCurveX1000.axis]

def validateCalibration : Except RuntimeSemanticFuelError Unit := cal.axes.forM validateAxis

/-! ### Acceleration enrichment -/

variable (input : RuntimeSemanticInputSnapshot) (state : RuntimeSemanticState)

/-- The loads of the last valid step are read here and written nowhere. -/
def evaluateAe : RuntimeSemanticState :=
  let absLoadDelta := ((input.loadKpa10.toNat : ℤ) - state.lastValidLoadKpa10.toNat).natAbs
  let absMapDelta := ((input.mapKpa10.toNat : ℤ) - state.lastValidMapKpa10.toNat).natAbs
  if absLoadDelta ≥ (semanticCurveLookup cal.aeTpsThresholdCurve input.rpm).toNat ||
      absMapDelta ≥ (semanticCurveLookup cal.aeMapThresholdCurve input.loadKpa10).toNat then
    { state with
      aePulseUs := semanticCurveLookup cal.aeShotCurveUs input.loadKpa10
      aeDecayStepsRemaining := (semanticCurveLookup cal.aeDecayStepsCurve input.loadKpa10).toUInt16
      aeActive := true }
  else if state.aeDecayStepsRemaining > 0 then
    let decayIndex := state.aeDecayStepsRemaining - 1
    { state with
      aePulseUs := mulRatioX1000Floor state.aePulseUs
        (semanticCurveLookup cal.aeDecayRatioCurveX1000 decayIndex)
      aeDecayStepsRemaining := decayIndex }
  else { state with aePulseUs := 0, aeActive := false }

/-! ### The cut arbiter -/

def latchWithHysteresis (current : Bool) (value threshold hysteresis : UInt16) : Bool :=
  if current then value > satSub16 threshold hysteresis else value ≥ threshold

/-- The safety latch holds itself; it clears in mode `off` when nothing asks for it. -/
def latchSafety : RuntimeSemanticState :=
  if state.safetyLatched then
    if input.mode = .off && !input.fuelCut && !input.sparkCut && !input.safetyLatchRequest then
      { state with safetyLatched := false }
    else state
  else if input.fuelCut || input.sparkCut || input.mode = .shutdown || input.safetyLatchRequest then
    { state with safetyLatched := true }
  else state

/-- Whether an armed cycle cut is in its cut phase; `none` where the source divides by zero. -/
def cutPhase (armed : Bool) (cutCycles cycleCount : UInt16) : Option Bool :=
  if !armed then some false
  else if cutCycles = 0 then some true
  else if cutCycles + 1 = 0 then none
  else some (cycleCount % (cutCycles + 1) < cutCycles)

/-- Deceleration fuel cut. The counter is left alone while the cut is active. -/
def evaluateDfco : RuntimeSemanticState :=
  if state.dfcoActive then
    { state with
      dfcoActive := input.rpm > cal.dfcoExitRpm && input.tpsX100 ≤ cal.dfcoExitTpsX100 }
  else if input.rpm ≥ cal.dfcoEntryRpm && input.tpsX100 ≤ cal.dfcoEntryTpsX100 &&
      input.mapKpa10 ≤ cal.dfcoEntryMapKpa10 then
    let counter := satAdd16 state.dfcoQualifyCounter 1
    { state with
      dfcoQualifyCounter := counter
      dfcoActive := counter ≥ cal.dfcoDelayCycles }
  else { state with dfcoQualifyCounter := 0 }

def evaluateKnock : RuntimeSemanticState :=
  let maxRetard := cal.knockRetardMaxDeg10.toInt16
  if input.knockIntensityX100 ≥ cal.knockThresholdX100 then
    let raised := satInt16 (state.knockRetardDeg10.toInt + cal.knockRetardStepDeg10.toInt16.toInt)
    { state with
      knockRecoveryCounter := 0
      knockRetardDeg10 :=
        if state.knockRetardDeg10 < maxRetard then
          if raised > maxRetard then maxRetard else raised
        else state.knockRetardDeg10 }
  else if state.knockRetardDeg10 > 0 then
    if state.knockRecoveryCounter ≥ cal.knockRecoveryDelayCycles then
      let lowered :=
        satInt16 (state.knockRetardDeg10.toInt - cal.knockRecoveryStepDeg10.toInt16.toInt)
      { state with
        knockRetardDeg10 := if lowered < 0 then 0 else lowered
        knockRecoveryCounter := 0 }
    else { state with knockRecoveryCounter := satAdd16 state.knockRecoveryCounter 1 }
  else { state with knockRecoveryCounter := 0 }

/-- The arbiter below the safety latch, highest priority first. -/
def evaluateLimiters : Option (RuntimeSemanticState × Bool × Bool) :=
  let hard := { state with
    revHardActive :=
      latchWithHysteresis state.revHardActive input.rpm cal.hardRevRpm cal.revHysteresisRpm }
  if hard.revHardActive then some (hard, true, true)
  else
    match cutPhase (input.launchArmed && input.rpm ≥ cal.launchRpmLimit) cal.launchCutCycles
        hard.launchCutCycleCount with
    | none => none
    | some true => some ({ hard with launchActive := true }, true, true)
    | some false =>
      match cutPhase (input.flatShiftArmed && input.rpm ≥ cal.flatShiftRpmMin)
          cal.flatShiftCutCycles hard.flatShiftCutCycleCount with
      | none => none
      | some true => some ({ hard with flatShiftActive := true }, true, true)
      | some false =>
        let dfco := if input.mode = .running then evaluateDfco cal input hard else hard
        if input.mode = .running && dfco.dfcoActive then some (dfco, true, false)
        else
          let soft := { dfco with
            revSoftActive :=
              latchWithHysteresis dfco.revSoftActive input.rpm cal.softRevRpm cal.revHysteresisRpm }
          if soft.revSoftActive then some (soft, false, true)
          else some (evaluateKnock cal input soft, false, false)

/-- The cut flags. A direct request is answered before the safety latch is looked at. -/
def evaluateCutArbitration : Option (RuntimeSemanticState × Bool × Bool) :=
  let cleared := { state with launchActive := false, flatShiftActive := false }
  if input.directFuelCutRequest || input.directSparkCutRequest then
    some (cleared, input.directFuelCutRequest, input.directSparkCutRequest)
  else
    let latched := latchSafety input cleared
    if latched.safetyLatched then some (latched, true, true)
    else evaluateLimiters cal input latched

def semanticKnockRetardForTrim (currentRetardDeg10 : Int16) (recoveryCounter : UInt16) : Int16 :=
  if input.knockIntensityX100 ≥ cal.knockThresholdX100 then
    let maxRetard := cal.knockRetardMaxDeg10.toInt16
    let next := satInt16 (currentRetardDeg10.toInt + cal.knockRetardStepDeg10.toInt16.toInt)
    if next > maxRetard then maxRetard else next
  else if currentRetardDeg10 > 0 then
    if recoveryCounter ≥ cal.knockRecoveryDelayCycles then
      let next := satInt16 (currentRetardDeg10.toInt - cal.knockRecoveryStepDeg10.toInt16.toInt)
      if next < 0 then 0 else next
    else currentRetardDeg10
  else 0

/-! ### The closed-loop controllers -/

variable (value : Int32)

/-- The limits one controller is configured with. -/
structure PiLimits where
  (deadband minAcc maxAcc : Int32)
  (minOut maxOut : UInt16)

def lambdaLimits : PiLimits := ⟨10, -2000, 2000, 750, 1250⟩

def idleLimits : PiLimits := ⟨20, -2000, 2000, 0, 1000⟩

def semanticAbsI32 : Int32 := if value < 0 then satInt32 (-value.toInt) else value

variable (limits : PiLimits)

def effectiveError (raw : Int32) : Int32 := if semanticAbsI32 raw ≤ limits.deadband then 0 else raw

def semanticI32ToU16Saturating : UInt16 :=
  if value < 0 then 0 else if value > 65535 then 65535 else UInt16.ofInt value.toInt

def semanticMulDivFloorI32 (numer factor denom : Int32) : Int32 :=
  if denom = 0 then 0 else Int32.ofInt (floorDiv (numer.toInt * factor.toInt) denom.toInt)

/-- One step of a controller around the neutral output `base`. The sums are in 32 bits. -/
def piStep (base error : Int32) (kpX1000 kiX1000 : UInt16) (freezeGate : Bool) (acc : Int32) :
    UInt16 × RuntimeSemanticPiIntegratorState :=
  let pTerm := semanticMulDivFloorI32 error kpX1000.toUInt32.toInt32 1000
  let iStep := semanticMulDivFloorI32 error kiX1000.toUInt32.toInt32 1000
  let outPre := base + pTerm + acc
  let antiWindup := (outPre ≤ limits.minOut.toUInt32.toInt32 && iStep < 0) ||
    (outPre ≥ limits.maxOut.toUInt32.toInt32 && iStep > 0)
  let freeze := freezeGate || antiWindup
  let accNext :=
    if freeze then acc
    else max limits.minAcc (min (satInt32 (acc.toInt + iStep.toInt)) limits.maxAcc)
  let out := semanticI32ToU16Saturating (base + pTerm + accNext)
  (clampU16 out limits.minOut limits.maxOut, ⟨accNext, limits.minAcc, limits.maxAcc, freeze⟩)

def runtimeSemanticLambdaStep (targetAfrX100 : UInt32) (fuelCut sparkCut : Bool)
    (lambdaIntegratorAcc : Int32) (aeActiveAfterEval : Bool) :
    UInt16 × RuntimeSemanticPiIntegratorState :=
  if !input.lambdaValid || input.requestedOpenLoop then
    (1000, ⟨lambdaIntegratorAcc, lambdaLimits.minAcc, lambdaLimits.maxAcc, true⟩)
  else
    let targetLambdaX1000 :=
      if targetAfrX100 = 0 then 1000
      else Int32.ofNat (mulDivFloorU64 cal.stoichAfrX100.toNat 1000 targetAfrX100.toNat)
    let measuredLambdaX1000 := input.lambdaMeasured.toUInt32.toInt32 * 10
    let error := effectiveError lambdaLimits (targetLambdaX1000 - measuredLambdaX1000)
    piStep lambdaLimits 1000 error cal.lambdaKpX1000 cal.lambdaKiX1000
      (input.cltC10 < 700 || aeActiveAfterEval || fuelCut || sparkCut) lambdaIntegratorAcc

def runtimeSemanticIdleStep (fuelCut sparkCut : Bool) (idleIntegratorAcc : Int32)
    (aeActiveBeforeEval : Bool) : UInt16 × RuntimeSemanticPiIntegratorState :=
  let error := effectiveError idleLimits
    (cal.idleTargetRpm.toUInt32.toInt32 - input.rpm.toUInt32.toInt32)
  piStep idleLimits cal.idleBaseDutyX1000.toUInt32.toInt32 error cal.idleKpX1000 cal.idleKiX1000
    (input.cltC10 < 700 || aeActiveBeforeEval || fuelCut || sparkCut) idleIntegratorAcc

/-! ### The evaluator -/

def targetAfrX100 : UInt32 :=
  match input.targetAfrOverrideX100 with
  | some v => (clampU16 v 500 3000).toUInt32
  | none => semanticBilerpU16 cal.afrTargetTable input.rpm input.loadKpa10

/-- A temperature as a table coordinate: negative ones count as zero. -/
def axisTemperature (c10 : Int16) : UInt16 := (max c10 0).toUInt16

/-- The correction factors, in the order in which they are applied. -/
def corrections (afterstartCycleCount : UInt32) (lambdaCorrectionX1000 : UInt16) : List UInt32 :=
  let clt := axisTemperature input.cltC10
  let window := cal.afterstartWindowCycles.toUInt32
  let afterstartActive := input.mode = .running && window ≠ 0 && afterstartCycleCount < window
  [if input.mode = .cranking then semanticCurveLookup cal.crankingCurve clt else 1000,
    if afterstartActive then
      semanticBilerpU16 cal.afterstartTable (min afterstartCycleCount 65535).toUInt16 clt
    else 1000,
    semanticCurveLookup cal.warmupCurve clt,
    semanticCurveLookup cal.cltCorrCurve clt,
    semanticCurveLookup cal.iatCorrCurve (axisTemperature input.iatC10),
    semanticCurveLookup cal.baroCorrCurve input.baroKpa10,
    semanticCurveLookup cal.vbatCorrCurve input.vbattMv,
    UInt32.ofNat (mulDivFloorU64 cal.stoichAfrX100.toNat 1000 (targetAfrX100 cal input).toNat),
    lambdaCorrectionX1000.toUInt32,
    1000]

def nextAfterstartCycleCount (count : UInt32) : UInt32 :=
  let window := cal.afterstartWindowCycles.toUInt32
  if input.mode = .running then if window = 0 then 0 else min (satAdd32 count 1) window else 0

/-- Everything that follows once the arbiter has answered. -/
def completeEvaluation (before ae cut : RuntimeSemanticState) (fuelCut sparkCut : Bool) :
    RuntimeSemanticFuelObservations × RuntimeSemanticState :=
  let vePctX100 := semanticBilerpU16 cal.veTable input.rpm input.loadKpa10
  let afr := targetAfrX100 cal input
  let pwBaseUs := UInt32.ofNat (mulDivFloorU64 cal.requiredFuelUs.toNat vePctX100.toNat 10000)
  let pwAirUs :=
    UInt32.ofNat (mulDivFloorU64 pwBaseUs.toNat input.mapKpa10.toNat cal.prefKpa10.toNat)
  let lambda := runtimeSemanticLambdaStep cal input afr fuelCut sparkCut cut.lambdaIntegratorAcc
    ae.aeActive
  let idle := runtimeSemanticIdleStep cal input fuelCut sparkCut cut.idleIntegratorAcc
    before.aeActive
  let corrected :=
    (corrections cal input before.afterstartCycleCount lambda.1).foldl mulRatioX1000Floor pwAirUs
  let pw := satAdd32 (satAdd32 corrected cut.aePulseUs)
    (semanticDeadtimeLookupUs cal.deadtimeTableUs input.vbattMv input.baroKpa10)
  let softRevTrim : Int16 :=
    if latchWithHysteresis cut.revSoftActive input.rpm cal.softRevRpm cal.revHysteresisRpm then
      -cal.softRetardMaxDeg10.toInt16
    else 0
  let knockRetard :=
    semanticKnockRetardForTrim cal input ae.knockRetardDeg10 ae.knockRecoveryCounter
  ({ vePctX100 := vePctX100.toUInt16
     targetAfrX100 := afr.toUInt16
     pwBaseUs := pwBaseUs
     pwAirUs := pwAirUs
     pwCorrUs := if fuelCut || input.fuelCut then 0 else min pw cal.pwMaxUs
     warmupCorrX1000 :=
       (min (semanticCurveLookup cal.warmupCurve (axisTemperature input.cltC10)) 65535).toUInt16
     fuelCut := fuelCut
     sparkCut := sparkCut
     lambdaCorrectionX1000 := lambda.1
     lambdaIntegratorState := lambda.2
     idleDutyX1000 := idle.1
     idleIntegratorState := idle.2
     advanceDeg10Trim := satInt16 (softRevTrim.toInt - knockRetard.toInt) },
   { cut with
     afterstartCycleCount := nextAfterstartCycleCount cal input before.afterstartCycleCount
     lambdaIntegratorAcc := lambda.2.acc
     idleIntegratorAcc := idle.2.acc })

def runtimeSemanticEvaluateFuelWithState :
    Option (Except RuntimeSemanticFuelError
      (RuntimeSemanticFuelObservations × RuntimeSemanticState)) :=
  match validateCalibration cal with
  | .error e => some (.error e)
  | .ok _ =>
    if targetAfrX100 cal input = 0 then some (.error .zeroTargetAfr)
    else if cal.prefKpa10 = 0 then some (.error .zeroPrefKpa)
    else
      let ae := evaluateAe cal input state
      (evaluateCutArbitration cal input ae).map fun cut =>
        .ok (completeEvaluation cal input state ae cut.1 cut.2.1 cut.2.2)

/-! ### When an evaluation returns -/

def RuntimeSemanticCalibration.cyclesProper : Prop :=
  cal.launchCutCycles ≠ 65535 ∧ cal.flatShiftCutCycles ≠ 65535

lemma cutPhase_isSome {cutCycles : UInt16} (h : cutCycles ≠ 65535) (armed : Bool)
    (cycleCount : UInt16) : (cutPhase armed cutCycles cycleCount).isSome := by
  have hne : cutCycles + 1 ≠ 0 := fun hzero => h (UInt16.eq_sub_iff_add_eq.mpr hzero)
  unfold cutPhase
  split_ifs <;> rfl

variable {cal}

lemma evaluateLimiters_isSome (h : cal.cyclesProper) (input : RuntimeSemanticInputSnapshot)
    (state : RuntimeSemanticState) : (evaluateLimiters cal input state).isSome := by
  obtain ⟨launch, hlaunch⟩ := Option.isSome_iff_exists.mp (cutPhase_isSome h.1
    (input.launchArmed && input.rpm ≥ cal.launchRpmLimit) state.launchCutCycleCount)
  obtain ⟨flat, hflat⟩ := Option.isSome_iff_exists.mp (cutPhase_isSome h.2
    (input.flatShiftArmed && input.rpm ≥ cal.flatShiftRpmMin) state.flatShiftCutCycleCount)
  simp only [evaluateLimiters, hlaunch, hflat]
  cases launch <;> cases flat <;> simp only
  all_goals split_ifs
  all_goals rfl

lemma evaluate_isSome (h : cal.cyclesProper) (input : RuntimeSemanticInputSnapshot)
    (state : RuntimeSemanticState) :
    (runtimeSemanticEvaluateFuelWithState cal input state).isSome := by
  unfold runtimeSemanticEvaluateFuelWithState
  split
  · rfl
  split_ifs
  · rfl
  · rfl
  · rw [Option.isSome_map]
    unfold evaluateCutArbitration
    simp only
    split_ifs
    · rfl
    · rfl
    · exact evaluateLimiters_isSome h _ _

/-! ### The safety latch over one evaluation -/

variable (cal)

/-- The evaluator takes the calibration; whether it then has a target is a matter of the input. -/
def RuntimeSemanticCalibration.accepted : Bool :=
  (validateCalibration cal matches .ok _) && cal.prefKpa10 ≠ 0

variable {cal : RuntimeSemanticCalibration} {input : RuntimeSemanticInputSnapshot}
  {state next : RuntimeSemanticState} {obs : RuntimeSemanticFuelObservations}
  {cut : RuntimeSemanticState × Bool × Bool}

lemma evaluate_cases {e : Except RuntimeSemanticFuelError
      (RuntimeSemanticFuelObservations × RuntimeSemanticState)}
    (h : runtimeSemanticEvaluateFuelWithState cal input state = some e) :
    ((cal.accepted && targetAfrX100 cal input ≠ 0) = false ∧ ∃ err, e = .error err) ∨
    ((cal.accepted && targetAfrX100 cal input ≠ 0) = true ∧ ∃ cut obs next,
      evaluateCutArbitration cal input (evaluateAe cal input state) = some cut ∧
      e = .ok (obs, next) ∧ obs.fuelCut = cut.2.1 ∧ obs.sparkCut = cut.2.2 ∧
      next.safetyLatched = cut.1.safetyLatched) := by
  unfold runtimeSemanticEvaluateFuelWithState at h
  unfold RuntimeSemanticCalibration.accepted
  split at h
  · rename_i err hval
    exact .inl ⟨by simp [hval], err, (Option.some.inj h).symm⟩
  · rename_i hval
    split_ifs at h with hafr hpref
    · exact .inl ⟨by simp [hafr], _, (Option.some.inj h).symm⟩
    · exact .inl ⟨by simp [hpref], _, (Option.some.inj h).symm⟩
    · obtain ⟨cut, hcut, rfl⟩ := Option.map_eq_some_iff.mp h
      exact .inr ⟨by simp [hval, hafr, hpref], cut, _, _, hcut, rfl, rfl, rfl, rfl⟩

lemma safetyLatched_evaluateAe :
    (evaluateAe cal input state).safetyLatched = state.safetyLatched := by
  unfold evaluateAe
  simp only
  split_ifs <;> rfl

/-- A direct request is answered as it stands, and the latch left alone. -/
lemma evaluateCutArbitration_of_direct
    (hd : input.directFuelCutRequest || input.directSparkCutRequest)
    (h : evaluateCutArbitration cal input state = some cut) :
    cut.2 = (input.directFuelCutRequest, input.directSparkCutRequest) ∧
      cut.1.safetyLatched = state.safetyLatched := by
  simp only [evaluateCutArbitration, hd, if_true, Option.some.injEq] at h
  subst h
  exact ⟨rfl, rfl⟩

/-- Without one a request, or a latch that is not released, latches and cuts both channels. -/
lemma evaluateCutArbitration_of_latch
    (hd : (input.directFuelCutRequest || input.directSparkCutRequest) = false)
    (hl : input.safetyLatchRequest ∨ state.safetyLatched ∧ input.mode ≠ .off)
    (h : evaluateCutArbitration cal input state = some cut) :
    cut.2 = (true, true) ∧ cut.1.safetyLatched := by
  have hlatched : (latchSafety input { state with
      launchActive := false, flatShiftActive := false }).safetyLatched = true := by
    unfold latchSafety
    rcases hl with hl | ⟨hl, hm⟩
    · cases hs : state.safetyLatched <;> simp [hl]
    · simp [hl, hm]
  simp only [evaluateCutArbitration, hd, Bool.false_eq_true, if_false, hlatched, if_true,
    Option.some.injEq] at h
  subst h
  exact ⟨rfl, hlatched⟩

/-! ### A flat calibration -/

def flatAxis : RuntimeSemanticAxis16 := ⟨2, .ofFn fun i => if i.val = 1 then 10000 else 0⟩

def flatCurve (value : UInt16) : RuntimeSemanticCurve16U16 := ⟨flatAxis, .replicate 16 value⟩

/-- A calibration that is the same everywhere and limits nothing. -/
def flatCalibration : RuntimeSemanticCalibration :=
  let table (value : UInt16) : RuntimeSemanticTable2dU16 :=
    ⟨flatAxis, flatAxis, .replicate 16 (.replicate 16 value)⟩
  { veTable := table 8000
    afrTargetTable := table 1470
    deadtimeTableUs := ⟨flatAxis, flatAxis, .replicate 16 (.replicate 16 500)⟩
    cltCorrCurve := flatCurve 1000
    iatCorrCurve := flatCurve 1000
    baroCorrCurve := flatCurve 1000
    vbatCorrCurve := flatCurve 1000
    crankingCurve := flatCurve 1000
    afterstartTable := table 1000
    warmupCurve := flatCurve 1000
    aeTpsThresholdCurve := flatCurve 65535
    aeMapThresholdCurve := flatCurve 65535
    aeShotCurveUs := flatCurve 0
    aeDecayStepsCurve := flatCurve 0
    aeDecayRatioCurveX1000 := flatCurve 0
    requiredFuelUs := 10000
    prefKpa10 := 1000
    stoichAfrX100 := 1470
    pwMaxUs := 20000
    afterstartWindowCycles := 0
    dfcoEntryRpm := 65535
    dfcoExitRpm := 65535
    dfcoEntryTpsX100 := 0
    dfcoExitTpsX100 := 0
    dfcoEntryMapKpa10 := 0
    dfcoDelayCycles := 65535
    softRevRpm := 65535
    hardRevRpm := 65535
    revHysteresisRpm := 0
    softRetardMaxDeg10 := 0
    idleTargetRpm := 0
    idleBaseDutyX1000 := 0
    idleKpX1000 := 0
    idleKiX1000 := 0
    launchRpmLimit := 65535
    launchCutCycles := 0
    flatShiftRpmMin := 65535
    flatShiftCutCycles := 0
    knockThresholdX100 := 65535
    knockRetardStepDeg10 := 0
    knockRetardMaxDeg10 := 0
    knockRecoveryStepDeg10 := 0
    knockRecoveryDelayCycles := 0
    lambdaKpX1000 := 0
    lambdaKiX1000 := 0 }

end Pipoco.SemFuel
