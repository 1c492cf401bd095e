import Pipoco.SemTables

/-!
The calibration of the executable specification, its validation, and its reading of tables.

The specification keeps types of its own that mirror those of the runtime; a calibration is carried
over field by field. What its validation accepts, the validation of the runtime accepts as well,
and on such a calibration both read every table alike: the specification clips before it searches
and computes in the width of the cells, and neither makes a difference.
-/

namespace Pipoco.Spec

open Domain SemFuel SemSchedule SemTables

/-! ### Collections -/

structure Axis16 where
  len : UInt8
  values : Vector UInt16 16
  deriving DecidableEq

structure Curve16 where
  axis : Axis16
  values : Vector UInt16 16
  deriving DecidableEq

structure SignedCurve16 where
  axis : Axis16
  values : Vector Int16 16
  deriving DecidableEq

structure Table2D16 (α : Type) where
  (rpmAxis loadAxis : Axis16)
  /-- Indexed by load, then by rpm. -/
  values : Vector (Vector α 16) 16
  deriving DecidableEq

structure CylinderArrayU16 where
  count : UInt8
  values : Vector UInt16 16
  deriving DecidableEq

inductive InjectionAngleMode
  | startOfInjection | endOfInjection
  deriving DecidableEq, Repr

/-- What the validation or a modelled function reads. -/
structure Calibration where
  (veTable afrTargetTable : Table2D16 UInt16)
  sparkAdvanceTableDeg10 : Table2D16 Int16
  dwellTableUs : Table2D16 UInt32
  (injectionTargetTableDeg10 deadtimeTableUs : Table2D16 UInt16)
  crankingCurve : Curve16
  afterstartTable : Table2D16 UInt16
  afterstartWindowCycles : UInt16
  (warmupCurve aeTpsThresholdCurve aeMapThresholdCurve aeShotCurveUs aeDecayStepsCurve : Curve16)
  aeDecayRatioCurveX1000 : Curve16
  (dfcoEntryRpm dfcoExitRpm dfcoEntryTpsX100 dfcoExitTpsX100 dfcoEntryMapKpa10 : UInt16)
  (dfcoDelayCycles softRevRpm hardRevRpm revHysteresisRpm softRetardMaxDeg10 launchRpmLimit : UInt16)
  (launchCutCycles flatShiftRpmMin flatShiftCutCycles knockThresholdX100 : UInt16)
  (knockRetardStepDeg10 knockRetardMaxDeg10 knockRecoveryStepDeg10 knockRecoveryDelayCycles : UInt16)
  (tpsAdcMinCounts tpsAdcMaxCounts idleTargetRpm idleBaseDutyX1000 idleKpX1000 idleKiX1000 : UInt16)
  (idleTimingRpmMax idleTimingTpsMaxX100 : UInt16)
  idleAdvanceCurveDeg10 : SignedCurve16
  (idleTimingMinTrimDeg10 idleTimingMaxTrimDeg10 : Int16)
  (cltTimingCorrCurveDeg10 iatTimingCorrCurveDeg10 : SignedCurve16)
  (lambdaKpX1000 lambdaKiX1000 o2WidebandAfrMinX100 o2WidebandAfrMaxX100 : UInt16)
  (o2NarrowbandThresholdCounts o2NarrowbandHysteresisCounts o2NarrowbandRichAfrX100 : UInt16)
  o2NarrowbandLeanAfrX100 : UInt16
  (cltCorrCurve iatCorrCurve baroCorrCurve vbatCorrCurve : Curve16)
  requiredFuelUs : UInt32
  (prefKpa10 stoichAfrX100 : UInt16)
  pwMaxUs : UInt32
  injectionAngleMode : InjectionAngleMode
  cylinderPhaseDeg10 : CylinderArrayU16

/-! ### Validation -/

variable {α : Type} (axis : Axis16)

inductive ValidationError
  | axisTooShort | axisNotStrictlyIncreasing | tableDimensionMismatch | curveDimensionMismatch
  | cylinderCountZero | cylinderCountTooLarge | angleOutOfRange | requiredFuelZero
  | referencePressureZero | pwMaxZero | correctionBelowZero | correctionAboveLimit | veOutOfRange
  | afrOutOfRange | dwellOutOfRange | sparkAdvanceOutOfRange | injectionTargetOutOfRange
  | targetAfrOverrideOutOfRange | dfcoConfigInvalid | revLimitConfigInvalid | knockConfigInvalid
  | launchConfigInvalid | flatShiftConfigInvalid | idleConfigInvalid | tpsConfigInvalid
  | o2ConfigInvalid
  deriving DecidableEq, Repr

def validateAxis : Except ValidationError Unit :=
  if axis.len < 2 then .error .axisTooShort
  else if axis.len > 16 then .error .tableDimensionMismatch
  else if (List.range (axis.len.toNat - 1)).any fun idx =>
      cell axis.values idx ≥ cell axis.values (idx + 1) then .error .axisNotStrictlyIncreasing
  else .ok ()

/-- A check that fails with the given error. -/
def reject (bad : Bool) (err : ValidationError) : Except ValidationError Unit :=
  if bad then .error err else .ok ()

/-- The first `len` values lie in a range. -/
def inRange [Inhabited α] (val : α → ℤ) (values : Vector α 16) (len : UInt8) (lo hi : ℤ) : Bool :=
  (List.range len.toNat).all fun idx => lo ≤ val (cell values idx) && val (cell values idx) ≤ hi

/-- A curve of any width: the length is checked twice, with two errors. -/
def validateCurveOf [Inhabited α] (val : α → ℤ) (axis : Axis16) (values : Vector α 16) (lo hi : ℤ)
    (err : ValidationError) : Except ValidationError Unit :=
  if axis.len > 16 then .error .curveDimensionMismatch
  else do
    validateAxis axis
    reject (!inRange val values axis.len lo hi) err

def validateCurve (curve : Curve16) (lo hi : ℤ) (err : ValidationError) :
    Except ValidationError Unit :=
  validateCurveOf (fun value => (value.toNat : ℤ)) curve.axis curve.values lo hi err

def validateSignedCurve (curve : SignedCurve16) (lo hi : ℤ) (err : ValidationError) :
    Except ValidationError Unit :=
  validateCurveOf Int16.toInt curve.axis curve.values lo hi err

def validateTable [Inhabited α] (val : α → ℤ) (table : Table2D16 α) (lo hi : ℤ)
    (err : ValidationError) : Except ValidationError Unit := do
  validateAxis table.rpmAxis
  validateAxis table.loadAxis
  reject (!(List.range table.loadAxis.len.toNat).all fun loadIdx =>
    inRange val (cell table.values loadIdx) table.rpmAxis.len lo hi) err

def validateTableU16 : Table2D16 UInt16 → ℤ → ℤ → ValidationError → Except ValidationError Unit :=
  validateTable fun value => (value.toNat : ℤ)

def validateTableU32 : Table2D16 UInt32 → ℤ → ℤ → ValidationError → Except ValidationError Unit :=
  validateTable fun value => (value.toNat : ℤ)

def validateTableI16 : Table2D16 Int16 → ℤ → ℤ → ValidationError → Except ValidationError Unit :=
  validateTable Int16.toInt

variable (raw : Calibration)

def checks : List (Except ValidationError Unit) :=
  [validateTableU16 raw.veTable 0 30000 .veOutOfRange,
    validateTableU16 raw.afrTargetTable 500 3000 .afrOutOfRange,
    validateTableI16 raw.sparkAdvanceTableDeg10 (-7200) 7200 .sparkAdvanceOutOfRange,
    validateTableU32 raw.dwellTableUs 1 20000 .dwellOutOfRange,
    validateTableU16 raw.injectionTargetTableDeg10 0 7199 .injectionTargetOutOfRange,
    validateTableU16 raw.deadtimeTableUs 0 20000 .dwellOutOfRange,
    validateCurve raw.crankingCurve 0 6000 .correctionAboveLimit,
    validateTableU16 raw.afterstartTable 0 4000 .correctionAboveLimit,
    validateCurve raw.warmupCurve 0 4000 .correctionAboveLimit,
    validateCurve raw.aeTpsThresholdCurve 0 20000 .correctionAboveLimit,
    validateCurve raw.aeMapThresholdCurve 0 20000 .correctionAboveLimit,
    validateCurve raw.aeShotCurveUs 0 20000 .correctionAboveLimit,
    validateCurve raw.aeDecayStepsCurve 0 20000 .correctionAboveLimit,
    validateCurve raw.aeDecayRatioCurveX1000 0 20000 .correctionAboveLimit,
    validateCurve raw.cltCorrCurve 0 4000 .correctionAboveLimit,
    validateCurve raw.iatCorrCurve 0 4000 .correctionAboveLimit,
    validateCurve raw.baroCorrCurve 0 4000 .correctionAboveLimit,
    validateCurve raw.vbatCorrCurve 0 4000 .correctionAboveLimit,
    reject (raw.requiredFuelUs = 0) .requiredFuelZero,
    reject (raw.prefKpa10 = 0) .referencePressureZero,
    reject (raw.stoichAfrX100 < 500 || raw.stoichAfrX100 > 3000) .afrOutOfRange,
    reject (raw.dfcoEntryRpm ≤ raw.dfcoExitRpm || raw.dfcoEntryTpsX100 > raw.dfcoExitTpsX100)
      .dfcoConfigInvalid,
    reject (raw.hardRevRpm ≤ raw.softRevRpm || raw.revHysteresisRpm = 0 ||
      raw.softRetardMaxDeg10 > 720) .revLimitConfigInvalid,
    reject (raw.launchRpmLimit > 20000) .launchConfigInvalid,
    reject (raw.flatShiftRpmMin > 20000) .flatShiftConfigInvalid,
    reject (raw.knockThresholdX100 > 10000 || raw.knockRetardStepDeg10 > 200 ||
      raw.knockRetardMaxDeg10 > 720 || raw.knockRecoveryStepDeg10 > 200) .knockConfigInvalid,
    reject (raw.idleBaseDutyX1000 > 1000) .idleConfigInvalid,
    validateSignedCurve raw.idleAdvanceCurveDeg10 (-7200) 7200 .sparkAdvanceOutOfRange,
    validateSignedCurve raw.cltTimingCorrCurveDeg10 (-7200) 7200 .sparkAdvanceOutOfRange,
    validateSignedCurve raw.iatTimingCorrCurveDeg10 (-7200) 7200 .sparkAdvanceOutOfRange,
    reject (raw.idleTimingRpmMax > 20000 || raw.idleTimingTpsMaxX100 > 10000 ||
      raw.idleTimingMinTrimDeg10 > raw.idleTimingMaxTrimDeg10 ||
      raw.idleTimingMinTrimDeg10 < -7200 || raw.idleTimingMaxTrimDeg10 > 7200) .idleConfigInvalid,
    reject (raw.o2WidebandAfrMinX100 < 500 || raw.o2WidebandAfrMinX100 > 3000 ||
      raw.o2WidebandAfrMaxX100 < 500 || raw.o2WidebandAfrMaxX100 > 3000 ||
      raw.o2WidebandAfrMinX100 ≥ raw.o2WidebandAfrMaxX100 ||
      raw.o2NarrowbandThresholdCounts > 4095 || raw.o2NarrowbandHysteresisCounts > 4095 ||
      raw.o2NarrowbandRichAfrX100 < 500 || raw.o2NarrowbandRichAfrX100 > 3000 ||
      raw.o2NarrowbandLeanAfrX100 < 500 || raw.o2NarrowbandLeanAfrX100 > 3000 ||
      raw.o2NarrowbandRichAfrX100 > raw.o2NarrowbandLeanAfrX100) .o2ConfigInvalid,
    reject (raw.tpsAdcMinCounts ≥ raw.tpsAdcMaxCounts || raw.tpsAdcMaxCounts > 4095)
      .tpsConfigInvalid,
    reject (raw.pwMaxUs = 0) .pwMaxZero,
    reject (raw.cylinderPhaseDeg10.count = 0) .cylinderCountZero,
    reject (raw.cylinderPhaseDeg10.count > 8) .cylinderCountTooLarge,
    reject ((List.range raw.cylinderPhaseDeg10.count.toNat).any fun idx =>
      cell raw.cylinderPhaseDeg10.values idx > 7199) .angleOutOfRange]

/-- The first failing check decides. -/
def validateCalibration : Except ValidationError Unit := (checks raw).forM id

/-- A calibration that the validation has let through, unchanged. -/
structure ValidatedCalibration where
  raw : Calibration
  accepted : validateCalibration raw = .ok ()

/-! ### Reading tables -/

def findSegment (x : UInt16) : ℕ :=
  let len := axis.len.toNat
  if len < 2 then 0
  else
    let clipped := clampU16 x (cell axis.values 0) (cell axis.values (len - 1))
    ((List.range (len - 1)).find? fun idx =>
      let lo := cell axis.values idx
      let hi := cell axis.values (idx + 1)
      clipped ≥ lo && (clipped < hi || (idx + 1 = len - 1 && clipped = hi))).getD (len - 2)

def lerpU16 (x0 x1 y0 y1 x : UInt16) : UInt16 :=
  if x1 ≤ x0 then y0
  else
    let xClip := clampU16 x x0 x1
    let num : ℤ := (xClip - x0).toNat
    let den : ℤ := (x1 - x0).toNat
    let delta : ℤ := (y1.toNat : ℤ) - y0.toNat
    UInt16.ofInt (y0.toNat + floorDiv (delta * num) den)

def lerpI16 (x0 x1 : UInt16) (y0 y1 : Int16) (x : UInt16) : Int16 :=
  if x1 ≤ x0 then y0
  else
    let xClip := clampU16 x x0 x1
    let num : ℤ := (xClip - x0).toNat
    let den : ℤ := (x1 - x0).toNat
    let delta := y1.toInt - y0.toInt
    Int16.ofInt (y0.toInt + floorDiv (delta * num) den)

/-- The wide one does not clip: its callers have. -/
def lerpU32 (x0 x1 : UInt16) (y0 y1 : UInt32) (x : UInt16) : UInt32 :=
  if x1 ≤ x0 then y0
  else
    let num : ℤ := (x - x0).toNat
    let den : ℤ := (x1 - x0).toNat
    let delta : ℤ := (y1.toNat : ℤ) - y0.toNat
    UInt32.ofInt (y0.toNat + floorDiv (delta * num) den)

/-- A table read between its cells. The point is clipped first. -/
def bilerp [Inhabited α] (lerp : UInt16 → UInt16 → α → α → UInt16 → α) (table : Table2D16 α)
    (rpm load : UInt16) : α :=
  let rpmClip := clampU16 rpm (cell table.rpmAxis.values 0)
    (cell table.rpmAxis.values (table.rpmAxis.len.toNat - 1))
  let loadClip := clampU16 load (cell table.loadAxis.values 0)
    (cell table.loadAxis.values (table.loadAxis.len.toNat - 1))
  let rpmSeg := findSegment table.rpmAxis rpmClip
  let loadSeg := findSegment table.loadAxis loadClip
  let rpmX0 := cell table.rpmAxis.values rpmSeg
  let rpmX1 := cell table.rpmAxis.values (rpmSeg + 1)
  let lower := lerp rpmX0 rpmX1 (cell (cell table.values loadSeg) rpmSeg)
    (cell (cell table.values loadSeg) (rpmSeg + 1)) rpmClip
  let upper := lerp rpmX0 rpmX1 (cell (cell table.values (loadSeg + 1)) rpmSeg)
    (cell (cell table.values (loadSeg + 1)) (rpmSeg + 1)) rpmClip
  lerp (cell table.loadAxis.values loadSeg) (cell table.loadAxis.values (loadSeg + 1)) lower upper
    loadClip

def bilerpU16 : Table2D16 UInt16 → UInt16 → UInt16 → UInt16 := bilerp lerpU16

def bilerpI16 : Table2D16 Int16 → UInt16 → UInt16 → Int16 := bilerp lerpI16

def bilerpU32 : Table2D16 UInt32 → UInt16 → UInt16 → UInt32 := bilerp lerpU32

/-! ### Carrying a calibration over

Entry by entry, those past the length of an axis included. -/

def Axis16.toRuntime : RuntimeSemanticAxis16 := ⟨axis.len, axis.values⟩

def Curve16.toRuntime (curve : Curve16) : RuntimeSemanticCurve16U16 :=
  ⟨curve.axis.toRuntime, curve.values⟩

def tableU16 (table : Table2D16 UInt16) : RuntimeSemanticTable2dU16 :=
  ⟨table.rpmAxis.toRuntime, table.loadAxis.toRuntime, table.values⟩

def tableI16 (table : Table2D16 Int16) : RuntimeSemanticTable2dI16 :=
  ⟨table.rpmAxis.toRuntime, table.loadAxis.toRuntime, table.values⟩

def tableU32 (table : Table2D16 UInt32) : RuntimeSemanticTable2dU32 :=
  ⟨table.rpmAxis.toRuntime, table.loadAxis.toRuntime, table.values⟩

/-- The calibration of the fuel evaluator. The dead time is looked up by voltage and pressure. -/
def Calibration.toRuntime (cal : Calibration) : RuntimeSemanticCalibration where
  veTable := tableU16 cal.veTable
  afrTargetTable := tableU16 cal.afrTargetTable
  deadtimeTableUs := ⟨cal.deadtimeTableUs.rpmAxis.toRuntime, cal.deadtimeTableUs.loadAxis.toRuntime,
    cal.deadtimeTableUs.values⟩
  cltCorrCurve := cal.cltCorrCurve.toRuntime
  iatCorrCurve := cal.iatCorrCurve.toRuntime
  baroCorrCurve := cal.baroCorrCurve.toRuntime
  vbatCorrCurve := cal.vbatCorrCurve.toRuntime
  crankingCurve := cal.crankingCurve.toRuntime
  afterstartTable := tableU16 cal.afterstartTable
  warmupCurve := cal.warmupCurve.toRuntime
  aeTpsThresholdCurve := cal.aeTpsThresholdCurve.toRuntime
  aeMapThresholdCurve := cal.aeMapThresholdCurve.toRuntime
  aeShotCurveUs := cal.aeShotCurveUs.toRuntime
  aeDecayStepsCurve := cal.aeDecayStepsCurve.toRuntime
  aeDecayRatioCurveX1000 := cal.aeDecayRatioCurveX1000.toRuntime
  requiredFuelUs := cal.requiredFuelUs
  prefKpa10 := cal.prefKpa10
  stoichAfrX100 := cal.stoichAfrX100
  pwMaxUs := cal.pwMaxUs
  afterstartWindowCycles := cal.afterstartWindowCycles
  dfcoEntryRpm := cal.dfcoEntryRpm
  dfcoExitRpm := cal.dfcoExitRpm
  dfcoEntryTpsX100 := cal.dfcoEntryTpsX100
  dfcoExitTpsX100 := cal.dfcoExitTpsX100
  dfcoEntryMapKpa10 := cal.dfcoEntryMapKpa10
  dfcoDelayCycles := cal.dfcoDelayCycles
  softRevRpm := cal.softRevRpm
  hardRevRpm := cal.hardRevRpm
  revHysteresisRpm := cal.revHysteresisRpm
  softRetardMaxDeg10 := cal.softRetardMaxDeg10
  idleTargetRpm := cal.idleTargetRpm
  idleBaseDutyX1000 := cal.idleBaseDutyX1000
  idleKpX1000 := cal.idleKpX1000
  idleKiX1000 := cal.idleKiX1000
  launchRpmLimit := cal.launchRpmLimit
  launchCutCycles := cal.launchCutCycles
  flatShiftRpmMin := cal.flatShiftRpmMin
  flatShiftCutCycles := cal.flatShiftCutCycles
  knockThresholdX100 := cal.knockThresholdX100
  knockRetardStepDeg10 := cal.knockRetardStepDeg10
  knockRetardMaxDeg10 := cal.knockRetardMaxDeg10
  knockRecoveryStepDeg10 := cal.knockRecoveryStepDeg10
  knockRecoveryDelayCycles := cal.knockRecoveryDelayCycles
  lambdaKpX1000 := cal.lambdaKpX1000
  lambdaKiX1000 := cal.lambdaKiX1000

def InjectionAngleMode.toRuntime : InjectionAngleMode → RuntimeSemanticInjectionAngleMode
  | .startOfInjection => .startOfInjection
  | .endOfInjection => .endOfInjection

def Calibration.toSchedule (cal : Calibration) : RuntimeSemanticScheduleCalibration where
  sparkAdvanceTableDeg10 := tableI16 cal.sparkAdvanceTableDeg10
  dwellTableUs := tableU32 cal.dwellTableUs
  injectionTargetTableDeg10 := tableU16 cal.injectionTargetTableDeg10
  injectionAngleMode := cal.injectionAngleMode.toRuntime
  cylinderPhaseDeg10 := ⟨cal.cylinderPhaseDeg10.count, cal.cylinderPhaseDeg10.values⟩

/-! ### What validation gives -/

variable {val : α → ℤ} {table : Table2D16 α} {lo hi : ℤ} {axis} {err : ValidationError}

lemma bind_eq_ok {c d : Except ValidationError Unit} (h : (c >>= fun _ => d) = .ok ()) :
    c = .ok () ∧ d = .ok () := by
  cases c with
  | error e => simp [bind, Except.bind] at h
  | ok u => exact ⟨rfl, h⟩

lemma forM_eq_ok {l : List (Except ValidationError Unit)} (h : l.forM id = .ok ()) :
    ∀ c ∈ l, c = .ok () := by
  induction l with
  | nil => exact fun c hc => absurd hc List.not_mem_nil
  | cons c l ih =>
    obtain ⟨hc, hl⟩ := bind_eq_ok (d := l.forM id) h
    exact List.forall_mem_cons.mpr ⟨hc, ih hl⟩

lemma reject_eq_ok {bad : Bool} (h : reject bad err = .ok ()) : bad = false := by
  unfold reject at h
  cases bad with
  | false => rfl
  | true => exact absurd h (by simp)

lemma validateAxis_toRuntime (h : validateAxis axis = .ok ()) :
    SemFuel.validateAxis axis.toRuntime = .ok () := by
  simp only [validateAxis, UInt8.lt_iff_toNat_lt, gt_iff_lt] at h
  split_ifs at h with hshort hlong hord
  have hlen : 2 ≤ axis.len.toNat ∧ axis.len.toNat ≤ runtimeSemanticTableLen := by
    rw [runtimeSemanticTableLen]
    simp only [UInt8.reduceToNat] at hshort hlong
    omega
  exact (if_neg (not_not.mpr hlen)).trans (if_neg hord)

lemma axisOk (h : validateAxis axis = .ok ()) : AxisOk axis.toRuntime :=
  axisOk_of_validateAxis (validateAxis_toRuntime h)

/-- A table on validated axes whose live cells lie in a range. -/
structure TableOk {α : Type} [Inhabited α] (val : α → ℤ) (table : Table2D16 α) (lo hi : ℤ) :
    Prop where
  rpm : validateAxis table.rpmAxis = .ok ()
  load : validateAxis table.loadAxis = .ok ()
  range : ∀ j < table.loadAxis.len.toNat, ∀ i < table.rpmAxis.len.toNat,
    cells val table.values j i ∈ Set.Icc lo hi

lemma tableOk [Inhabited α] (h : validateTable val table lo hi err = .ok ()) :
    TableOk val table lo hi := by
  obtain ⟨hrpm, h⟩ := bind_eq_ok h
  obtain ⟨hload, h⟩ := bind_eq_ok h
  have hall := Bool.not_eq_false' .. |>.mp (reject_eq_ok h)
  refine ⟨hrpm, hload, fun j hj i hi => ?_⟩
  have hrow := List.all_eq_true.mp hall j (List.mem_range.mpr hj)
  have hcell := List.all_eq_true.mp hrow i (List.mem_range.mpr hi)
  rw [Bool.and_eq_true, decide_eq_true_eq, decide_eq_true_eq] at hcell
  exact hcell

lemma validateCurve_axis {curve : Curve16} (h : validateCurve curve lo hi err = .ok ()) :
    validateAxis curve.axis = .ok () := by
  unfold validateCurve validateCurveOf at h
  split_ifs at h
  exact (bind_eq_ok h).1

namespace ValidatedCalibration

variable (cal : ValidatedCalibration)

lemma check (i : ℕ) {c : Except ValidationError Unit} (h : (checks cal.raw)[i]? = some c) :
    c = .ok () :=
  forM_eq_ok cal.accepted c (List.mem_of_getElem? h)

lemma ve : TableOk (fun y => (y.toNat : ℤ)) cal.raw.veTable 0 30000 := tableOk (cal.check 0 rfl)

lemma afrTarget : TableOk (fun y => (y.toNat : ℤ)) cal.raw.afrTargetTable 500 3000 :=
  tableOk (cal.check 1 rfl)

lemma sparkAdvance : TableOk Int16.toInt cal.raw.sparkAdvanceTableDeg10 (-7200) 7200 :=
  tableOk (cal.check 2 rfl)

lemma dwell : TableOk val32 cal.raw.dwellTableUs 1 20000 := tableOk (cal.check 3 rfl)

lemma injectionTarget : TableOk (fun y => (y.toNat : ℤ)) cal.raw.injectionTargetTableDeg10 0 7199 :=
  tableOk (cal.check 4 rfl)

lemma deadtime : TableOk (fun y => (y.toNat : ℤ)) cal.raw.deadtimeTableUs 0 20000 :=
  tableOk (cal.check 5 rfl)

lemma afterstart : TableOk (fun y => (y.toNat : ℤ)) cal.raw.afterstartTable 0 4000 :=
  tableOk (cal.check 7 rfl)

lemma pref_ne_zero : cal.raw.prefKpa10 ≠ 0 := of_decide_eq_false (reject_eq_ok (cal.check 19 rfl))

lemma stoich_mem : cal.raw.stoichAfrX100.toNat ∈ Set.Icc 500 3000 := by
  have h := reject_eq_ok (cal.check 20 rfl)
  rw [Bool.or_eq_false_iff, decide_eq_false_iff_not, decide_eq_false_iff_not, gt_iff_lt,
    UInt16.lt_iff_toNat_lt, UInt16.lt_iff_toNat_lt] at h
  simp only [UInt16.reduceToNat] at h
  constructor <;> omega

lemma cylinderCount_mem : cal.raw.cylinderPhaseDeg10.count.toNat ∈ Set.Icc 1 8 := by
  have hpos := of_decide_eq_false (reject_eq_ok (cal.check 34 rfl))
  have hle := of_decide_eq_false (reject_eq_ok (cal.check 35 rfl))
  rw [gt_iff_lt, UInt8.lt_iff_toNat_lt] at hle
  rw [← UInt8.toNat_inj] at hpos
  simp only [UInt8.reduceToNat] at hpos hle
  constructor <;> omega

/-- **The runtime takes every calibration that the specification takes.** -/
lemma validate_toRuntime : SemFuel.validateCalibration cal.raw.toRuntime = .ok () := by
  have haxes : ∀ axis ∈ cal.raw.toRuntime.axes, SemFuel.validateAxis axis = .ok () := by
    simp only [RuntimeSemanticCalibration.axes, List.forall_mem_cons, List.not_mem_nil,
      false_imp_iff, implies_true, and_true]
    have hcurve := fun i curve err lo hi
        (h : (checks cal.raw)[i]? = some (validateCurve curve lo hi err)) =>
      validateAxis_toRuntime (validateCurve_axis (cal.check i h))
    exact ⟨validateAxis_toRuntime cal.ve.rpm, validateAxis_toRuntime cal.ve.load,
      validateAxis_toRuntime cal.afrTarget.rpm, validateAxis_toRuntime cal.afrTarget.load,
      validateAxis_toRuntime cal.deadtime.rpm, validateAxis_toRuntime cal.deadtime.load,
      hcurve 14 _ _ _ _ rfl, hcurve 15 _ _ _ _ rfl, hcurve 16 _ _ _ _ rfl, hcurve 17 _ _ _ _ rfl,
      hcurve 6 _ _ _ _ rfl, validateAxis_toRuntime cal.afterstart.rpm,
      validateAxis_toRuntime cal.afterstart.load, hcurve 8 _ _ _ _ rfl, hcurve 9 _ _ _ _ rfl,
      hcurve 10 _ _ _ _ rfl, hcurve 11 _ _ _ _ rfl, hcurve 12 _ _ _ _ rfl,
      hcurve 13 _ _ _ _ rfl⟩
  unfold SemFuel.validateCalibration
  generalize cal.raw.toRuntime.axes = axes at haxes
  induction axes with
  | nil => rfl
  | cons axis axes ih =>
    obtain ⟨haxis, haxes⟩ := List.forall_mem_cons.mp haxes
    exact (congrArg (fun r => r >>= fun _ => axes.forM SemFuel.validateAxis) haxis).trans (ih haxes)

end ValidatedCalibration

/-! ### Both read alike -/

/-- A lerp of the specification on a point between its ends. -/
def LerpsWithin (val : α → ℤ) (lerp : UInt16 → UInt16 → α → α → UInt16 → α) : Prop :=
  ∀ (x0 x1 : UInt16) (y0 y1 : α) (x : UInt16), x0 < x1 → clampU16 x x0 x1 = x →
    val (lerp x0 x1 y0 y1 x) = Interp.lerp x0.toNat x1.toNat (val y0) (val y1) x.toNat

lemma lerpsWithin_u16 : LerpsWithin (fun y : UInt16 => (y.toNat : ℤ)) lerpU16 := by
  intro x0 x1 y0 y1 x hlt hx
  have hy : ∀ y : UInt16, (y.toNat : ℤ) ∈ Set.Icc (0 : ℤ) 65535 := by
    intro y
    have := y.toNat_lt
    constructor <;> omega
  have hmem := lerp_mem_Icc hlt (hy y0) (hy y1) x
  unfold lerpU16
  rw [if_neg (UInt16.not_le.mpr hlt)]
  dsimp only
  rw [lerp_eq_sum hlt]
  rw [hx] at hmem ⊢
  have hlo := hmem.1
  have hhi := hmem.2
  unfold UInt16.ofInt
  rw [UInt16.toNat_ofNat']
  omega

lemma lerpsWithin_i16 : LerpsWithin Int16.toInt lerpI16 := by
  intro x0 x1 y0 y1 x hlt hx
  have hy : ∀ y : Int16, y.toInt ∈ Set.Icc (-32768 : ℤ) 32767 := fun y =>
    ⟨Int16.le_toInt y, Int.le_of_lt_add_one (Int16.toInt_lt y)⟩
  have hmem := lerp_mem_Icc hlt (hy y0) (hy y1) x
  unfold lerpI16
  rw [if_neg (UInt16.not_le.mpr hlt)]
  dsimp only
  rw [lerp_eq_sum hlt]
  rw [hx] at hmem ⊢
  exact Int16.toInt_ofInt_of_le hmem.1 (Int.lt_add_one_of_le hmem.2)

lemma lerpsWithin_u32 : LerpsWithin val32 lerpU32 := by
  intro x0 x1 y0 y1 x hlt hx
  have hy : ∀ y : UInt32, val32 y ∈ Set.Icc (0 : ℤ) 4294967295 := widened_u32
  have hmem := lerp_mem_Icc hlt (hy y0) (hy y1) x
  have hsum := lerp_eq_sum hlt (val32 y0) (val32 y1) x
  rw [hx] at hmem hsum
  unfold lerpU32
  rw [if_neg (UInt16.not_le.mpr hlt)]
  rw [← hsum] at hmem ⊢
  exact toNat_ofInt32 hmem

variable {lerp : UInt16 → UInt16 → α → α → UInt16 → α}

/-- A table of the specification on validated axes, exactly. -/
lemma val_bilerp [Inhabited α] (hlerp : LerpsWithin val lerp) (hr : AxisOk table.rpmAxis.toRuntime)
    (hl : AxisOk table.loadAxis.toRuntime) (rpm load : UInt16) :
    val (bilerp lerp table rpm load) =
      Interp.bilerp (points table.rpmAxis.toRuntime) (points table.loadAxis.toRuntime)
        (cells val table.values) (semanticFindSegment table.rpmAxis.toRuntime rpm)
        (semanticFindSegment table.loadAxis.toRuntime load)
        (clip table.rpmAxis.toRuntime rpm).toNat (clip table.loadAxis.toRuntime load).toNat := by
  -- the specification clips before it searches: a clipped point is in the same segment
  have hrclip := hr.clampU16_segment (clip table.rpmAxis.toRuntime rpm)
  have hlclip := hl.clampU16_segment (clip table.loadAxis.toRuntime load)
  rw [hr.findSegment_clip, hr.clip_clip] at hrclip
  rw [hl.findSegment_clip, hl.clip_clip] at hlclip
  have hrow := fun k => hlerp _ _ (cell (cell table.values k)
    (semanticFindSegment table.rpmAxis.toRuntime rpm)) (cell (cell table.values k)
    (semanticFindSegment table.rpmAxis.toRuntime rpm + 1)) _ (hr.segment_lt rpm) hrclip
  have hseg : findSegment table.rpmAxis (clip table.rpmAxis.toRuntime rpm) =
      semanticFindSegment table.rpmAxis.toRuntime rpm := hr.findSegment_clip rpm
  have hseg' : findSegment table.loadAxis (clip table.loadAxis.toRuntime load) =
      semanticFindSegment table.loadAxis.toRuntime load := hl.findSegment_clip load
  have hclip : clampU16 rpm (cell table.rpmAxis.values 0)
      (cell table.rpmAxis.values (table.rpmAxis.len.toNat - 1)) =
      clip table.rpmAxis.toRuntime rpm := rfl
  have hclip' : clampU16 load (cell table.loadAxis.values 0)
      (cell table.loadAxis.values (table.loadAxis.len.toNat - 1)) =
      clip table.loadAxis.toRuntime load := rfl
  unfold bilerp
  simp only [hclip, hclip', hseg, hseg']
  refine (hlerp _ _ _ _ _ (hl.segment_lt load) hlclip).trans ?_
  exact congrArg₂ (fun lower upper => Interp.lerp _ _ lower upper _) (hrow _) (hrow _)

lemma TableOk.bilerp_mem [Inhabited α] (h : TableOk val table lo hi) (hlerp : LerpsWithin val lerp)
    (rpm load : UInt16) : val (bilerp lerp table rpm load) ∈ Set.Icc lo hi := by
  have hr := axisOk h.rpm
  have hl := axisOk h.load
  have hi' : semanticFindSegment table.rpmAxis.toRuntime rpm + 1 < table.rpmAxis.len.toNat :=
    (hr.isSegment rpm).next_lt
  have hj' : semanticFindSegment table.loadAxis.toRuntime load + 1 < table.loadAxis.len.toNat :=
    (hl.isSegment load).next_lt
  have h00 := h.range _ (Nat.lt_of_succ_lt hj') _ (Nat.lt_of_succ_lt hi')
  have h01 := h.range _ (Nat.lt_of_succ_lt hj') _ hi'
  have h10 := h.range _ hj' _ (Nat.lt_of_succ_lt hi')
  have h11 := h.range _ hj' _ hi'
  rw [val_bilerp hlerp hr hl]
  constructor
  · exact (le_min (le_min h00.1 h01.1) (le_min h10.1 h11.1)).trans
      (Interp.min_le_bilerp hr.increasing hl.increasing (hr.isSegment rpm) (hl.isSegment load))
  · exact (Interp.bilerp_le_max hr.increasing hl.increasing (hr.isSegment rpm)
      (hl.isSegment load)).trans (max_le (max_le h00.2 h01.2) (max_le h10.2 h11.2))

lemma toNat_semanticBilerpU16 {table : Table2D16 UInt16}
    (h : TableOk (fun y => (y.toNat : ℤ)) table lo hi) (rpm load : UInt16) :
    (semanticBilerpU16 (tableU16 table) rpm load).toNat = (bilerpU16 table rpm load).toNat := by
  have hspec := val_bilerp lerpsWithin_u16 (axisOk h.rpm) (axisOk h.load) rpm load
  have hrun := val_semanticBilerp exactLerp_u16 widened_u16 (axisOk h.rpm) (axisOk h.load)
    table.values rpm load
  rw [semanticBilerpU16_eq]
  exact Int.ofNat_inj.mp (hrun.trans hspec.symm)

lemma toInt_semanticBilerpI16 {table : Table2D16 Int16} (h : TableOk Int16.toInt table lo hi)
    (rpm load : UInt16) :
    (semanticBilerpI16 (tableI16 table) rpm load).toInt = (bilerpI16 table rpm load).toInt := by
  have hspec := val_bilerp lerpsWithin_i16 (axisOk h.rpm) (axisOk h.load) rpm load
  have hrun := val_semanticBilerp exactLerp_i32 widened_i16 (axisOk h.rpm) (axisOk h.load)
    table.values rpm load
  rw [cells_toInt32] at hrun
  exact hrun.trans hspec.symm

lemma semanticBilerpU32_eq {table : Table2D16 UInt32} (h : TableOk val32 table lo hi)
    (rpm load : UInt16) :
    semanticBilerpU32 (tableU32 table) rpm load = bilerpU32 table rpm load := by
  have hspec := val_bilerp lerpsWithin_u32 (axisOk h.rpm) (axisOk h.load) rpm load
  have hrun := val_semanticBilerp exactLerp_u32 widened_u32 (axisOk h.rpm) (axisOk h.load)
    table.values rpm load
  exact UInt32.toNat_inj.mp (Int.ofNat_inj.mp (hrun.trans hspec.symm))

end Pipoco.Spec
