import Pipoco.EngineStep

/-!
The semantic schedule evaluator: from the tables and the fuel observations of a step to the angles
of every cylinder and the events to arm.

Angles are tenths of a degree in a cycle of 7200. Durations are refused when they do not fit their
width; the advance is clamped to its width before any angle is taken from it.
-/

namespace Pipoco.SemSchedule

open Domain SemFuel

/-! ### Signed and wide tables -/

structure RuntimeSemanticTable2dI16 where
  (rpmAxis loadAxis : RuntimeSemanticAxis16)
  /-- Indexed by load, then by rpm. -/
  values : Vector (Vector Int16 16) 16
  deriving DecidableEq

structure RuntimeSemanticTable2dU32 where
  (rpmAxis loadAxis : RuntimeSemanticAxis16)
  /-- Indexed by load, then by rpm. -/
  values : Vector (Vector UInt32 16) 16
  deriving DecidableEq

def semanticLerpI32 (x0 x1 : UInt16) (y0 y1 : Int32) (x : UInt16) : Int32 :=
  if x1 ≤ x0 then y0
  else
    let xClip := clampU16 x x0 x1
    let num : ℤ := (xClip - x0).toNat
    let den : ℤ := (x1 - x0).toNat
    let delta := y1.toInt - y0.toInt
    Int32.ofInt (y0.toInt + floorDiv (delta * num) den)

def semanticLerpU32 (x0 x1 : UInt16) (y0 y1 : UInt32) (x : UInt16) : UInt32 :=
  if x1 ≤ x0 then y0
  else
    let xClip := clampU16 x x0 x1
    let num : ℤ := (xClip - x0).toNat
    let den : ℤ := (x1 - x0).toNat
    let delta : ℤ := (y1.toNat : ℤ) - y0.toNat
    UInt32.ofInt (y0.toNat + floorDiv (delta * num) den)

/-- A table read between its cells: along rpm in the two rows around the load, then between them.
Each cell is widened before it is used. -/
def semanticBilerp {α β : Type} [Inhabited α] (widen : α → β)
    (lerp : UInt16 → UInt16 → β → β → UInt16 → β) (rpmAxis loadAxis : RuntimeSemanticAxis16)
    (values : Vector (Vector α 16) 16) (rpm load : UInt16) : β :=
  let lenRpm := rpmAxis.len.toNat
  let lenLoad := loadAxis.len.toNat
  if lenRpm < 2 || lenLoad < 2 then widen (cell (cell values 0) 0)
  else
    let rpmIdx := semanticFindSegment rpmAxis rpm
    let loadIdx := semanticFindSegment loadAxis load
    let rpmNext := min (rpmIdx + 1) (lenRpm - 1)
    let loadNext := min (loadIdx + 1) (lenLoad - 1)
    let rpmLo := cell rpmAxis.values rpmIdx
    let rpmHi := cell rpmAxis.values rpmNext
    let v00 := widen (cell (cell values loadIdx) rpmIdx)
    let v01 := widen (cell (cell values loadNext) rpmIdx)
    let v10 := widen (cell (cell values loadIdx) rpmNext)
    let v11 := widen (cell (cell values loadNext) rpmNext)
    let interpLo := lerp rpmLo rpmHi v00 v10 rpm
    let interpHi := lerp rpmLo rpmHi v01 v11 rpm
    lerp (cell loadAxis.values loadIdx) (cell loadAxis.values loadNext) interpLo interpHi load

def semanticBilerpI16 (table : RuntimeSemanticTable2dI16) (rpm load : UInt16) : Int32 :=
  semanticBilerp Int16.toInt32 semanticLerpI32 table.rpmAxis table.loadAxis table.values rpm load

def semanticBilerpU32 (table : RuntimeSemanticTable2dU32) (rpm load : UInt16) : UInt32 :=
  semanticBilerp id semanticLerpU32 table.rpmAxis table.loadAxis table.values rpm load

/-! ### Calibration and observations -/

structure RuntimeSemanticCylinderArrayU16 where
  /-- Only the first `count` entries are live. -/
  count : UInt8
  values : Vector UInt16 16
  deriving DecidableEq

inductive RuntimeSemanticInjectionAngleMode
  | startOfInjection | endOfInjection
  deriving DecidableEq, Repr

structure RuntimeSemanticScheduleCalibration where
  sparkAdvanceTableDeg10 : RuntimeSemanticTable2dI16
  dwellTableUs : RuntimeSemanticTable2dU32
  injectionTargetTableDeg10 : RuntimeSemanticTable2dU16
  injectionAngleMode : RuntimeSemanticInjectionAngleMode
  cylinderPhaseDeg10 : RuntimeSemanticCylinderArrayU16
  deriving DecidableEq

inductive RuntimeSemanticScheduleDiagnostic
  | none | fuelCutActive | sparkCutActive | unsynced | calibrationInvalid
  deriving DecidableEq, Repr

inductive RuntimeSemanticScheduleEventKind
  | injectionOpen | injectionClose | coilChargeStart | coilFire
  deriving DecidableEq, Repr

structure RuntimeSemanticScheduleEvent where
  kind : RuntimeSemanticScheduleEventKind
  cylinder : UInt8
  angleDeg10 : UInt16
  deriving DecidableEq, Repr

structure RuntimeSemanticScheduleObservations where
  injectionTargetDeg10 : UInt16
  sparkAdvanceDeg10 : Int16
  dwellUs : UInt32
  (injectionDurationDeg10 dwellDurationDeg10 : UInt16)
  (soiDeg10 eoiDeg10 sparkDeg10 dwellStartDeg10 : RuntimeSemanticCylinderArrayU16)
  /-- The events of the batch up to its length. -/
  events : List RuntimeSemanticScheduleEvent
  diagnostic : RuntimeSemanticScheduleDiagnostic
  deriving DecidableEq

inductive RuntimeSemanticScheduleError
  | axisLenInvalid | axisNotStrictlyIncreasing | cylinderCountInvalid | cylinderPhaseInvalid
  | durationOverflow | eventBatchFull
  deriving DecidableEq, Repr

variable (cal : RuntimeSemanticScheduleCalibration)

/-- The axes in the order in which they are validated. -/
def RuntimeSemanticScheduleCalibration.axes : List RuntimeSemanticAxis16 :=
  [cal.sparkAdvanceTableDeg10.rpmAxis, cal.sparkAdvanceTableDeg10.loadAxis,
    cal.dwellTableUs.rpmAxis, cal.dwellTableUs.loadAxis,
    cal.injectionTargetTableDeg10.rpmAxis, cal.injectionTargetTableDeg10.loadAxis]

/-- All lengths come before all orders, so a bad length is the error even after a bad order. -/
def validateScheduleCalibration : Except RuntimeSemanticScheduleError Unit :=
  let count := cal.cylinderPhaseDeg10.count.toNat
  if cal.axes.any fun axis =>
      ¬ (2 ≤ axis.len.toNat ∧ axis.len.toNat ≤ runtimeSemanticTableLen) then .error .axisLenInvalid
  else if cal.axes.any fun axis => (List.range (axis.len.toNat - 1)).any fun idx =>
      cell axis.values idx ≥ cell axis.values (idx + 1) then .error .axisNotStrictlyIncreasing
  else if ¬ (1 ≤ count ∧ count ≤ 8) then .error .cylinderCountInvalid
  else if (List.range count).any fun idx => cell cal.cylinderPhaseDeg10.values idx ≥ 7200 then
    .error .cylinderPhaseInvalid
  else .ok ()

/-! ### Angles -/

variable (x : ℤ)

/-- Sums of a few angles stay far inside the width they are computed in. -/
def norm7200I32 : UInt16 :=
  let v := x.tmod 7200
  UInt16.ofInt (if v < 0 then v + 7200 else v)

/-- A duration at a speed in tenths of a degree. -/
def durationDeg10 (us : UInt32) (rpm : UInt16) : Except RuntimeSemanticScheduleError UInt16 :=
  let raw := us.toNat * rpm.toNat * 6 / 100000
  if raw > 65535 then .error .durationOverflow else .ok (UInt16.ofNat raw)

structure CylinderAngles where
  (soi eoi spark dwellStart : UInt16)
  deriving DecidableEq

def cylinderAngles (mode : RuntimeSemanticInjectionAngleMode) (injectionTarget : UInt32)
    (sparkAdvance : ℤ) (injectionDuration dwellDuration phase : UInt16) : CylinderAngles :=
  let phaseI : ℤ := phase.toNat
  let injTgtI : ℤ := injectionTarget.toNat
  let injDurI : ℤ := injectionDuration.toNat
  let injection :=
    match mode with
    | .endOfInjection =>
      let eoiI := phaseI - injTgtI
      (norm7200I32 (eoiI - injDurI), norm7200I32 eoiI)
    | .startOfInjection =>
      let soiI := phaseI - injTgtI
      (norm7200I32 soiI, norm7200I32 (soiI + injDurI))
  { soi := injection.1
    eoi := injection.2
    spark := norm7200I32 (phaseI - sparkAdvance)
    dwellStart := norm7200I32 (phaseI - sparkAdvance - dwellDuration.toNat) }

/-- An output array: zero past the live entries. -/
def perCylinder (count : UInt8) (angle : ℕ → UInt16) : RuntimeSemanticCylinderArrayU16 :=
  ⟨count, Vector.ofFn fun cyl => if cyl.val < count.toNat then angle cyl.val else 0⟩

/-! ### Events -/

variable (input : RuntimeSemanticInputSnapshot) (fuelEnabled : Bool)
  (fuel : RuntimeSemanticFuelObservations) (sparkEnabled : Bool) (angles : ℕ → CylinderAngles)
  (authority : EngineTimeAuthority)

def cylinderEvents (cyl : ℕ) : List RuntimeSemanticScheduleEvent :=
  let cylinder := UInt8.ofNat cyl
  (if fuelEnabled then
    [⟨.injectionOpen, cylinder, (angles cyl).soi⟩, ⟨.injectionClose, cylinder, (angles cyl).eoi⟩]
  else []) ++
  if sparkEnabled then
    [⟨.coilChargeStart, cylinder, (angles cyl).dwellStart⟩,
      ⟨.coilFire, cylinder, (angles cyl).spark⟩]
  else []

/-- The batch after one cylinder. Room for four events is asked for whatever is enabled. -/
def emitCylinder (events : List RuntimeSemanticScheduleEvent) (cyl : ℕ) :
    Except RuntimeSemanticScheduleError (List RuntimeSemanticScheduleEvent) :=
  if events.length + 4 > 64 then .error .eventBatchFull
  else .ok (events ++ cylinderEvents fuelEnabled sparkEnabled angles cyl)

def engineEnabled : Bool := input.mode = .cranking || input.mode = .running

def syncEnabled : Bool :=
  (input.sync matches .locked _) && Engine.runtimeFullSequentialAuthorized authority

def fuelEventsEnabled : Bool :=
  engineEnabled input && syncEnabled input authority && !fuel.fuelCut && fuel.pwCorrUs > 0

def sparkEventsEnabled : Bool :=
  engineEnabled input && syncEnabled input authority && !fuel.sparkCut

/-! ### The evaluator -/

/-- The advance of the table and the trim, clamped to the width of the observation. -/
def sparkAdvance : ℤ :=
  let base := semanticBilerpI16 cal.sparkAdvanceTableDeg10 input.rpm input.loadKpa10
  max (-32768) (min (base.toInt + fuel.advanceDeg10Trim.toInt) 32767)

def scheduleDiagnostic : RuntimeSemanticScheduleDiagnostic :=
  if fuel.fuelCut then .fuelCutActive
  else if fuel.sparkCut then .sparkCutActive
  else if engineEnabled input && !syncEnabled input authority then .unsynced
  else .none

def runtimeSemanticEvaluateScheduleWithAuthority :
    Except RuntimeSemanticScheduleError RuntimeSemanticScheduleObservations := do
  validateScheduleCalibration cal
  let rpm := input.rpm
  let load := input.loadKpa10
  let injectionDuration ← durationDeg10 fuel.pwCorrUs rpm
  let dwellUs := semanticBilerpU32 cal.dwellTableUs rpm load
  let dwellDuration ← durationDeg10 dwellUs rpm
  let advance := sparkAdvance cal input fuel
  let injectionTarget := semanticBilerpU16 cal.injectionTargetTableDeg10 rpm load
  let count := cal.cylinderPhaseDeg10.count
  let angles := fun cyl => cylinderAngles cal.injectionAngleMode injectionTarget advance
    injectionDuration dwellDuration (cell cal.cylinderPhaseDeg10.values cyl)
  let events ← (List.range count.toNat).foldlM (emitCylinder (fuelEventsEnabled input fuel authority)
    (sparkEventsEnabled input fuel authority) angles) []
  return {
    injectionTargetDeg10 := injectionTarget.toUInt16
    sparkAdvanceDeg10 := Int16.ofInt advance
    dwellUs := dwellUs
    injectionDurationDeg10 := injectionDuration
    dwellDurationDeg10 := dwellDuration
    soiDeg10 := perCylinder count fun cyl => (angles cyl).soi
    eoiDeg10 := perCylinder count fun cyl => (angles cyl).eoi
    sparkDeg10 := perCylinder count fun cyl => (angles cyl).spark
    dwellStartDeg10 := perCylinder count fun cyl => (angles cyl).dwellStart
    events := events
    diagnostic := scheduleDiagnostic input fuel authority }

def runtimeSemanticEvaluateSchedule :
    Except RuntimeSemanticScheduleError RuntimeSemanticScheduleObservations :=
  runtimeSemanticEvaluateScheduleWithAuthority cal input fuel EngineTimeAuthority.none

/-! ### What the evaluator returns -/

lemma toNat_norm7200I32 : ((norm7200I32 x).toNat : ℤ) = x % 7200 := by
  have hdvd : (7200 : ℤ) ∣ x ↔ x % 7200 = 0 := Int.dvd_iff_emod_eq_zero
  have htmod : x.tmod 7200 = if 0 ≤ x ∨ x % 7200 = 0 then x % 7200 else x % 7200 - 7200 := by
    rw [Int.tmod_eq_emod]
    simp only [hdvd]
    split_ifs
    · exact sub_zero _
    · rfl
  unfold norm7200I32 UInt16.ofInt
  rw [UInt16.toNat_ofNat', htmod]
  split_ifs <;> omega

lemma norm7200I32_lt : (norm7200I32 x).toNat < 7200 := by
  have h := toNat_norm7200I32 x
  omega

lemma norm7200I32_eq_iff {x y : ℤ} : norm7200I32 x = norm7200I32 y ↔ x % 7200 = y % 7200 := by
  rw [← UInt16.toNat_inj, ← toNat_norm7200I32, ← toNat_norm7200I32, Int.ofNat_inj]

lemma durationDeg10_eq_ok_iff {us : UInt32} {rpm d : UInt16} :
    durationDeg10 us rpm = .ok d ↔ d.toNat = us.toNat * rpm.toNat * 6 / 100000 := by
  simp only [durationDeg10]
  split_ifs with h
  · have := d.toNat_lt
    simp only [false_iff]
    omega
  · rw [Except.ok.injEq, ← UInt16.toNat_inj, UInt16.toNat_ofNat', eq_comm]
    omega

lemma cell_perCylinder {count : UInt8} (hcount : count.toNat ≤ 16) (angle : ℕ → UInt16) {cyl : ℕ}
    (h : cyl < count.toNat) : cell (perCylinder count angle).values cyl = angle cyl := by
  rw [cell_eq_getElem _ (by omega)]
  simp [perCylinder, h]

/-- A batch with room for every cylinder takes the events of all of them, in order. -/
lemma foldlM_emitCylinder {cyls : List ℕ} {events : List RuntimeSemanticScheduleEvent}
    (hroom : events.length + 4 * cyls.length ≤ 64) :
    cyls.foldlM (emitCylinder fuelEnabled sparkEnabled angles) events =
      .ok (events ++ cyls.flatMap (cylinderEvents fuelEnabled sparkEnabled angles)) := by
  induction cyls generalizing events with
  | nil => simp [pure, Except.pure]
  | cons cyl cyls ih =>
    have hfour : (cylinderEvents fuelEnabled sparkEnabled angles cyl).length ≤ 4 := by
      unfold cylinderEvents
      cases fuelEnabled <;> cases sparkEnabled <;> simp
    rw [List.length_cons] at hroom
    have hstep : emitCylinder fuelEnabled sparkEnabled angles events cyl =
        .ok (events ++ cylinderEvents fuelEnabled sparkEnabled angles cyl) :=
      if_neg (by omega)
    rw [List.foldlM_cons, hstep, List.flatMap_cons, ← List.append_assoc]
    exact ih (by rw [List.length_append]; omega)

def anglesOf (injectionDuration dwellDuration : UInt16) (cyl : ℕ) : CylinderAngles :=
  cylinderAngles cal.injectionAngleMode
    (semanticBilerpU16 cal.injectionTargetTableDeg10 input.rpm input.loadKpa10)
    (sparkAdvance cal input fuel) injectionDuration dwellDuration
    (cell cal.cylinderPhaseDeg10.values cyl)

/-- What is returned once both durations fit. -/
def observations (injectionDuration dwellDuration : UInt16) : RuntimeSemanticScheduleObservations :=
  let count := cal.cylinderPhaseDeg10.count
  let angles := anglesOf cal input fuel injectionDuration dwellDuration
  { injectionTargetDeg10 :=
      (semanticBilerpU16 cal.injectionTargetTableDeg10 input.rpm input.loadKpa10).toUInt16
    sparkAdvanceDeg10 := Int16.ofInt (sparkAdvance cal input fuel)
    dwellUs := semanticBilerpU32 cal.dwellTableUs input.rpm input.loadKpa10
    injectionDurationDeg10 := injectionDuration
    dwellDurationDeg10 := dwellDuration
    soiDeg10 := perCylinder count fun cyl => (angles cyl).soi
    eoiDeg10 := perCylinder count fun cyl => (angles cyl).eoi
    sparkDeg10 := perCylinder count fun cyl => (angles cyl).spark
    dwellStartDeg10 := perCylinder count fun cyl => (angles cyl).dwellStart
    events := (List.range count.toNat).flatMap (cylinderEvents
      (fuelEventsEnabled input fuel authority) (sparkEventsEnabled input fuel authority) angles)
    diagnostic := scheduleDiagnostic input fuel authority }

variable {cal}

/-- **On an accepted calibration the evaluator fails only on a duration that does not fit.** -/
lemma evaluate_eq_ok_iff (hval : validateScheduleCalibration cal = .ok ())
    (hcount : cal.cylinderPhaseDeg10.count.toNat ≤ 8) (input : RuntimeSemanticInputSnapshot)
    (fuel : RuntimeSemanticFuelObservations) (authority : EngineTimeAuthority)
    (obs : RuntimeSemanticScheduleObservations) :
    runtimeSemanticEvaluateScheduleWithAuthority cal input fuel authority = .ok obs ↔
      ∃ injectionDuration dwellDuration,
        durationDeg10 fuel.pwCorrUs input.rpm = .ok injectionDuration ∧
        durationDeg10 (semanticBilerpU32 cal.dwellTableUs input.rpm input.loadKpa10) input.rpm =
          .ok dwellDuration ∧
        obs = observations cal input fuel authority injectionDuration dwellDuration := by
  unfold runtimeSemanticEvaluateScheduleWithAuthority
  simp only [hval, bind, Except.bind]
  cases durationDeg10 fuel.pwCorrUs input.rpm with
  | error e => simp
  | ok injectionDuration =>
    cases durationDeg10 (semanticBilerpU32 cal.dwellTableUs input.rpm input.loadKpa10) input.rpm with
    | error e => simp
    | ok dwellDuration =>
      -- eight cylinders with four events each are half of what the batch holds
      have hroom : ([] : List RuntimeSemanticScheduleEvent).length +
          4 * (List.range cal.cylinderPhaseDeg10.count.toNat).length ≤ 64 := by
        rw [List.length_range, List.length_nil]
        omega
      dsimp only
      rw [foldlM_emitCylinder _ _ _ hroom]
      simp only [Except.ok.injEq, exists_eq_left', exists_and_left, List.nil_append, pure,
        Except.pure]
      exact eq_comm

end Pipoco.SemSchedule
