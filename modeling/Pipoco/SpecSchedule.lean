import Pipoco.SpecFuel

/-!
The event angles of the specification against those of the runtime.

The two normalise at different points, which makes no difference in a cycle. The runtime clamps the
advance to its width before it takes an angle from it; the specification only clamps what it
reports, so a sum of table and trim that leaves the width gives different angles, unless the part
that was cut off is a whole number of cycles.
-/

namespace Pipoco.Spec

open Domain SemFuel SemTables

/-! ### The specification -/

variable (array : CylinderArrayU16) (input : InputSnapshot)

inductive EventKind
  | injectionOpen | injectionClose | coilChargeStart | coilFire
  deriving DecidableEq, Repr

structure SemanticEvent where
  kind : EventKind
  cylinder : UInt8
  angleDeg10 : UInt16
  deriving DecidableEq, Repr

inductive DiagnosticCode
  | none | fuelCutActive | sparkCutActive | unsynced | sensorPlausibilityFault | calibrationInvalid
  deriving DecidableEq, Repr

def maxEventsPerStep : ℕ := 64

/-- A batch is its events up to its length. -/
def push (events : List SemanticEvent) (event : SemanticEvent) : Option (List SemanticEvent) :=
  if events.length ≥ maxEventsPerStep then none else some (events ++ [event])

/-- Pushes one by one; stops at the first that fails. -/
def pushAll : List SemanticEvent → List SemanticEvent → List SemanticEvent × Bool
  | events, [] => (events, true)
  | events, event :: rest =>
    match push events event with
    | none => (events, false)
    | some events => pushAll events rest

structure FuelOutput where
  pwCorrUs : UInt32 := 0

structure CylinderSchedule where
  (soiDeg10 eoiDeg10 sparkDeg10 dwellStartDeg10 : UInt16)
  deriving DecidableEq

def noCylinders : CylinderArrayU16 := ⟨0, .replicate 16 0⟩

def CylinderArrayU16.put (cyl : ℕ) (value : UInt16) : CylinderArrayU16 :=
  { array with values := array.values.setIfInBounds cyl value }

structure ScheduleOutput where
  injectionTargetDeg10 : UInt16
  sparkAdvanceDeg10 : Int16
  dwellUs : UInt32
  (injectionDurationDeg10 dwellDurationDeg10 : UInt16)
  /-- The count of an output array stays zero. -/
  soiDeg10 : CylinderArrayU16 := noCylinders
  eoiDeg10 : CylinderArrayU16 := noCylinders
  sparkDeg10 : CylinderArrayU16 := noCylinders
  dwellStartDeg10 : CylinderArrayU16 := noCylinders
  events : List SemanticEvent
  diagnostic : DiagnosticCode
  deriving DecidableEq

def norm7200 (value : ℤ) : UInt16 :=
  let normalized := value.tmod 7200
  UInt16.ofInt (if normalized < 0 then normalized + 7200 else normalized)

/-- A duration that does not fit keeps its low bits. -/
def durationUsToDeg10 (pwUs : UInt32) (rpm : UInt16) : UInt16 :=
  UInt16.ofNat (pwUs.toNat * rpm.toNat * 6 / 100000)

def engineEnabled : Bool := input.mode = .cranking || input.mode = .running

def syncEnabled : Bool := input.sync = .synced

def diagnosticForInput : DiagnosticCode :=
  if input.fuelCut then .fuelCutActive
  else if input.sparkCut then .sparkCutActive
  else if engineEnabled input && !syncEnabled input then .unsynced
  else .none

section Schedule

variable (cal : ValidatedCalibration) (input : InputSnapshot) (fuel : FuelOutput)
  (advanceTrimDeg10 : Int16)

def computeSparkAdvanceDeg10 : Int16 :=
  bilerpI16 cal.raw.sparkAdvanceTableDeg10 input.rpm input.loadKpa10

def computeDwellUs : UInt32 := bilerpU32 cal.raw.dwellTableUs input.rpm input.loadKpa10

def computeInjectionTargetDeg10 : UInt16 :=
  bilerpU16 cal.raw.injectionTargetTableDeg10 input.rpm input.loadKpa10

def scheduleCylinderWithAdvanceTrim (cylIndex : ℕ) : CylinderSchedule :=
  let phase : ℤ := (cell cal.raw.cylinderPhaseDeg10.values cylIndex).toNat
  let injectionTarget : ℤ := (computeInjectionTargetDeg10 cal input).toNat
  let sparkAdvance := (computeSparkAdvanceDeg10 cal input).toInt + advanceTrimDeg10.toInt
  let injectionDuration : ℤ := (durationUsToDeg10 fuel.pwCorrUs input.rpm).toNat
  let dwellDuration : ℤ := (durationUsToDeg10 (computeDwellUs cal input) input.rpm).toNat
  let injection :=
    match cal.raw.injectionAngleMode with
    | .endOfInjection =>
      let eoi := norm7200 (phase - injectionTarget)
      (norm7200 (eoi.toNat - injectionDuration), eoi)
    | .startOfInjection =>
      let soi := norm7200 (phase - injectionTarget)
      (soi, norm7200 (soi.toNat + injectionDuration))
  let spark := norm7200 (phase - sparkAdvance)
  ⟨injection.1, injection.2, spark, norm7200 (spark.toNat - dwellDuration)⟩

def cylinderEvents (schedule : CylinderSchedule) (cyl : ℕ) : List SemanticEvent :=
  let cylinder := UInt8.ofNat cyl
  let enabled := engineEnabled input && syncEnabled input
  (if enabled && !input.fuelCut && fuel.pwCorrUs > 0 then
    [⟨.injectionOpen, cylinder, schedule.soiDeg10⟩, ⟨.injectionClose, cylinder, schedule.eoiDeg10⟩]
  else []) ++
  if enabled && !input.sparkCut then
    [⟨.coilChargeStart, cylinder, schedule.dwellStartDeg10⟩,
      ⟨.coilFire, cylinder, schedule.sparkDeg10⟩]
  else []

/-- The angles of a cylinder are written before its events; a full batch ends the loop. -/
def scheduleLoop : List ℕ → ScheduleOutput → ScheduleOutput
  | [], out => out
  | cyl :: cyls, out =>
    let schedule := scheduleCylinderWithAdvanceTrim cal input fuel advanceTrimDeg10 cyl
    let pushed := pushAll out.events (cylinderEvents input fuel schedule cyl)
    let out := { out with
      soiDeg10 := out.soiDeg10.put cyl schedule.soiDeg10
      eoiDeg10 := out.eoiDeg10.put cyl schedule.eoiDeg10
      sparkDeg10 := out.sparkDeg10.put cyl schedule.sparkDeg10
      dwellStartDeg10 := out.dwellStartDeg10.put cyl schedule.dwellStartDeg10
      events := pushed.1 }
    if pushed.2 then scheduleLoop cyls out else { out with diagnostic := .calibrationInvalid }

def scheduleAllCylindersWithSeededEvents (seededEvents : List SemanticEvent) : ScheduleOutput :=
  let sum := (computeSparkAdvanceDeg10 cal input).toInt + advanceTrimDeg10.toInt
  scheduleLoop cal input fuel advanceTrimDeg10
    (List.range cal.raw.cylinderPhaseDeg10.count.toNat)
    { injectionTargetDeg10 := computeInjectionTargetDeg10 cal input
      sparkAdvanceDeg10 := Int16.ofInt (max (-32768) (min sum 32767))
      dwellUs := computeDwellUs cal input
      injectionDurationDeg10 := durationUsToDeg10 fuel.pwCorrUs input.rpm
      dwellDurationDeg10 := durationUsToDeg10 (computeDwellUs cal input) input.rpm
      events := seededEvents
      diagnostic := diagnosticForInput input }

def scheduleAllCylindersWithAdvanceTrim : ScheduleOutput :=
  scheduleAllCylindersWithSeededEvents cal input fuel advanceTrimDeg10 []

end Schedule

/-! ### The loop -/

variable (cal : ValidatedCalibration)

lemma cell_put {cyl i : ℕ} (hi : i < 16) (value : UInt16) :
    cell (array.put cyl value).values i = if cyl = i then value else cell array.values i := by
  rw [cell_eq_getElem _ hi, cell_eq_getElem _ hi]
  exact Vector.getElem_setIfInBounds hi

def ScheduleOutput.at (out : ScheduleOutput) (cyl : ℕ) : CylinderSchedule :=
  ⟨cell out.soiDeg10.values cyl, cell out.eoiDeg10.values cyl, cell out.sparkDeg10.values cyl,
    cell out.dwellStartDeg10.values cyl⟩

lemma pushAll_of_room {events new : List SemanticEvent}
    (h : events.length + new.length ≤ maxEventsPerStep) :
    pushAll events new = (events ++ new, true) := by
  induction new generalizing events with
  | nil => simp [pushAll]
  | cons event new ih =>
    rw [List.length_cons] at h
    have hpush : push events event = some (events ++ [event]) := if_neg (by omega)
    have hrest : pushAll (events ++ [event]) new = (events ++ [event] ++ new, true) :=
      ih (by simp; omega)
    simp only [pushAll, hpush, hrest, List.append_assoc, List.singleton_append]

lemma length_cylinderEvents_le (fuel : FuelOutput) (schedule : CylinderSchedule) (cyl : ℕ) :
    (cylinderEvents input fuel schedule cyl).length ≤ 4 := by
  unfold cylinderEvents
  simp only [List.length_append]
  split_ifs <;> simp

variable {cal} in
/-- While the batch has room, every cylinder of the loop gets its angles and no other is touched. -/
lemma at_scheduleLoop {input : InputSnapshot} {fuel : FuelOutput} {trim : Int16} {cyls : List ℕ}
    {out : ScheduleOutput} {cyl : ℕ} (hcyl : cyl < 16)
    (hroom : out.events.length + 4 * cyls.length ≤ maxEventsPerStep) :
    (scheduleLoop cal input fuel trim cyls out).at cyl =
      if cyl ∈ cyls then scheduleCylinderWithAdvanceTrim cal input fuel trim cyl
      else out.at cyl := by
  induction cyls generalizing out with
  | nil => simp [scheduleLoop]
  | cons first cyls ih =>
    rw [List.length_cons] at hroom
    have hfour := length_cylinderEvents_le input fuel
      (scheduleCylinderWithAdvanceTrim cal input fuel trim first) first
    have hpushed : pushAll out.events (cylinderEvents input fuel
        (scheduleCylinderWithAdvanceTrim cal input fuel trim first) first) =
        (out.events ++ cylinderEvents input fuel
          (scheduleCylinderWithAdvanceTrim cal input fuel trim first) first, true) :=
      pushAll_of_room (by omega)
    unfold scheduleLoop
    simp only [hpushed, if_true]
    rw [ih (by simp only [List.length_append]; omega)]
    by_cases hmem : cyl ∈ cyls
    · rw [if_pos hmem, if_pos (List.mem_cons_of_mem _ hmem)]
    · rw [if_neg hmem]
      simp only [ScheduleOutput.at, cell_put _ hcyl, List.mem_cons, hmem, or_false]
      by_cases heq : first = cyl
      · subst heq
        simp
      · simp [heq, Ne.symm heq]

/-- **The specification gives every cylinder its angles.** -/
lemma at_scheduleAll (input : InputSnapshot) (fuel : FuelOutput) (trim : Int16) {cyl : ℕ}
    (hcyl : cyl < cal.raw.cylinderPhaseDeg10.count.toNat) :
    (scheduleAllCylindersWithAdvanceTrim cal input fuel trim).at cyl =
      scheduleCylinderWithAdvanceTrim cal input fuel trim cyl := by
  have hcount := cal.cylinderCount_mem.2
  refine (at_scheduleLoop (by omega) ?_).trans (if_pos (List.mem_range.mpr hcyl))
  rw [List.length_range, maxEventsPerStep]
  simp only [List.length_nil]
  omega

/-! ### Agreement -/

/-- The runtime takes the calibration of the schedule as well. -/
lemma ValidatedCalibration.validate_toSchedule :
    SemSchedule.validateScheduleCalibration cal.raw.toSchedule = .ok () := by
  have haxes : ∀ axis ∈ cal.raw.toSchedule.axes, AxisOk axis := by
    simp only [SemSchedule.RuntimeSemanticScheduleCalibration.axes, List.forall_mem_cons,
      List.not_mem_nil, false_imp_iff, implies_true, and_true]
    exact ⟨axisOk cal.sparkAdvance.rpm, axisOk cal.sparkAdvance.load, axisOk cal.dwell.rpm,
      axisOk cal.dwell.load, axisOk cal.injectionTarget.rpm, axisOk cal.injectionTarget.load⟩
  have hlen : ¬ (cal.raw.toSchedule.axes.any fun axis =>
      ¬ (2 ≤ axis.len.toNat ∧ axis.len.toNat ≤ runtimeSemanticTableLen)) = true := by
    rw [List.any_eq_true]
    rintro ⟨axis, hmem, hbad⟩
    exact of_decide_eq_true hbad ⟨(haxes axis hmem).two_le, (haxes axis hmem).le_sixteen⟩
  have hord : ¬ (cal.raw.toSchedule.axes.any fun axis =>
      (List.range (axis.len.toNat - 1)).any fun idx =>
        cell axis.values idx ≥ cell axis.values (idx + 1)) = true := by
    rw [List.any_eq_true]
    rintro ⟨axis, hmem, hbad⟩
    obtain ⟨idx, hidx, hge⟩ := List.any_eq_true.mp hbad
    have hlt := (haxes axis hmem).increasing idx (by have := List.mem_range.mp hidx; omega)
    have hle := UInt16.le_iff_toNat_le.mp (of_decide_eq_true hge)
    unfold points at hlt
    omega
  have hcount : 1 ≤ cal.raw.cylinderPhaseDeg10.count.toNat ∧
      cal.raw.cylinderPhaseDeg10.count.toNat ≤ 8 := cal.cylinderCount_mem
  have hphase : ¬ ((List.range cal.raw.cylinderPhaseDeg10.count.toNat).any fun idx =>
      cell cal.raw.cylinderPhaseDeg10.values idx ≥ 7200) = true := by
    have hphases := reject_eq_ok (cal.check 36 rfl)
    rw [List.any_eq_true]
    rintro ⟨idx, hidx, hge⟩
    rw [List.any_eq_false] at hphases
    refine hphases idx hidx (decide_eq_true ?_)
    have hle := UInt16.le_iff_toNat_le.mp (of_decide_eq_true hge)
    exact UInt16.lt_iff_toNat_lt.mpr (Nat.lt_of_lt_of_le (by decide) hle)
  exact (if_neg hlen).trans ((if_neg hord).trans ((if_neg (not_not.mpr hcount)).trans
    (if_neg hphase)))

section Agreement

variable (cal : ValidatedCalibration) (input : RuntimeSemanticInputSnapshot)
  (fuel : RuntimeSemanticFuelObservations) (authority : EngineTimeAuthority)

/-- What the specification schedules for the same step. -/
def specSchedule : ScheduleOutput :=
  scheduleAllCylindersWithAdvanceTrim cal (specInput input) ⟨fuel.pwCorrUs⟩ fuel.advanceDeg10Trim

/-- The observations of a schedule are those of the specification, lie in the cycle, are apart by
the durations, and are armed in pairs. -/
structure ScheduleAsSpecified (obs : SemSchedule.RuntimeSemanticScheduleObservations) : Prop where
  soi : ∀ cyl < cal.raw.cylinderPhaseDeg10.count.toNat,
    cell obs.soiDeg10.values cyl = cell (specSchedule cal input fuel).soiDeg10.values cyl
  eoi : ∀ cyl < cal.raw.cylinderPhaseDeg10.count.toNat,
    cell obs.eoiDeg10.values cyl = cell (specSchedule cal input fuel).eoiDeg10.values cyl
  spark : ∀ cyl < cal.raw.cylinderPhaseDeg10.count.toNat,
    cell obs.sparkDeg10.values cyl = cell (specSchedule cal input fuel).sparkDeg10.values cyl
  dwellStart : ∀ cyl < cal.raw.cylinderPhaseDeg10.count.toNat,
    cell obs.dwellStartDeg10.values cyl =
      cell (specSchedule cal input fuel).dwellStartDeg10.values cyl
  in_cycle : ∀ cyl < cal.raw.cylinderPhaseDeg10.count.toNat,
    (cell obs.soiDeg10.values cyl).toNat < 7200 ∧ (cell obs.eoiDeg10.values cyl).toNat < 7200 ∧
      (cell obs.sparkDeg10.values cyl).toNat < 7200 ∧
      (cell obs.dwellStartDeg10.values cyl).toNat < 7200
  injection : ∀ cyl < cal.raw.cylinderPhaseDeg10.count.toNat,
    ((cell obs.eoiDeg10.values cyl).toNat - (cell obs.soiDeg10.values cyl).toNat : ℤ) ≡
      obs.injectionDurationDeg10.toNat [ZMOD 7200]
  dwell : ∀ cyl < cal.raw.cylinderPhaseDeg10.count.toNat,
    ((cell obs.sparkDeg10.values cyl).toNat - (cell obs.dwellStartDeg10.values cyl).toNat : ℤ) ≡
      obs.dwellDurationDeg10.toNat [ZMOD 7200]
  events : obs.events = (List.range cal.raw.cylinderPhaseDeg10.count.toNat).flatMap fun cyl =>
    (if SemSchedule.fuelEventsEnabled input fuel authority then
      [⟨.injectionOpen, UInt8.ofNat cyl, cell obs.soiDeg10.values cyl⟩,
        ⟨.injectionClose, UInt8.ofNat cyl, cell obs.eoiDeg10.values cyl⟩]
    else []) ++
    if SemSchedule.sparkEventsEnabled input fuel authority then
      [⟨.coilChargeStart, UInt8.ofNat cyl, cell obs.dwellStartDeg10.values cyl⟩,
        ⟨.coilFire, UInt8.ofNat cyl, cell obs.sparkDeg10.values cyl⟩]
    else []

def advanceSum : ℤ :=
  (computeSparkAdvanceDeg10 cal (specInput input)).toInt + fuel.advanceDeg10Trim.toInt

/-- The part of the sum that does not fit its width is a whole number of cycles. -/
def AdvanceAgrees : Prop :=
  (advanceSum cal input fuel - max (-32768) (min (advanceSum cal input fuel) 32767)) % 7200 = 0

/-- Both durations fit their width at this speed. -/
def DurationsFit : Prop :=
  fuel.pwCorrUs.toNat * input.rpm.toNat * 6 / 100000 ≤ 65535 ∧
    (computeDwellUs cal (specInput input)).toNat * input.rpm.toNat * 6 / 100000 ≤ 65535

end Agreement

section Angles

variable {cal : ValidatedCalibration} {input : RuntimeSemanticInputSnapshot}
  {fuel : RuntimeSemanticFuelObservations} {authority : EngineTimeAuthority}

lemma sparkAdvance_toSchedule : SemSchedule.sparkAdvance cal.raw.toSchedule input fuel =
    max (-32768) (min (advanceSum cal input fuel) 32767) := by
  have hbase := toInt_semanticBilerpI16 cal.sparkAdvance input.rpm input.loadKpa10
  exact congrArg (fun base => max (-32768) (min (base + fuel.advanceDeg10Trim.toInt) 32767)) hbase

lemma norm7200_eq (value : ℤ) : norm7200 value = SemSchedule.norm7200I32 value := rfl

lemma durationUsToDeg10_eq {us : UInt32} {rpm d : UInt16}
    (h : SemSchedule.durationDeg10 us rpm = .ok d) : durationUsToDeg10 us rpm = d := by
  rw [durationUsToDeg10, ← SemSchedule.durationDeg10_eq_ok_iff.mp h, UInt16.ofNat_toNat]

variable (input cal fuel) in
/-- The angles of the runtime once both durations fit. -/
abbrev runtimeAngles (injectionDuration dwellDuration : UInt16) (cyl : ℕ) :
    SemSchedule.CylinderAngles :=
  SemSchedule.anglesOf cal.raw.toSchedule input fuel injectionDuration dwellDuration cyl

variable {injectionDuration dwellDuration : UInt16}

lemma injection_eq (cyl : ℕ)
    (hinjection : SemSchedule.durationDeg10 fuel.pwCorrUs input.rpm = .ok injectionDuration) :
    let runtime := runtimeAngles cal input fuel injectionDuration dwellDuration cyl
    let spec := scheduleCylinderWithAdvanceTrim cal (specInput input) ⟨fuel.pwCorrUs⟩
      fuel.advanceDeg10Trim cyl
    runtime.soi = spec.soiDeg10 ∧ runtime.eoi = spec.eoiDeg10 ∧
      ((runtime.eoi.toNat - runtime.soi.toNat : ℤ) ≡ injectionDuration.toNat [ZMOD 7200]) := by
  have htarget := toNat_semanticBilerpU16 cal.injectionTarget input.rpm input.loadKpa10
  have hduration : durationUsToDeg10 fuel.pwCorrUs (specInput input).rpm = injectionDuration :=
    durationUsToDeg10_eq hinjection
  have hmode : cal.raw.toSchedule.injectionAngleMode = cal.raw.injectionAngleMode.toRuntime := rfl
  have htable : cal.raw.toSchedule.injectionTargetTableDeg10 =
      tableU16 cal.raw.injectionTargetTableDeg10 := rfl
  have hspec : computeInjectionTargetDeg10 cal (specInput input) =
      bilerpU16 cal.raw.injectionTargetTableDeg10 input.rpm input.loadKpa10 := rfl
  have hphase : cal.raw.toSchedule.cylinderPhaseDeg10.values =
      cal.raw.cylinderPhaseDeg10.values := rfl
  simp only [runtimeAngles, SemSchedule.anglesOf, SemSchedule.cylinderAngles,
    scheduleCylinderWithAdvanceTrim, hmode, hduration, htable, htarget, hspec, hphase, norm7200_eq]
  -- the runtime adds the duration to the exact angle, the specification to the normalised one
  cases cal.raw.injectionAngleMode with
  | startOfInjection =>
    simp only [InjectionAngleMode.toRuntime]
    refine ⟨trivial, ?_, ?_⟩
    · rw [SemSchedule.norm7200I32_eq_iff, SemSchedule.toNat_norm7200I32]
      exact (Int.emod_add_emod _ _ _).symm
    · rw [SemSchedule.toNat_norm7200I32, SemSchedule.toNat_norm7200I32, Int.ModEq]
      omega
  | endOfInjection =>
    simp only [InjectionAngleMode.toRuntime]
    refine ⟨?_, trivial, ?_⟩
    · rw [SemSchedule.norm7200I32_eq_iff, SemSchedule.toNat_norm7200I32]
      omega
    · rw [SemSchedule.toNat_norm7200I32, SemSchedule.toNat_norm7200I32, Int.ModEq]
      omega

lemma spark_eq (cyl : ℕ)
    (hdwell : SemSchedule.durationDeg10 (computeDwellUs cal (specInput input)) input.rpm =
      .ok dwellDuration) :
    let runtime := runtimeAngles cal input fuel injectionDuration dwellDuration cyl
    let spec := scheduleCylinderWithAdvanceTrim cal (specInput input) ⟨fuel.pwCorrUs⟩
      fuel.advanceDeg10Trim cyl
    (runtime.spark = spec.sparkDeg10 ↔ AdvanceAgrees cal input fuel) ∧
      (runtime.dwellStart = spec.dwellStartDeg10 ↔ AdvanceAgrees cal input fuel) ∧
      ((runtime.spark.toNat - runtime.dwellStart.toNat : ℤ) ≡ dwellDuration.toNat [ZMOD 7200]) := by
  have hduration : durationUsToDeg10 (computeDwellUs cal (specInput input))
      (specInput input).rpm = dwellDuration := durationUsToDeg10_eq hdwell
  have hsum : (computeSparkAdvanceDeg10 cal (specInput input)).toInt +
      fuel.advanceDeg10Trim.toInt = advanceSum cal input fuel := rfl
  have hphase : cal.raw.toSchedule.cylinderPhaseDeg10.values =
      cal.raw.cylinderPhaseDeg10.values := rfl
  simp only [runtimeAngles, SemSchedule.anglesOf, SemSchedule.cylinderAngles,
    scheduleCylinderWithAdvanceTrim, hduration, hsum, hphase, sparkAdvance_toSchedule, norm7200_eq]
  unfold AdvanceAgrees
  refine ⟨?_, ?_, ?_⟩
  · rw [SemSchedule.norm7200I32_eq_iff]
    omega
  · rw [SemSchedule.norm7200I32_eq_iff, SemSchedule.toNat_norm7200I32]
    omega
  · rw [SemSchedule.toNat_norm7200I32, SemSchedule.toNat_norm7200I32, Int.ModEq]
    omega

lemma angles_in_cycle (cyl : ℕ) :
    let runtime := runtimeAngles cal input fuel injectionDuration dwellDuration cyl
    runtime.soi.toNat < 7200 ∧ runtime.eoi.toNat < 7200 ∧ runtime.spark.toNat < 7200 ∧
      runtime.dwellStart.toNat < 7200 := by
  simp only [runtimeAngles, SemSchedule.anglesOf, SemSchedule.cylinderAngles]
  refine ⟨?_, ?_, SemSchedule.norm7200I32_lt _, SemSchedule.norm7200I32_lt _⟩
  · split <;> exact SemSchedule.norm7200I32_lt _
  · split <;> exact SemSchedule.norm7200I32_lt _

variable (cal) in
lemma cell_observed (angle : ℕ → UInt16) {cyl : ℕ}
    (hcyl : cyl < cal.raw.cylinderPhaseDeg10.count.toNat) :
    cell (SemSchedule.perCylinder cal.raw.toSchedule.cylinderPhaseDeg10.count angle).values cyl =
      angle cyl := by
  have hcount : cal.raw.toSchedule.cylinderPhaseDeg10.count.toNat ≤ 8 := cal.cylinderCount_mem.2
  exact SemSchedule.cell_perCylinder (by omega) angle hcyl

/-- **A schedule agrees with the specification exactly if the clamped advance does.** -/
lemma observations_asSpecified_iff
    (hinjection : SemSchedule.durationDeg10 fuel.pwCorrUs input.rpm = .ok injectionDuration)
    (hdwell : SemSchedule.durationDeg10 (computeDwellUs cal (specInput input)) input.rpm =
      .ok dwellDuration) :
    ScheduleAsSpecified cal input fuel authority (SemSchedule.observations cal.raw.toSchedule input
      fuel authority injectionDuration dwellDuration) ↔ AdvanceAgrees cal input fuel := by
  have hspec := fun cyl (hcyl : cyl < cal.raw.cylinderPhaseDeg10.count.toNat) =>
    at_scheduleAll cal (specInput input) ⟨fuel.pwCorrUs⟩ fuel.advanceDeg10Trim hcyl
  constructor
  · intro h
    -- there is a first cylinder
    have hzero : 0 < cal.raw.cylinderPhaseDeg10.count.toNat := cal.cylinderCount_mem.1
    have hspark := h.spark 0 hzero
    unfold SemSchedule.observations at hspark
    rw [cell_observed cal _ hzero] at hspark
    exact (spark_eq 0 hdwell).1.mp
      (hspark.trans (congrArg CylinderSchedule.sparkDeg10 (hspec 0 hzero)))
  · intro hagrees
    unfold SemSchedule.observations
    refine ⟨fun cyl hcyl => ?_, fun cyl hcyl => ?_, fun cyl hcyl => ?_, fun cyl hcyl => ?_,
      fun cyl hcyl => ?_, fun cyl hcyl => ?_, fun cyl hcyl => ?_, ?_⟩
    · rw [cell_observed cal _ hcyl]
      exact (injection_eq cyl hinjection).1.trans
        (congrArg CylinderSchedule.soiDeg10 (hspec cyl hcyl)).symm
    · rw [cell_observed cal _ hcyl]
      exact (injection_eq cyl hinjection).2.1.trans
        (congrArg CylinderSchedule.eoiDeg10 (hspec cyl hcyl)).symm
    · rw [cell_observed cal _ hcyl]
      exact ((spark_eq cyl hdwell).1.mpr hagrees).trans
        (congrArg CylinderSchedule.sparkDeg10 (hspec cyl hcyl)).symm
    · rw [cell_observed cal _ hcyl]
      exact ((spark_eq cyl hdwell).2.1.mpr hagrees).trans
        (congrArg CylinderSchedule.dwellStartDeg10 (hspec cyl hcyl)).symm
    · simp only [cell_observed cal _ hcyl]
      exact angles_in_cycle cyl
    · simp only [cell_observed cal _ hcyl]
      exact (injection_eq cyl hinjection).2.2
    · simp only [cell_observed cal _ hcyl]
      exact (spark_eq cyl hdwell).2.2
    · refine List.flatMap_congr fun cyl hcyl => ?_
      simp only [cell_observed cal _ (List.mem_range.mp hcyl)]
      rfl

end Angles

/-- **Whenever the runtime returns a schedule, it is that of the specification, exactly if either
the durations do not fit, so that none is returned, or the clamped advance agrees.** -/
theorem schedule_asSpecified_iff (cal : ValidatedCalibration) (input : RuntimeSemanticInputSnapshot)
    (fuel : RuntimeSemanticFuelObservations) (authority : EngineTimeAuthority) :
    (∀ obs, SemSchedule.runtimeSemanticEvaluateScheduleWithAuthority cal.raw.toSchedule input fuel
        authority = .ok obs → ScheduleAsSpecified cal input fuel authority obs) ↔
      (DurationsFit cal input fuel → AdvanceAgrees cal input fuel) := by
  have hdwell : SemSchedule.semanticBilerpU32 cal.raw.toSchedule.dwellTableUs input.rpm
      input.loadKpa10 = computeDwellUs cal (specInput input) :=
    semanticBilerpU32_eq cal.dwell input.rpm input.loadKpa10
  have hok := SemSchedule.evaluate_eq_ok_iff cal.validate_toSchedule cal.cylinderCount_mem.2 input
    fuel authority
  simp only [hdwell] at hok
  constructor
  · rintro h ⟨hfitInjection, hfitDwell⟩
    obtain ⟨injectionDuration, hinjection⟩ :
        ∃ d, SemSchedule.durationDeg10 fuel.pwCorrUs input.rpm = .ok d :=
      ⟨_, if_neg (Nat.not_lt.mpr hfitInjection)⟩
    obtain ⟨dwellDuration, hdwell⟩ :
        ∃ d, SemSchedule.durationDeg10 (computeDwellUs cal (specInput input)) input.rpm = .ok d :=
      ⟨_, if_neg (Nat.not_lt.mpr hfitDwell)⟩
    exact (observations_asSpecified_iff hinjection hdwell).mp
      (h _ ((hok _).mpr ⟨_, _, hinjection, hdwell, rfl⟩))
  · intro h obs hobs
    obtain ⟨injectionDuration, dwellDuration, hinjection, hdwell, rfl⟩ := (hok obs).mp hobs
    refine (observations_asSpecified_iff hinjection hdwell).mpr (h ⟨?_, ?_⟩)
    · rw [← SemSchedule.durationDeg10_eq_ok_iff.mp hinjection]
      exact Nat.le_of_lt_succ injectionDuration.toNat_lt
    · rw [← SemSchedule.durationDeg10_eq_ok_iff.mp hdwell]
      exact Nat.le_of_lt_succ dwellDuration.toNat_lt

lemma flatRaw_usual_accepted : validateCalibration (flatRaw 10000 8000) = .ok () := by
  decide +kernel

/-- An advance of 15 degrees everywhere. -/
def usualFuel : ValidatedCalibration := ⟨flatRaw 10000 8000, flatRaw_usual_accepted⟩

/-- A pulse of five milliseconds with the given trim. -/
def trimmed (trim : Int16) : RuntimeSemanticFuelObservations where
  vePctX100 := 8000
  targetAfrX100 := 1470
  pwBaseUs := 8000
  pwAirUs := 8000
  pwCorrUs := 5000
  warmupCorrX1000 := 1000
  fuelCut := false
  sparkCut := false
  lambdaCorrectionX1000 := 1000
  lambdaIntegratorState := ⟨0, -2000, 2000, true⟩
  idleDutyX1000 := 0
  idleIntegratorState := ⟨0, -2000, 2000, true⟩
  advanceDeg10Trim := trim

/-- With the largest trim the runtime fires the first cylinder 15 degrees after the specification. -/
theorem sparkAngle_clamped :
    ((SemSchedule.runtimeSemanticEvaluateSchedule usualFuel.raw.toSchedule (cruising 3000 500 1000)
        (trimmed 32767)).toOption.map fun obs => cell obs.sparkDeg10.values 0) = some 3233 ∧
      cell (specSchedule usualFuel (cruising 3000 500 1000) (trimmed 32767)).sparkDeg10.values 0 =
        3083 := by
  refine ⟨?_, ?_⟩ <;> decide +kernel

end Pipoco.Spec
