import Pipoco.Domain

/-!
The control planners of the runtime: enrichment, lambda trim, torque, ignition and the direct
pulse-width table.

Each planner keeps a small state of its own and is updated once per step. Two of them clamp
between configured limits, and a clamp with crossed limits stops the firmware.
-/

namespace Pipoco.Control

open Domain

def clampInt (v lo hi : ℤ) : ℤ := max lo (min v hi)

lemma toInt_clamp (v lo hi : Int16) :
    (max lo (min v hi)).toInt = clampInt v.toInt lo.toInt hi.toInt := by
  rw [map_max Int16.le_iff_toInt_le, map_min Int16.le_iff_toInt_le, clampInt]

/-! ### Enrichment -/

structure StartupConfig where
  percentX100 : UInt16
  taperTimeMs : UInt32
  deriving DecidableEq

def StartupConfig.default : StartupConfig := ⟨150, 3000⟩

structure WarmupConfig where
  (startC endC : Int16)
  (maxPercentX100 minPercentX100 : UInt16)
  deriving DecidableEq

def WarmupConfig.default : WarmupConfig := ⟨-20, 60, 140, 100⟩

structure AfterStartConfig where
  percentX100 : UInt16
  (taperTimeMs lockoutMs : UInt32)
  deriving DecidableEq

def AfterStartConfig.default : AfterStartConfig := ⟨120, 5000, 2000⟩

structure AccelerationConfig where
  (tpsdotThreshPctS mapdotThreshKpaS : Int16)
  percentX100 : UInt16
  (decayTimeMs lockoutMs : UInt32)
  deriving DecidableEq

def AccelerationConfig.default : AccelerationConfig := ⟨150, 80, 115, 400, 150⟩

inductive FuelWarmupTemperatureMode
  | inactive | coldClamp | interpolating | hotClamp | neutralFallback
  deriving DecidableEq, Repr

variable (c : WarmupConfig)

def WarmupConfig.computePercentX100 (cltC : Int16) : UInt16 :=
  let lo : ℤ := (min c.minPercentX100 c.maxPercentX100).toNat
  let hi : ℤ := (max c.minPercentX100 c.maxPercentX100).toNat
  let configuredMax : ℤ := c.maxPercentX100.toNat
  let configuredMin : ℤ := c.minPercentX100.toNat
  let percent (v : ℤ) := UInt16.ofInt (clampInt v lo hi)
  if c.startC ≥ c.endC then percent 100
  else if cltC ≤ c.startC then percent configuredMax
  else if cltC ≥ c.endC then percent configuredMin
  else
    -- the differences wrap in 16 bits; the product of the next line fits 32
    let span := (c.endC - c.startC).toInt
    let pos := (cltC - c.startC).toInt
    percent (configuredMax - ((configuredMax - configuredMin) * pos).tdiv span)

def WarmupConfig.temperatureMode (cltC : Int16) : FuelWarmupTemperatureMode :=
  if c.startC ≥ c.endC then .neutralFallback
  else if cltC ≤ c.startC then .coldClamp
  else if cltC ≥ c.endC then .hotClamp
  else .interpolating

structure EnrichmentInputs where
  nowUs : Micros
  cltC : Int16
  (cranking justStarted : Bool)
  (tpsdotPctS mapdotKpaS : Int16)
  deriving DecidableEq

structure EnrichmentResult where
  (startupX100 warmupX100 afterStartX100 accelerationX100 : UInt16)
  deriving DecidableEq

namespace EnrichmentResult

variable (e : EnrichmentResult)

/-- The running product is kept in 32 bits and cut to 16 at the end. -/
def totalX100 : UInt16 :=
  let startup := e.startupX100.toUInt32
  let warm := startup * e.warmupX100.toUInt32 / 100
  let after := warm * e.afterStartX100.toUInt32 / 100
  (after * e.accelerationX100.toUInt32 / 100).toUInt16

def applyTo (base : PulseWidthUs) : PulseWidthUs :=
  let scaled := base.toUInt32 * e.totalX100.toUInt32 / 100
  if scaled > 65535 then 65535 else scaled.toUInt16

end EnrichmentResult

def taperedPercent (percentX100 : UInt16) (taperUs elapsed : UInt32) : UInt16 :=
  let extra := (satSub16 percentX100 100).toUInt32
  (100 + extra * (taperUs - elapsed) / max taperUs 1).toUInt16

def taperRemainingMs (startUs nowUs : Micros) (taperTimeMs : UInt32) : UInt16 :=
  let taperUs := satMul32 taperTimeMs 1000
  let elapsed := nowUs - startUs
  if elapsed ≥ taperUs then 0 else (min ((taperUs - elapsed) / 1000) 65535).toUInt16

structure StartupState where
  active : Bool
  startUs : Micros
  deriving DecidableEq

namespace StartupState

variable (s : StartupState) (nowUs : Micros)

def new : StartupState := ⟨false, 0⟩

def update (cranking : Bool) (cfg : StartupConfig) : StartupState × UInt16 :=
  if cranking then (⟨true, nowUs⟩, cfg.percentX100)
  else if !s.active then (s, 100)
  else
    let elapsed := nowUs - s.startUs
    let taperUs := satMul32 cfg.taperTimeMs 1000
    if elapsed ≥ taperUs then ({ s with active := false }, 100)
    else (s, taperedPercent cfg.percentX100 taperUs elapsed)

def remainingMs (cfg : StartupConfig) : UInt16 :=
  if !s.active then 0 else taperRemainingMs s.startUs nowUs cfg.taperTimeMs

end StartupState

structure AfterStartState where
  active : Bool
  (startUs lastTriggerUs : Micros)
  deriving DecidableEq

namespace AfterStartState

variable (s : AfterStartState) (nowUs : Micros) (justStarted : Bool) (cfg : AfterStartConfig)

def new : AfterStartState := ⟨false, 0, 0⟩

/-- A start outside the lockout begins the window. -/
def trigger : AfterStartState :=
  if justStarted && (s.lastTriggerUs = 0 ||
      nowUs - s.lastTriggerUs ≥ satMul32 cfg.lockoutMs 1000) then ⟨true, nowUs, nowUs⟩
  else s

def update : AfterStartState × UInt16 :=
  let triggered := s.trigger nowUs justStarted cfg
  if !triggered.active then (triggered, 100)
  else
    let elapsed := nowUs - triggered.startUs
    let dur := satMul32 cfg.taperTimeMs 1000
    if elapsed ≥ dur then ({ triggered with active := false }, 100)
    else (triggered, taperedPercent cfg.percentX100 dur elapsed)

def remainingMs : UInt16 :=
  if !s.active then 0 else taperRemainingMs s.startUs nowUs cfg.taperTimeMs

end AfterStartState

structure AccelerationState where
  active : Bool
  currentPercentX100 : UInt16
  lastTriggerUs : Micros
  deriving DecidableEq

namespace AccelerationState

def new : AccelerationState := ⟨false, 100, 0⟩

/-- Unlike the other tapers this one is computed in 64 bits. -/
def update (s : AccelerationState) (nowUs : Micros) (tpsdotPctS mapdotKpaS : Int16)
    (cfg : AccelerationConfig) : AccelerationState × UInt16 :=
  let since := nowUs - s.lastTriggerUs
  let firstTime := s.lastTriggerUs = 0 && !s.active
  if (tpsdotPctS ≥ cfg.tpsdotThreshPctS || mapdotKpaS ≥ cfg.mapdotThreshKpaS) &&
      (firstTime || since ≥ satMul32 cfg.lockoutMs 1000) then
    (⟨true, cfg.percentX100, nowUs⟩, cfg.percentX100)
  else if s.active then
    let decayUs := satMul32 cfg.decayTimeMs 1000
    if since ≥ decayUs then (⟨false, 100, s.lastTriggerUs⟩, 100)
    else
      let extra := cfg.percentX100.toNat - 100
      let percent := UInt16.ofNat
        (100 + extra * (decayUs.toNat - since.toNat) / max decayUs.toNat 1)
      ({ s with currentPercentX100 := percent }, percent)
  else (s, s.currentPercentX100)

end AccelerationState

structure EnrichmentController where
  startup : StartupState
  afterStart : AfterStartState
  acceleration : AccelerationState
  deriving DecidableEq

namespace EnrichmentController

def new : EnrichmentController := ⟨.new, .new, .new⟩

def update (c : EnrichmentController) (inputs : EnrichmentInputs) (startupCfg : StartupConfig)
    (warmupCfg : WarmupConfig) (afterStartCfg : AfterStartConfig)
    (accelerationCfg : AccelerationConfig) : EnrichmentController × EnrichmentResult :=
  let startup := c.startup.update inputs.nowUs inputs.cranking startupCfg
  let afterStart := c.afterStart.update inputs.nowUs inputs.justStarted afterStartCfg
  let acceleration :=
    c.acceleration.update inputs.nowUs inputs.tpsdotPctS inputs.mapdotKpaS accelerationCfg
  (⟨startup.1, afterStart.1, acceleration.1⟩,
    ⟨startup.2, warmupCfg.computePercentX100 inputs.cltC, afterStart.2, acceleration.2⟩)

end EnrichmentController

/-! ### Lambda trim -/

inductive LambdaMode
  | openLoop | closedLoop
  deriving DecidableEq, Repr

inductive LambdaDisableReason
  | none | requestedOpenLoop | sensorInvalid | warmupGate | lowLoadGate | startupDelay
  | accelerationEnrichment | powerReductionCut
  deriving DecidableEq, Repr

structure LambdaTrimConfig where
  (openLoopTarget closedLoopTarget : Lambda100)
  (enableCltC disableCltC : Int16)
  (enableLoadKpa10 disableLoadKpa10 : Kpa10)
  startupDelayUs : Micros
  (minTrimX100 maxTrimX100 : Int16)
  gainX10 : UInt8
  deriving DecidableEq

def LambdaTrimConfig.default : LambdaTrimConfig := ⟨100, 100, 40, 30, 300, 250, 0, 85, 115, 4⟩

structure LambdaTrimInputs where
  nowUs : Micros
  cltC : Int16
  (justStarted lambdaValid : Bool)
  measuredLambda100 : Lambda100
  requestedOpenLoop : Bool
  deriving DecidableEq

structure LambdaTrimResult where
  mode : LambdaMode
  active : Bool
  (targetLambda100 measuredLambda100 : Lambda100)
  trimX100 : Int16
  disableReason : LambdaDisableReason
  deriving DecidableEq

structure LambdaTrimPlanner where
  lastMode : LambdaMode
  lastTrimX100 : Int16
  startupDelayUntilUs : Option Micros
  deriving DecidableEq

namespace LambdaTrimPlanner

variable (p : LambdaTrimPlanner) (inputs : LambdaTrimInputs) (cfg : LambdaTrimConfig)
  (loadKpa10 : Kpa10)

def new : LambdaTrimPlanner := ⟨.openLoop, 100, none⟩

def disableReason : LambdaDisableReason :=
  let closed := p.lastMode = .closedLoop
  if inputs.requestedOpenLoop then .requestedOpenLoop
  else if !inputs.lambdaValid then .sensorInvalid
  else if p.startupDelayUntilUs.any fun untilUs => inputs.nowUs < untilUs then .startupDelay
  else if inputs.cltC < (if closed then cfg.disableCltC else cfg.enableCltC) then .warmupGate
  else if loadKpa10 < (if closed then cfg.disableLoadKpa10 else cfg.enableLoadKpa10) then
    .lowLoadGate
  else .none

/-- The trim before it is clamped, in wrapping 16-bit arithmetic. -/
def rawTrim : Int16 :=
  let error := cfg.closedLoopTarget.toInt16 - inputs.measuredLambda100.toInt16
  100 + error * cfg.gainX10.toUInt16.toInt16 / 10

/-- The planner after it has looked at whether the engine just started. -/
def delayed : LambdaTrimPlanner :=
  if inputs.justStarted then
    { p with startupDelayUntilUs := some (satAdd32 inputs.nowUs cfg.startupDelayUs) }
  else p

def update (accelerationEnrichmentFreeze powerReductionCut : Bool) :
    Option (LambdaTrimPlanner × LambdaTrimResult) :=
  let delayed := p.delayed inputs cfg
  let reason := delayed.disableReason inputs cfg loadKpa10
  let opened := { delayed with lastMode := .openLoop, lastTrimX100 := 100 }
  let closed := { delayed with lastMode := .closedLoop }
  let held (why : LambdaDisableReason) : LambdaTrimResult :=
    ⟨.closedLoop, false, cfg.closedLoopTarget, inputs.measuredLambda100, delayed.lastTrimX100, why⟩
  if reason ≠ .none then
    some (opened, ⟨.openLoop, false, cfg.openLoopTarget, inputs.measuredLambda100, 100, reason⟩)
  -- the clamp comes before the freezes are looked at
  else if cfg.minTrimX100 > cfg.maxTrimX100 then none
  else
    let trim := max cfg.minTrimX100 (min (rawTrim inputs cfg) cfg.maxTrimX100)
    if powerReductionCut then some (closed, held .powerReductionCut)
    else if accelerationEnrichmentFreeze then some (closed, held .accelerationEnrichment)
    else
      some ({ closed with lastTrimX100 := trim },
        ⟨.closedLoop, true, cfg.closedLoopTarget, inputs.measuredLambda100, trim, .none⟩)

lemma update_isSome_iff {cfg : LambdaTrimConfig} (freeze cut : Bool) :
    (p.update inputs cfg loadKpa10 freeze cut).isSome ↔
      ((p.delayed inputs cfg).disableReason inputs cfg loadKpa10 = .none →
        cfg.minTrimX100 ≤ cfg.maxTrimX100) := by
  simp only [update]
  by_cases hreason : (p.delayed inputs cfg).disableReason inputs cfg loadKpa10 = .none
  · by_cases hcross : cfg.minTrimX100 > cfg.maxTrimX100
    · simp [hreason, hcross, Int16.not_le.mpr hcross]
    · have hle := Int16.not_lt.mp hcross
      simp only [hreason, hcross, ne_eq, not_true_eq_false, if_false, hle, imp_true_iff, iff_true]
      split_ifs <;> rfl
  · simp [hreason]

end LambdaTrimPlanner

/-! ### Torque -/

inductive TorqueLimitReason
  | none | idle | driver | revLimiter | knock | limpMode
  deriving DecidableEq, Repr

structure TorqueInputs where
  driverRequestX100 : UInt16
  driverRequestX1000 : Option UInt16
  (idleRequestX100 revLimitX100 knockLimitX100 limpLimitX100 : UInt16)
  deriving DecidableEq

structure AllowedTorque where
  (requestedX100 requestedX1000 allowedX100 allowedX1000 : UInt16)
  reason : TorqueLimitReason
  deriving DecidableEq

namespace AllowedTorque

/-- One pass of the loop over the caps. -/
def cap (t : AllowedTorque) (capX100 : UInt16) (reason : TorqueLimitReason) : AllowedTorque :=
  let capX1000 := satMul16 capX100 10
  { t with
    allowedX100 := if capX100 < t.allowedX100 then capX100 else t.allowedX100
    reason := if capX100 < t.allowedX100 then reason else t.reason
    allowedX1000 := if capX1000 < t.allowedX1000 then capX1000 else t.allowedX1000 }

end AllowedTorque

/-- The arbiter of the source has no state. -/
def torqueArbiterEvaluate (inputs : TorqueInputs) : AllowedTorque :=
  let requestedX100 := max inputs.driverRequestX100 inputs.idleRequestX100
  let requestedX1000 := max
    (inputs.driverRequestX1000.getD (satMul16 inputs.driverRequestX100 10))
    (satMul16 inputs.idleRequestX100 10)
  let demand : AllowedTorque :=
    ⟨requestedX100, requestedX1000, requestedX100, requestedX1000,
      if inputs.idleRequestX100 ≥ inputs.driverRequestX100 then .idle else .driver⟩
  let capped := ((demand.cap inputs.revLimitX100 .revLimiter).cap
    inputs.knockLimitX100 .knock).cap inputs.limpLimitX100 .limpMode
  if capped.allowedX100 ≥ requestedX100 then { capped with reason := .none } else capped

/-! ### Ignition -/

inductive IgnitionLimitReason
  | none | knock | torque | revLimiter
  deriving DecidableEq, Repr

structure IgnitionInputs where
  baseAdvanceDeg10 : Degrees10
  (timingCorrectionDeg10 knockRetardDeg10 torqueRetardDeg10 : Int16)
  revLimitActive : Bool
  rpm : Rpm
  deriving DecidableEq

structure DwellConfig where
  (baseDwellUs minDwellUs maxDwellUs rpmDwellTrimUs : UInt16)
  (rpmTrimStart rpmTrimEnd : Rpm)
  deriving DecidableEq

namespace DwellConfig

def default : DwellConfig := ⟨2500, 1500, 3500, 500, 2000, 7000⟩

def computeDwellUs (c : DwellConfig) (rpm : Rpm) : Option DwellUs :=
  if rpm ≤ c.rpmTrimStart then some c.maxDwellUs
  else if rpm ≥ c.rpmTrimEnd then some c.minDwellUs
  else if c.minDwellUs > c.maxDwellUs then none
  else
    let span := c.rpmTrimEnd.toNat - c.rpmTrimStart.toNat
    let pos := rpm.toNat - c.rpmTrimStart.toNat
    let trim := c.rpmDwellTrimUs.toNat * pos / max span 1
    let dwell := satSub16 c.baseDwellUs (UInt16.ofNat trim)
    some (max c.minDwellUs (min dwell c.maxDwellUs))

lemma computeDwellUs_isSome_iff {c : DwellConfig} (rpm : Rpm) : (c.computeDwellUs rpm).isSome ↔
    (c.rpmTrimStart < rpm → rpm < c.rpmTrimEnd → c.minDwellUs ≤ c.maxDwellUs) := by
  unfold computeDwellUs
  split_ifs with hstart hend hcross
  · simp [UInt16.not_lt.mpr hstart]
  · simp [UInt16.not_lt.mpr hend]
  · simp [UInt16.not_le.mp hstart, UInt16.not_le.mp hend, UInt16.not_le.mpr hcross]
  · simp [UInt16.not_lt.mp hcross]

end DwellConfig

structure IgnitionPlan where
  advanceDeg10 : Degrees10
  dwellUs : DwellUs
  limitReason : IgnitionLimitReason
  deriving DecidableEq

/-- The planner of the source has no state. -/
def ignitionPlannerPlan (inputs : IgnitionInputs) (dwellCfg : DwellConfig) : Option IgnitionPlan :=
  let base := inputs.baseAdvanceDeg10.toInt + inputs.timingCorrectionDeg10.toInt -
    inputs.knockRetardDeg10.toInt
  let torque := if inputs.torqueRetardDeg10 > 0 then inputs.torqueRetardDeg10.toInt else 0
  let rev := if inputs.revLimitActive then 80 else 0
  let reason : IgnitionLimitReason :=
    if inputs.revLimitActive then .revLimiter
    else if inputs.torqueRetardDeg10 > 0 then .torque
    else if inputs.knockRetardDeg10 > 0 then .knock
    else .none
  (dwellCfg.computeDwellUs inputs.rpm).map fun dwell =>
    ⟨Int16.ofInt (clampInt (base - torque - rev) (-200) 600), dwell, reason⟩

/-! ### The direct pulse-width table -/

structure BaseFuelModel where
  rpmBins : Vector Rpm 16
  loadBins : Vector Kpa10 16
  pulseWidths : Vector (Vector PulseWidthUs 16) 16
  deriving DecidableEq

def BaseFuelModel.default : BaseFuelModel :=
  ⟨.replicate 16 0, .replicate 16 0, .replicate 16 (.replicate 16 0)⟩

/-- The last bin when no later bin is above the value. -/
def nearestIndex (bins : Vector UInt16 16) (value : UInt16) : Fin 16 :=
  (((List.finRange 15).find? fun i => value < bins.get i.succ).map Fin.castSucc).getD 15

def BaseFuelModel.calculateBaseFuel (m : BaseFuelModel) (rpm : Rpm) (load : Kpa10) :
    PulseWidthUs :=
  (m.pulseWidths.get (nearestIndex m.loadBins load)).get (nearestIndex m.rpmBins rpm)

end Pipoco.Control
