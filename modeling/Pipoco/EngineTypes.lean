import Pipoco.Control
import Pipoco.OutProfiles
import Pipoco.SemFuel

/-!
The state of the engine runtime, the inputs of a step and what a step returns.

The calibration package the runtime stores for publication is read by no step and is left out;
of the calibration state only the dirty flag remains.
-/

namespace Pipoco.Engine

open Domain SchedState Control SemFuel OutProfiles

/-! ### Inputs -/

structure FuelSensorInputs where
  mafValid : Bool
  mafX100 : UInt16
  iatC10 : Int16
  vbattMv : UInt16
  baroValid : Bool
  baroKpa10 : Kpa10
  deriving DecidableEq

def FuelSensorInputs.explicitSubstitutions : FuelSensorInputs := ⟨false, 0, 250, 12000, false, 1010⟩

/-- What the planners are given in a step. -/
structure ControlInputs where
  enrichment : EnrichmentInputs
  lambda : LambdaTrimInputs
  torque : TorqueInputs
  ignition : IgnitionInputs
  fuelSensors : FuelSensorInputs
  knockIntensityX100 : UInt16
  deriving DecidableEq

def ControlInputs.sparkOnly (nowUs : Micros) (ignition : IgnitionInputs) : ControlInputs where
  enrichment := ⟨nowUs, 0, false, false, 0, 0⟩
  lambda := ⟨nowUs, 0, false, false, 100, true⟩
  torque := ⟨100, none, 100, 100, 100, 100⟩
  ignition := ignition
  fuelSensors := .explicitSubstitutions
  knockIntensityX100 := 0

structure StepInputs where
  nowUs : Micros
  (rpm loadKpa10 : UInt32)
  angleX10 : Int32
  (triggerSynced camSeen launchArmed flatShiftArmed safetyLatchRequest : Bool)
  deriving DecidableEq

structure AuthorityStepInputs where
  nowUs : Micros
  (rpm loadKpa10 : UInt32)
  angleX10 : Int32
  authority : EngineTimeAuthority
  (launchArmed flatShiftArmed safetyLatchRequest : Bool)
  deriving DecidableEq

inductive RuntimeEngineMode
  | off | cranking | running | shutdown
  deriving DecidableEq, Repr

/-- The formal differential input. Its sensor fields reach no step and are left out. -/
structure DifferentialInputSnapshot where
  nowUs : Micros
  rpm : Rpm
  loadKpa10 : Kpa10
  angleX10 : Degrees10
  sync : SyncState
  (fuelCut sparkCut : Bool)
  mode : RuntimeEngineMode
  (launchArmed flatShiftArmed safetyLatchRequest : Bool)
  deriving DecidableEq

def isLocked (sync : SyncState) : Bool := sync matches .locked _

def DifferentialInputSnapshot.toStepInputs (i : DifferentialInputSnapshot) : StepInputs where
  nowUs := i.nowUs
  rpm := i.rpm.toUInt32
  loadKpa10 := i.loadKpa10.toUInt32
  angleX10 := i.angleX10.toInt32
  triggerSynced := isLocked i.sync
  camSeen := isLocked i.sync
  launchArmed := i.launchArmed
  flatShiftArmed := i.flatShiftArmed
  safetyLatchRequest := i.safetyLatchRequest

structure TriggerObservation where
  atUs : Micros
  rpm : Rpm
  angleX10 : Degrees10
  synced : Bool
  deriving DecidableEq

structure CamObservation where
  atUs : Micros
  camSeen : Bool
  deriving DecidableEq

inductive DecoderObservation
  | trigger (trigger : TriggerObservation)
  | cam (cam : CamObservation)
  deriving DecidableEq

structure ValidatedInputs where
  rpm : Rpm
  loadKpa10 : Kpa10
  angleX10 : Degrees10
  clamped : Bool
  deriving DecidableEq

/-! ### Fuel intents and control plans -/

inductive FuelEngineMode
  | off | cranking | running | shutdown
  deriving DecidableEq, Repr

inductive FuelStartupWindowMode
  | inactive | milliseconds
  deriving DecidableEq, Repr

inductive FuelAfterstartWindowMode
  | inactive | milliseconds | cycles
  deriving DecidableEq, Repr

inductive FuelLoadSource
  | map | tps
  deriving DecidableEq, Repr

structure FuelInputSnapshot where
  nowUs : Micros
  rpm : Rpm
  (mapKpa10 loadKpa10 : Kpa10)
  (tpsX100 knockIntensityX100 mafX100 : UInt16)
  (cltC10 iatC10 : Int16)
  baroKpa10 : Kpa10
  vbattMv : UInt16
  (mafValid lambdaValid : Bool)
  lambdaMeasured : Lambda100
  (requestedOpenLoop baroValid : Bool)
  sync : SyncState
  mode : FuelEngineMode
  (launchArmed flatShiftArmed fuelCutRequest sparkCutRequest : Bool)
  targetAfrOverrideX100 : Option UInt16
  deriving DecidableEq

structure FuelObservations where
  (vePctX100 targetAfrX100 : Option UInt16)
  pwBaseUs : UInt16
  pwAirUs : Option UInt16
  pwCorrUs : UInt16
  warmupActive : Bool
  warmupCorrectionX100 : UInt16
  warmupTemperatureMode : FuelWarmupTemperatureMode
  startupActive : Bool
  startupWindowRemaining : UInt16
  startupWindowMode : FuelStartupWindowMode
  afterstartActive : Bool
  afterstartWindowRemaining : UInt16
  afterstartWindowMode : FuelAfterstartWindowMode
  lambdaAeFreezeActive : Bool
  (aePulseUs aeDecayStepsRemaining lambdaCorrectionX1000 : UInt16)
  (lambdaIntegratorAcc lambdaIntegratorMinAcc lambdaIntegratorMaxAcc : Int32)
  (lambdaIntegratorFrozen idleActive : Bool)
  idleDutyX1000 : UInt16
  (idleIntegratorAcc idleIntegratorMinAcc idleIntegratorMaxAcc : Int32)
  idleIntegratorFrozen : Bool
  advanceDeg10Trim : Int16
  strategyIsDirectPw : Bool
  deriving DecidableEq

/-- The observations before a strategy has filled anything in. -/
def FuelObservations.neutral (strategyIsDirectPw : Bool) : FuelObservations where
  vePctX100 := none
  targetAfrX100 := none
  pwBaseUs := 0
  pwAirUs := none
  pwCorrUs := 0
  warmupActive := false
  warmupCorrectionX100 := 100
  warmupTemperatureMode := .inactive
  startupActive := false
  startupWindowRemaining := 0
  startupWindowMode := .inactive
  afterstartActive := false
  afterstartWindowRemaining := 0
  afterstartWindowMode := .inactive
  lambdaAeFreezeActive := false
  aePulseUs := 0
  aeDecayStepsRemaining := 0
  lambdaCorrectionX1000 := 1000
  lambdaIntegratorAcc := 0
  lambdaIntegratorMinAcc := 0
  lambdaIntegratorMaxAcc := 0
  lambdaIntegratorFrozen := false
  idleActive := false
  idleDutyX1000 := 0
  idleIntegratorAcc := 0
  idleIntegratorMinAcc := 0
  idleIntegratorMaxAcc := 0
  idleIntegratorFrozen := false
  advanceDeg10Trim := 0
  strategyIsDirectPw := strategyIsDirectPw

structure FuelIntent where
  pulseWidthUs : PulseWidthUs
  targetAngleDeg10 : Degrees10
  (fuelCut sparkCut : Bool)
  observations : FuelObservations
  deriving DecidableEq

structure ControlPlan where
  (baseFuel enrichedFuel : PulseWidthUs)
  enrichment : EnrichmentResult
  lambda : LambdaTrimResult
  torque : AllowedTorque
  ignition : Control.IgnitionPlan
  (fuelCut sparkCut : Bool)
  fuelIntent : FuelIntent
  deriving DecidableEq

/-! ### The runtime -/

inductive RuntimeFuelStrategy
  | directPulseWidthTable (model : BaseFuelModel)
  | speedDensityVe (calibration : RuntimeSemanticCalibration) (state : RuntimeSemanticState)
  | alphaN (calibration : RuntimeSemanticCalibration) (state : RuntimeSemanticState)
  | maf (calibration : RuntimeSemanticCalibration) (state : RuntimeSemanticState)

/-- The calibration of a semantic strategy and the state it carries from step to step. -/
def RuntimeFuelStrategy.semantic :
    RuntimeFuelStrategy → Option (RuntimeSemanticCalibration × RuntimeSemanticState)
  | .directPulseWidthTable _ => none
  | .speedDensityVe cal state | .alphaN cal state | .maf cal state => some (cal, state)

inductive RuntimeFuelStrategyMode
  | directPulseWidthTable | speedDensityVe | alphaN | maf
  deriving DecidableEq, Repr

def runtimeFuelStrategyMode : RuntimeFuelStrategy → RuntimeFuelStrategyMode
  | .directPulseWidthTable _ => .directPulseWidthTable
  | .speedDensityVe _ _ => .speedDensityVe
  | .alphaN _ _ => .alphaN
  | .maf _ _ => .maf

structure ControlPlannerState where
  fuelStrategy : RuntimeFuelStrategy
  startupConfig : StartupConfig
  warmupConfig : WarmupConfig
  afterStartConfig : AfterStartConfig
  accelerationConfig : AccelerationConfig
  lambdaConfig : LambdaTrimConfig
  dwellConfig : DwellConfig
  enrichment : EnrichmentController
  lambda : LambdaTrimPlanner

def ControlPlannerState.default : ControlPlannerState :=
  ⟨.directPulseWidthTable .default, .default, .default, .default, .default, .default, .default,
    .new, .new⟩

structure EngineState where
  sync : SyncState
  engineTimeAuthority : EngineTimeAuthority
  phase : EnginePhase
  mode : ControlMode
  rpm : Rpm
  loadKpa10 : Kpa10
  angleX10 : Degrees10
  deriving DecidableEq

structure ControlState where
  fuelPulseWidth : PulseWidthUs
  ignitionAdvance : Degrees10
  dwell : DwellUs
  lambdaTarget : Lambda100
  torqueLimitX100 : UInt16
  deriving DecidableEq

structure FaultState where
  fault : FaultCode
  severity : FaultSeverity
  cancelReason : CancelReason
  deriving DecidableEq

structure RuntimeSnapshot where
  engine : EngineState
  control : ControlState
  faults : FaultState
  stagedDirty : Bool
  scheduler : SchedulerState
  outputProfile : RuntimeOutputProfile
  fuelStrategyMode : RuntimeFuelStrategyMode
  (revSoftActive revHardActive launchActive flatShiftActive safetyLatched directFuelCutRequest : Bool)
  (directSparkCutRequest fuelCut sparkCut : Bool)
  legacyCutReasonCode : UInt8
  knockIntensityX100 : UInt16
  knockRetardDeg10 : Int16

structure EngineRuntime where
  engine : EngineState
  control : ControlState
  faults : FaultState
  stagedDirty : Bool
  scheduler : SchedulerState
  planners : ControlPlannerState
  runtimeSnapshot : RuntimeSnapshot
  outputProfile : RuntimeOutputProfile
  (revSoftActive revHardActive launchActive flatShiftActive directFuelCutRequest : Bool)
  (directSparkCutRequest safetyLatched fuelCut sparkCut : Bool)
  knockIntensityX100 : UInt16
  knockRetardDeg10 : Int16

end Pipoco.Engine
