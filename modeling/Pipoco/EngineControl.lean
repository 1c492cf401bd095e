import Pipoco.EngineTypes

/-!
Composing the control plan of a step: the fuel intent of the selected strategy, then enrichment,
lambda trim, torque and ignition.

A strategy whose evaluation is refused cuts both channels, and so does an invalid air-mass signal;
neither stores a new strategy state. The whole composition is partial, because the evaluator and
two planners are.
-/

namespace Pipoco.Engine

open Domain SchedState Control SemFuel OutProfiles

/-! ### Observations -/

def applyLambdaTrim (base : PulseWidthUs) (trimX100 : Int16) : PulseWidthUs :=
  if trimX100 ≤ 0 then 0
  else UInt16.ofNat (min (base.toNat * trimX100.toInt.toNat / 100) 65535)

def lambdaTrimToX1000 (trimX100 : Int16) : UInt16 :=
  if trimX100 ≤ 0 then 0 else UInt16.ofNat (min (trimX100.toInt.toNat * 10) 65535)

def directAccelerationEnrichmentPulseUs (baseFuel : PulseWidthUs) (e : EnrichmentResult) : UInt16 :=
  satSub16 (e.applyTo baseFuel) (({ e with accelerationX100 := 100 } :
    EnrichmentResult).applyTo baseFuel)

def directAfterstartObservations (state : AfterStartState) (nowUs : Micros)
    (cfg : AfterStartConfig) : Bool × UInt16 × FuelAfterstartWindowMode :=
  if !state.active then (false, 0, .inactive)
  else (true, state.remainingMs nowUs cfg, .milliseconds)

def semanticAfterstartObservations (windowCycles : UInt16) (state : RuntimeSemanticState) :
    Bool × UInt16 × FuelAfterstartWindowMode :=
  if windowCycles = 0 then (false, 0, .inactive)
  else
    let consumed := (min state.afterstartCycleCount windowCycles.toUInt32).toUInt16
    let remaining := satSub16 windowCycles consumed
    if remaining = 0 then (false, 0, .inactive) else (true, remaining, .cycles)

def startupObservations (state : StartupState) (nowUs : Micros) (cfg : StartupConfig) :
    Bool × UInt16 × FuelStartupWindowMode :=
  if !state.active then (false, 0, .inactive)
  else (true, state.remainingMs nowUs cfg, .milliseconds)

def warmupObservations (cltC : Int16) (cfg : WarmupConfig) :
    Bool × UInt16 × FuelWarmupTemperatureMode :=
  let correctionX100 := cfg.computePercentX100 cltC
  (correctionX100 ≠ 100, correctionX100, cfg.temperatureMode cltC)

def semanticWarmupObservations (curve : RuntimeSemanticCurve16U16) (cltC10 : Int16)
    (correctionX1000 : UInt16) : Bool × UInt16 × FuelWarmupTemperatureMode :=
  let x := axisTemperature cltC10
  let len := curve.axis.len.toNat
  let mode : FuelWarmupTemperatureMode :=
    if len < 2 then .neutralFallback
    else if x ≤ cell curve.axis.values 0 then .coldClamp
    else if x ≥ cell curve.axis.values (len - 1) then .hotClamp
    else .interpolating
  (correctionX1000 ≠ 1000, UInt16.ofNat (min ((correctionX1000.toNat + 5) / 10) 65535), mode)

def semanticIdleActive (cal : RuntimeSemanticCalibration) (obs : RuntimeSemanticFuelObservations) :
    Bool :=
  cal.idleTargetRpm ≠ 0 || cal.idleBaseDutyX1000 ≠ 0 || cal.idleKpX1000 ≠ 0 ||
    cal.idleKiX1000 ≠ 0 || obs.idleDutyX1000 ≠ 0 || obs.idleIntegratorState.acc ≠ 0

def narrow (value : UInt32) : UInt16 := (min value 65535).toUInt16

/-! ### Fuel intents -/

namespace EngineRuntime

variable (r : EngineRuntime) (validated : ValidatedInputs) (input : FuelInputSnapshot)
  (inputs : ControlInputs)

def clearSemanticRuntimeFlags : EngineRuntime :=
  { r with
    revSoftActive := false
    revHardActive := false
    launchActive := false
    flatShiftActive := false
    knockRetardDeg10 := 0 }

def applySemanticRuntimeFlags (state : RuntimeSemanticState) : EngineRuntime :=
  { r with
    revSoftActive := state.revSoftActive
    revHardActive := state.revHardActive
    launchActive := state.launchActive
    flatShiftActive := state.flatShiftActive
    safetyLatched := state.safetyLatched
    knockRetardDeg10 := state.knockRetardDeg10 }

def applyDirectRuntimeFlags (mode : FuelEngineMode) (safetyLatchRequest : Bool) : EngineRuntime :=
  { r.clearSemanticRuntimeFlags with
    safetyLatched :=
      if r.safetyLatched && mode = .off && !safetyLatchRequest then false
      else if safetyLatchRequest then true
      else r.safetyLatched }

def semanticFuelCutIntent : FuelIntent where
  pulseWidthUs := 0
  targetAngleDeg10 := r.engine.angleX10
  fuelCut := true
  sparkCut := true
  observations := .neutral false

/-- The direct table, with the flags already applied. -/
def directFuelIntent (model : BaseFuelModel) (input : FuelInputSnapshot) : FuelIntent :=
  let shutdownCut := input.mode = .shutdown || r.engine.mode = .shutdown
  let syncLossCut := r.engine.engineTimeAuthority.crank = .syncLost
  let fuelCut := input.fuelCutRequest || r.safetyLatched || shutdownCut || syncLossCut
  let sparkCut := input.sparkCutRequest || r.safetyLatched || shutdownCut || syncLossCut
  let rawPw := model.calculateBaseFuel input.rpm input.loadKpa10
  let pw := if fuelCut then 0 else rawPw
  { pulseWidthUs := pw
    targetAngleDeg10 := r.engine.angleX10
    fuelCut := fuelCut
    sparkCut := sparkCut
    observations := { FuelObservations.neutral true with pwBaseUs := rawPw, pwCorrUs := pw } }

/-- What the three semantic strategies make of an evaluation. -/
def semanticFuelIntent (cal : RuntimeSemanticCalibration) (input : FuelInputSnapshot)
    (obs : RuntimeSemanticFuelObservations) (next : RuntimeSemanticState) : FuelIntent :=
  let pw := narrow obs.pwCorrUs
  let warmup := semanticWarmupObservations cal.warmupCurve input.cltC10 obs.warmupCorrX1000
  let afterstart := semanticAfterstartObservations cal.afterstartWindowCycles next
  { pulseWidthUs := pw
    targetAngleDeg10 := r.engine.angleX10
    fuelCut := obs.fuelCut
    sparkCut := obs.sparkCut
    observations := { FuelObservations.neutral false with
      vePctX100 := some obs.vePctX100
      targetAfrX100 := some obs.targetAfrX100
      pwBaseUs := narrow obs.pwBaseUs
      pwAirUs := some (narrow obs.pwAirUs)
      pwCorrUs := pw
      warmupActive := warmup.1
      warmupCorrectionX100 := warmup.2.1
      warmupTemperatureMode := warmup.2.2
      afterstartActive := afterstart.1
      afterstartWindowRemaining := afterstart.2.1
      afterstartWindowMode := afterstart.2.2
      lambdaAeFreezeActive := next.aeActive
      aePulseUs := narrow next.aePulseUs
      aeDecayStepsRemaining := next.aeDecayStepsRemaining
      lambdaCorrectionX1000 := obs.lambdaCorrectionX1000
      lambdaIntegratorAcc := obs.lambdaIntegratorState.acc
      lambdaIntegratorMinAcc := obs.lambdaIntegratorState.minAcc
      lambdaIntegratorMaxAcc := obs.lambdaIntegratorState.maxAcc
      lambdaIntegratorFrozen := obs.lambdaIntegratorState.frozen
      idleActive := semanticIdleActive cal obs
      idleDutyX1000 := obs.idleDutyX1000
      idleIntegratorAcc := obs.idleIntegratorState.acc
      idleIntegratorMinAcc := obs.idleIntegratorState.minAcc
      idleIntegratorMaxAcc := obs.idleIntegratorState.maxAcc
      idleIntegratorFrozen := obs.idleIntegratorState.frozen
      advanceDeg10Trim := obs.advanceDeg10Trim } }

def semanticInputForStrategy (loadSource : FuelLoadSource) (safetyLatchRequest : Bool) :
    RuntimeSemanticInputSnapshot where
  tUs := input.nowUs
  rpm := input.rpm
  mapKpa10 := input.mapKpa10
  loadKpa10 := match loadSource with
    | .map => input.mapKpa10
    | .tps => input.tpsX100
  tpsX100 := input.tpsX100
  cltC10 := input.cltC10
  iatC10 := input.iatC10
  baroKpa10 := input.baroKpa10
  vbattMv := input.vbattMv
  lambdaValid := input.lambdaValid
  lambdaMeasured := input.lambdaMeasured
  requestedOpenLoop := input.requestedOpenLoop
  knockIntensityX100 := input.knockIntensityX100
  launchArmed := input.launchArmed
  flatShiftArmed := input.flatShiftArmed
  sync := input.sync
  fuelCut := false
  sparkCut := false
  directFuelCutRequest := input.fuelCutRequest
  directSparkCutRequest := input.sparkCutRequest
  safetyLatchRequest := safetyLatchRequest
  mode := match input.mode with
    | .off => .off
    | .cranking => .cranking
    | .running => .running
    | .shutdown => .shutdown
  targetAfrOverrideX100 := input.targetAfrOverrideX100

/-- Evaluate a semantic strategy and store its next state, or cut if it is refused. -/
def evaluateSemantic (strategy : RuntimeSemanticState → RuntimeFuelStrategy)
    (cal : RuntimeSemanticCalibration) (state : RuntimeSemanticState) (input : FuelInputSnapshot)
    (semanticInput : RuntimeSemanticInputSnapshot) : Option (EngineRuntime × FuelIntent) :=
  (runtimeSemanticEvaluateFuelWithState cal semanticInput state).map fun
    | .error _ => (r.clearSemanticRuntimeFlags, r.semanticFuelCutIntent)
    | .ok (obs, next) =>
      let stored := { r with planners := { r.planners with fuelStrategy := strategy next } }
      (stored.applySemanticRuntimeFlags next, r.semanticFuelIntent cal input obs next)

def computeFuelIntent (safetyLatchRequest : Bool) : Option (EngineRuntime × FuelIntent) :=
  match r.planners.fuelStrategy with
  | .directPulseWidthTable model =>
    let flagged := r.applyDirectRuntimeFlags input.mode safetyLatchRequest
    some (flagged, flagged.directFuelIntent model input)
  | .speedDensityVe cal state =>
    r.evaluateSemantic (.speedDensityVe cal) cal state input
      (semanticInputForStrategy input .map safetyLatchRequest)
  | .alphaN cal state =>
    r.evaluateSemantic (.alphaN cal) cal state input
      (semanticInputForStrategy input .tps safetyLatchRequest)
  | .maf cal state =>
    if !input.mafValid then some (r.clearSemanticRuntimeFlags, r.semanticFuelCutIntent)
    else
      r.evaluateSemantic (.maf cal) cal state input
        { semanticInputForStrategy input .map safetyLatchRequest with loadKpa10 := input.mafX100 }

def fuelInputSnapshot (launchArmed flatShiftArmed : Bool) : FuelInputSnapshot where
  nowUs := inputs.enrichment.nowUs
  rpm := validated.rpm
  mapKpa10 := validated.loadKpa10
  loadKpa10 := validated.loadKpa10
  tpsX100 := max inputs.torque.driverRequestX100 inputs.torque.idleRequestX100
  knockIntensityX100 := inputs.knockIntensityX100
  mafX100 := inputs.fuelSensors.mafX100
  cltC10 := satInt16 (inputs.enrichment.cltC.toInt * 10)
  iatC10 := inputs.fuelSensors.iatC10
  baroKpa10 :=
    if inputs.fuelSensors.baroValid then inputs.fuelSensors.baroKpa10
    else FuelSensorInputs.explicitSubstitutions.baroKpa10
  vbattMv := inputs.fuelSensors.vbattMv
  mafValid := inputs.fuelSensors.mafValid
  lambdaValid := inputs.lambda.lambdaValid
  lambdaMeasured := inputs.lambda.measuredLambda100
  requestedOpenLoop := inputs.lambda.requestedOpenLoop
  baroValid := inputs.fuelSensors.baroValid
  sync := r.engine.sync
  mode := match r.engine.phase with
    | .off => .off
    | .cranking => .cranking
    | .running => .running
    | .stopping => .shutdown
  launchArmed := launchArmed
  flatShiftArmed := flatShiftArmed
  fuelCutRequest := r.directFuelCutRequest
  sparkCutRequest := r.directSparkCutRequest
  targetAfrOverrideX100 := none

/-! ### The control plan -/

/-- The direct table takes its corrections from the planners, so its observations are filled in
from them; a semantic strategy has its own and only the startup window is added. -/
def completeObservations (base : PulseWidthUs) (enrichment : EnrichmentResult)
    (o : FuelObservations) : FuelObservations :=
  let nowUs := inputs.enrichment.nowUs
  let startup := startupObservations r.planners.enrichment.startup nowUs r.planners.startupConfig
  let started := { o with
    startupActive := startup.1
    startupWindowRemaining := startup.2.1
    startupWindowMode := startup.2.2 }
  if o.strategyIsDirectPw then
    let warmup := warmupObservations inputs.enrichment.cltC r.planners.warmupConfig
    let afterstart := directAfterstartObservations r.planners.enrichment.afterStart nowUs
      r.planners.afterStartConfig
    { started with
      warmupActive := warmup.1
      warmupCorrectionX100 := warmup.2.1
      warmupTemperatureMode := warmup.2.2
      afterstartActive := afterstart.1
      afterstartWindowRemaining := afterstart.2.1
      afterstartWindowMode := afterstart.2.2
      lambdaAeFreezeActive := enrichment.accelerationX100 > 100
      aePulseUs := directAccelerationEnrichmentPulseUs base enrichment
      aeDecayStepsRemaining := 0 }
  else started

def lambdaObservations (trim : LambdaTrimResult) (o : FuelObservations) : FuelObservations :=
  if o.strategyIsDirectPw then
    { o with
      lambdaCorrectionX1000 := lambdaTrimToX1000 trim.trimX100
      lambdaIntegratorAcc := 0
      lambdaIntegratorMinAcc := 0
      lambdaIntegratorMaxAcc := 0
      lambdaIntegratorFrozen := false }
  else o

/-- A hard rev cut takes all torque away. -/
def limitTorque (revHardActive : Bool) (torque : AllowedTorque) : AllowedTorque :=
  if revHardActive && torque.allowedX100 ≠ 0 then
    { torque with allowedX100 := 0, reason := .revLimiter }
  else torque

def composeControl (launchArmed flatShiftArmed safetyLatchRequest : Bool) :
    Option (EngineRuntime × ControlPlan) := do
  let noted := { r with knockIntensityX100 := inputs.knockIntensityX100 }
  let fuelInput := noted.fuelInputSnapshot validated inputs launchArmed flatShiftArmed
  let (fuelled, intent) ← noted.computeFuelIntent fuelInput safetyLatchRequest
  let p := fuelled.planners
  let (controller, enrichment) := p.enrichment.update inputs.enrichment p.startupConfig
    p.warmupConfig p.afterStartConfig p.accelerationConfig
  let enriched := { fuelled with planners := { p with enrichment := controller } }
  let baseFuel := intent.pulseWidthUs
  let observed := enriched.completeObservations inputs baseFuel enrichment intent.observations
  let (planner, lambda) ← p.lambda.update inputs.lambda p.lambdaConfig validated.loadKpa10
    observed.lambdaAeFreezeActive (intent.fuelCut || intent.sparkCut)
  let torque := limitTorque enriched.revHardActive (torqueArbiterEvaluate inputs.torque)
  let ignition ← ignitionPlannerPlan inputs.ignition p.dwellConfig
  let enrichedFuel :=
    if observed.strategyIsDirectPw then
      applyLambdaTrim (enrichment.applyTo baseFuel) lambda.trimX100
    else baseFuel
  let composed := { enriched with
    planners := { enriched.planners with lambda := planner }
    control := ⟨enrichedFuel, ignition.advanceDeg10, ignition.dwellUs, lambda.targetLambda100,
      torque.allowedX100⟩ }
  return (composed,
    { baseFuel := baseFuel
      enrichedFuel := enrichedFuel
      enrichment := enrichment
      lambda := lambda
      torque := torque
      ignition := ignition
      fuelCut := intent.fuelCut
      sparkCut := intent.sparkCut
      fuelIntent := { intent with observations := lambdaObservations lambda observed } })

end EngineRuntime

end Pipoco.Engine
