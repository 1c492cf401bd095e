import Pipoco.EngineControl
import Pipoco.Lowering

/-!
A step of the engine runtime: the position authority is taken over, the operating mode derived, the
control plan composed, and the actions for the board emitted.

The runtime keeps a scheduler state of its own. Emitting reserves a window there for every event it
arms and reports the ones that were accepted; the batch of actions has a fixed capacity and pushes
that do not fit are ignored.
-/

namespace Pipoco.Engine

open Domain SchedState Control SemFuel OutProfiles
open Lowering

/-! ### Authority -/

variable (authority : EngineTimeAuthority)

def enginePhaseFromAuthority (rpm : Rpm) : EnginePhase :=
  if rpm = 0 then .off
  else if authority.hasPrimaryLock && authority.phase ≠ .unknown then .running
  else .cranking

def deriveEngineTimeAuthority (current : EngineTimeAuthority) (triggerSynced camSeen : Bool)
    (rpm : Rpm) : EngineTimeAuthority :=
  if !triggerSynced then
    { crank :=
        if current.hasPrimaryLock then .syncLost
        else if rpm > 0 then .primarySearching
        else .noSignal
      phase := .unknown
      absolute := .none
      confidenceX1000 := 0
      syncLossCount :=
        if current.hasPrimaryLock then satAdd16 current.syncLossCount 1
        else current.syncLossCount }
  else
    { crank := .primaryLocked
      phase :=
        if camSeen then
          if current.phase = .camValidated720 then .camValidated720 else .camObserved720
        else .crankOnly360
      absolute := if current.hasAbsoluteTiming then current.absolute else .geometryOnly
      confidenceX1000 :=
        if current.confidenceX1000 = 0 then EngineTimeAuthority.maxConfidenceX1000
        else min current.confidenceX1000 EngineTimeAuthority.maxConfidenceX1000
      syncLossCount := current.syncLossCount }

def runtimeFullSequentialAuthorized : Bool :=
  (authority.validate matches .ok _) && authority.hasPrimaryLock &&
    authority.phase = .camValidated720 && absoluteTimeAuthorizesFullSequential authority.absolute

namespace EngineRuntime

/-! ### Snapshots and setters -/

variable (r : EngineRuntime) (authority : EngineTimeAuthority)

def legacyKnockReasonActive : Bool :=
  if r.knockRetardDeg10 > 0 then true
  else
    match r.planners.fuelStrategy with
    | .speedDensityVe cal _ | .alphaN cal _ | .maf cal _ =>
      r.knockIntensityX100 ≥ cal.knockThresholdX100
    | .directPulseWidthTable _ => false

def legacyCutFlags : Bool × Bool :=
  if r.directFuelCutRequest || r.directSparkCutRequest || r.engine.mode = .shutdown ||
      r.safetyLatched || r.revHardActive || r.launchActive || r.flatShiftActive then (true, true)
  else (r.fuelCut, r.sparkCut)

def legacyCutReasonCode : UInt8 :=
  if r.safetyLatched || r.directFuelCutRequest || r.directSparkCutRequest ||
      r.engine.mode = .shutdown then 1
  else if r.revHardActive then 2
  else if r.launchActive then 3
  else if r.flatShiftActive then 4
  else if r.fuelCut && !r.sparkCut then 5
  else if r.sparkCut then 6
  else if r.legacyKnockReasonActive then 7
  else 0

def refreshSnapshot : EngineRuntime :=
  { r with runtimeSnapshot := {
      engine := r.engine
      control := r.control
      faults := r.faults
      stagedDirty := r.stagedDirty
      scheduler := r.scheduler
      outputProfile := r.outputProfile
      fuelStrategyMode := runtimeFuelStrategyMode r.planners.fuelStrategy
      revSoftActive := r.revSoftActive
      revHardActive := r.revHardActive
      launchActive := r.launchActive
      flatShiftActive := r.flatShiftActive
      safetyLatched := r.safetyLatched
      directFuelCutRequest := r.directFuelCutRequest
      directSparkCutRequest := r.directSparkCutRequest
      fuelCut := r.fuelCut
      sparkCut := r.sparkCut
      legacyCutReasonCode := r.legacyCutReasonCode
      knockIntensityX100 := r.knockIntensityX100
      knockRetardDeg10 := r.knockRetardDeg10 } }

def new : EngineRuntime :=
  let engine : EngineState := ⟨.unsynced, .none, .off, .openLoop, 0, 0, 0⟩
  let control : ControlState := ⟨0, 0, 0, 100, 100⟩
  let faults : FaultState := ⟨.none, .info, .manual⟩
  { engine := engine
    control := control
    faults := faults
    stagedDirty := false
    scheduler := .new
    planners := .default
    runtimeSnapshot := ⟨engine, control, faults, false, .new, .legacySingleChannel,
      .directPulseWidthTable, false, false, false, false, false, false, false, false, false, 0, 0,
      0⟩
    outputProfile := .legacySingleChannel
    revSoftActive := false
    revHardActive := false
    launchActive := false
    flatShiftActive := false
    directFuelCutRequest := false
    directSparkCutRequest := false
    safetyLatched := false
    fuelCut := false
    sparkCut := false
    knockIntensityX100 := 0
    knockRetardDeg10 := 0 }

def applyEngineTimeAuthority : EngineRuntime :=
  { r with engine := { r.engine with
      engineTimeAuthority := authority
      sync := authority.compatibilitySummary
      phase := enginePhaseFromAuthority authority r.engine.rpm } }

/-- An authority that does not validate counts as none. -/
def setEngineTimeAuthorityInner : EngineRuntime :=
  match authority.validate with
  | .ok _ => r.applyEngineTimeAuthority authority
  | .error _ => r.applyEngineTimeAuthority .none

def setEngineTimeAuthority : EngineRuntime :=
  (r.setEngineTimeAuthorityInner authority).refreshSnapshot

def trySetEngineTimeAuthority : EngineRuntime × Except EngineTimeAuthorityError Unit :=
  match authority.validate with
  | .error e => (r, .error e)
  | .ok _ => ((r.applyEngineTimeAuthority authority).refreshSnapshot, .ok ())

def setFaultState (fault : FaultCode) (severity : FaultSeverity) (cancelReason : CancelReason) :
    EngineRuntime :=
  { r with faults := ⟨fault, severity, cancelReason⟩ }.refreshSnapshot

def setStagedDirty (dirty : Bool) : EngineRuntime :=
  { r with stagedDirty := dirty }.refreshSnapshot

def setDirectCutRequests (fuelCutRequest sparkCutRequest : Bool) : EngineRuntime :=
  { r with directFuelCutRequest := fuelCutRequest, directSparkCutRequest := sparkCutRequest }

def applySensorSample (rpm : Rpm) (loadKpa10 : Kpa10) (angleX10 : Degrees10) : EngineRuntime :=
  { r with engine := { r.engine with
      rpm := rpm, loadKpa10 := loadKpa10, angleX10 := angleX10 } }.refreshSnapshot

def applyDecoderObservation : DecoderObservation → EngineRuntime
  | .trigger trigger =>
    let moved := { r with engine := { r.engine with
      rpm := trigger.rpm, angleX10 := trigger.angleX10 } }
    let phase := r.engine.engineTimeAuthority.phase
    let camSeen := phase = .camObserved720 || phase = .camValidated720
    (moved.setEngineTimeAuthorityInner (deriveEngineTimeAuthority r.engine.engineTimeAuthority
      trigger.synced camSeen trigger.rpm)).refreshSnapshot
  | .cam cam =>
    (r.setEngineTimeAuthorityInner (deriveEngineTimeAuthority r.engine.engineTimeAuthority
      r.engine.engineTimeAuthority.hasPrimaryLock cam.camSeen r.engine.rpm)).refreshSnapshot

/-! ### Actions -/

def crankSnapshot (nowUs : Micros) : CrankSnapshot :=
  ⟨nowUs, r.engine.rpm, r.engine.angleX10, r.engine.engineTimeAuthority⟩

def limpHomeAuxCommands : FixedBatch AuxCommand runtimeAuxCommandCap :=
  let relay := FixedBatch.new.tryPush ⟨.safetyRelay 1, .level .high⟩
  match r.outputProfile with
  | .fullEcu profile =>
    (profile.auxSafety.offOnLimp.toList.filterMap id).foldl
      (fun commands output => commands.tryPush ⟨output, .off⟩) relay
  | _ => relay

end EngineRuntime

/-- A planned event of a step, before the scheduler has accepted it. -/
inductive ArmRequest
  | injection (plan : TimedInjectionPlan)
  | ignition (plan : TimedIgnitionPlan)
  deriving DecidableEq

abbrev ActionBatch (n : ℕ) := FixedBatch Action n

/-- One event: its window is reserved, and if that succeeds the arm action is pushed. -/
def armEvent {n : ℕ} (nowUs : Micros) (emitted : SchedulerState × ActionBatch n) :
    ArmRequest → SchedulerState × ActionBatch n
  | .injection p =>
    match emitted.1.scheduleInjection nowUs p.startAt p.endAt p.plan with
    | (s, .ok injection) => (s, emitted.2.tryPush (.armInjection injection))
    | (s, .error _) => (s, emitted.2)
  | .ignition p =>
    match emitted.1.scheduleIgnition nowUs p.startAt p.endAt p.plan with
    | (s, .ok ignition) => (s, emitted.2.tryPush (.armIgnition ignition))
    | (s, .error _) => (s, emitted.2)

/-- The events one after another; a step that arms none is idle. -/
def armEvents {n : ℕ} (nowUs : Micros) (s : SchedulerState) (requests : List ArmRequest) :
    SchedulerState × ActionBatch n :=
  let emitted := requests.foldl (armEvent nowUs) (s, FixedBatch.new)
  if emitted.2.items.isEmpty then (emitted.1, emitted.2.tryPush .idle) else emitted

namespace EngineRuntime

variable {n : ℕ} (r : EngineRuntime) (nowUs : Micros) (s : SchedulerState) (control : ControlPlan)

def allowInjection : Bool := !control.fuelCut && control.enrichedFuel > 0

def allowIgnition : Bool := !control.sparkCut && control.ignition.dwellUs > 0

/-- The window of the legacy profile, on its one channel of each group. -/
def legacyInjection : TimedInjectionPlan :=
  ⟨⟨⟨.injector, 1⟩, control.enrichedFuel⟩, satAdd32 nowUs 1,
    max (satAdd32 nowUs control.enrichedFuel.toUInt32) (satAdd32 nowUs 2)⟩

def legacyIgnition : TimedIgnitionPlan :=
  ⟨⟨⟨.ignition, 1⟩, control.ignition.dwellUs, control.ignition.advanceDeg10⟩, satAdd32 nowUs 1,
    max (satAdd32 nowUs control.ignition.dwellUs.toUInt32) (satAdd32 nowUs 2)⟩

/-- Unlike the other profiles the legacy one cancels a group it may not arm. -/
def legacyArmInjection (nowUs : Micros) (control : ControlPlan) :
    SchedulerState × Option TimedInjectionPlan :=
  if allowInjection control then
    let p := legacyInjection nowUs control
    match s.scheduleInjection nowUs p.startAt p.endAt p.plan with
    | (s', .ok injection) => (s', some injection)
    | (s', .error _) => (s', none)
  else (s.cancelGroup .injector, none)

def legacyArmIgnition (nowUs : Micros) (control : ControlPlan) :
    SchedulerState × Option TimedIgnitionPlan :=
  if allowIgnition control then
    let p := legacyIgnition nowUs control
    match s.scheduleIgnition nowUs p.startAt p.endAt p.plan with
    | (s', .ok ignition) => (s', some ignition)
    | (s', .error _) => (s', none)
  else (s.cancelGroup .ignition, none)

def legacyAction : Option TimedInjectionPlan → Option TimedIgnitionPlan → Action
  | some injection, some ignition => .armScheduler injection ignition
  | some injection, none => .armInjection injection
  | none, some ignition => .armIgnition ignition
  | none, none => .idle

/-- The events a profile plans in a step. -/
def plannedEvents : List ArmRequest :=
  let crank := r.crankSnapshot nowUs
  let spark : SparkPlan := ⟨control.ignition.dwellUs, control.ignition.advanceDeg10⟩
  let fuel : FuelPlan := ⟨control.enrichedFuel⟩
  match r.outputProfile with
  | .legacySingleChannel => []
  | .ignitionOnly profile =>
    if r.engine.rpm = 0 || control.sparkCut then []
    else
      (List.range profile.eventsPerCrankRev).map fun i =>
        .ignition (ignitionSchedulerPlanEvent profile crank i spark)
  | .injectionOnly profile =>
    if r.engine.rpm = 0 || control.fuelCut || control.enrichedFuel = 0 then []
    else
      (List.range profile.eventsPerPulse).map fun i =>
        .injection (injectionSchedulerPlanEvent profile crank i fuel)
  | .fullEcu profile =>
    if profile.eventCount = 0 || r.engine.rpm = 0 then []
    else
      (List.range profile.eventCount).flatMap fun slot =>
        (if allowInjection control then
            [.injection (fullEcuInjectionSchedulerPlanEvent profile.injection crank slot fuel)]
          else []) ++
        (if allowIgnition control then
            [.ignition (fullEcuIgnitionSchedulerPlanEvent profile.ignition profile.eventCount crank
              slot spark)]
          else [])

def armOutputs (s : SchedulerState) : SchedulerState × ActionBatch n :=
  match r.outputProfile with
  | .legacySingleChannel =>
    let injection := legacyArmInjection s nowUs control
    let ignition := legacyArmIgnition injection.1 nowUs control
    (ignition.1, FixedBatch.new.tryPush (legacyAction injection.2 ignition.2))
  | _ => armEvents nowUs s (r.plannedEvents nowUs control)

/-- The authority the output profile needs is missing. -/
def lacksAuthority : Bool :=
  outputProfileRequiresFullSequentialAuthority r.outputProfile &&
    !runtimeFullSequentialAuthorized r.engine.engineTimeAuthority

def inShutdown : Bool :=
  r.engine.mode = .shutdown || r.faults.fault = .safetyCut || r.faults.severity = .critical

def emitOutputs : SchedulerState × ActionBatch n :=
  if r.inShutdown then
    (r.scheduler.onHardSafetyShutdown, FixedBatch.new.tryPush (.cancelScheduler .safetyShutdown))
  else if r.engine.sync = .unsynced && r.scheduler.isArmed then
    (r.scheduler.onSyncLoss, FixedBatch.new.tryPush (.cancelScheduler .syncLoss))
  else if r.lacksAuthority then
    if r.scheduler.isArmed then
      (r.scheduler.onSyncLoss, FixedBatch.new.tryPush (.cancelScheduler .syncLoss))
    else (r.scheduler, FixedBatch.new.tryPush .idle)
  else if isLocked r.engine.sync then r.armOutputs nowUs control r.scheduler.onSyncRecovered
  else (r.scheduler, FixedBatch.new.tryPush .idle)

/-- What every step pushes after its outputs. -/
def housekeeping : List Action :=
  (if r.engine.mode = .limpHome then [.applyAux r.limpHomeAuxCommands] else []) ++
    (if r.stagedDirty then [.persistCalibration] else []) ++ [.publishSnapshot]

def emitActions : SchedulerState × ActionBatch n :=
  let outputs := r.emitOutputs nowUs control
  (outputs.1, r.housekeeping.foldl FixedBatch.tryPush outputs.2)

/-! ### Steps -/

end EngineRuntime

structure TorqueObservations where
  (requestX1000 allowedX1000 actuatedX1000 : UInt16)
  deriving DecidableEq

def TorqueObservations.fromStep (torque : AllowedTorque) (operatingMode : ControlMode)
    (enginePhase : EnginePhase) (revHardActive fuelCut sparkCut : Bool) : TorqueObservations :=
  let allowedX1000 :=
    if operatingMode = .shutdown || enginePhase = .off || revHardActive then 0
    else torque.allowedX1000
  ⟨torque.requestedX1000, allowedX1000, if fuelCut || sparkCut then 0 else allowedX1000⟩

structure StepResult where
  validated : ValidatedInputs
  operatingMode : ControlMode
  control : ControlPlan
  actions : ActionBatch runtimeActionCap
  torqueObservations : TorqueObservations

/-- What a step is told besides the inputs of the planners. -/
structure StepFrame where
  nowUs : Micros
  validated : ValidatedInputs
  authority : EngineTimeAuthority
  (launchArmed flatShiftArmed safetyLatchRequest : Bool)

namespace EngineRuntime

variable (r : EngineRuntime) (frame : StepFrame) (inputs : AuthorityStepInputs)
  (input : DifferentialInputSnapshot) (controlInputs : ControlInputs)

def validateStepScalars (rpm loadKpa10 : UInt32) (angleX10 : Int32) : ValidatedInputs :=
  let clampedRpm := min rpm 9000
  let clampedLoad := min loadKpa10 2000
  let clampedAngle := max (-7200) (min angleX10 7200)
  { rpm := clampedRpm.toUInt16
    loadKpa10 := clampedLoad.toUInt16
    angleX10 := clampedAngle.toInt16
    clamped := clampedRpm ≠ rpm || clampedLoad ≠ loadKpa10 || clampedAngle ≠ angleX10 }

def deriveOperatingMode : ControlMode :=
  if r.faults.severity = .critical || r.faults.fault = .safetyCut then .shutdown
  else if r.faults.severity = .warning || r.faults.fault = .sensorOutOfRange then .limpHome
  else if r.engine.sync = .unsynced then .openLoop
  else if r.engine.phase = .running then .closedLoop
  else .openLoop

/-- The runtime after it has taken over position and authority and derived its mode. -/
def takeFrame : EngineRuntime :=
  let sampled := { r with engine := { r.engine with
    rpm := frame.validated.rpm
    angleX10 := frame.validated.angleX10
    loadKpa10 := frame.validated.loadKpa10 } }
  let timed := sampled.setEngineTimeAuthorityInner frame.authority
  { timed with engine := { timed.engine with mode := timed.deriveOperatingMode } }

def stepWithValidated : Option (EngineRuntime × StepResult) :=
  ((r.takeFrame frame).composeControl frame.validated controlInputs frame.launchArmed
    frame.flatShiftArmed frame.safetyLatchRequest).map fun (composed, control) =>
      let emitted := composed.emitActions frame.nowUs control
      let cut := { composed with
        scheduler := emitted.1
        fuelCut := control.fuelCut
        sparkCut := control.sparkCut }
      (cut.refreshSnapshot,
        { validated := frame.validated
          operatingMode := cut.engine.mode
          control := control
          actions := emitted.2
          torqueObservations := .fromStep control.torque cut.engine.mode cut.engine.phase
            cut.revHardActive cut.fuelCut cut.sparkCut })

/-- The frame of `step`: the authority is derived from the flags. -/
def stepFrame (inputs : StepInputs) : StepFrame :=
  let validated := validateStepScalars inputs.rpm inputs.loadKpa10 inputs.angleX10
  { nowUs := inputs.nowUs
    validated := validated
    authority := deriveEngineTimeAuthority r.engine.engineTimeAuthority inputs.triggerSynced
      inputs.camSeen validated.rpm
    launchArmed := inputs.launchArmed
    flatShiftArmed := inputs.flatShiftArmed
    safetyLatchRequest := inputs.safetyLatchRequest }

def step (inputs : StepInputs) (controlInputs : ControlInputs) :
    Option (EngineRuntime × StepResult) :=
  r.stepWithValidated (r.stepFrame inputs) controlInputs

def authorityStepFrame : StepFrame where
  nowUs := inputs.nowUs
  validated := validateStepScalars inputs.rpm inputs.loadKpa10 inputs.angleX10
  authority := inputs.authority
  launchArmed := inputs.launchArmed
  flatShiftArmed := inputs.flatShiftArmed
  safetyLatchRequest := inputs.safetyLatchRequest

def stepWithAuthority : Option (EngineRuntime × StepResult) :=
  r.stepWithValidated (authorityStepFrame inputs) controlInputs

/-- The direct requests and the fault of the differential input are set before the step. -/
def prepareDifferential : EngineRuntime :=
  let requested := r.setDirectCutRequests input.fuelCut input.sparkCut
  match input.mode with
  | .shutdown => requested.setFaultState .safetyCut .critical .safetyShutdown
  | _ => requested.setFaultState .none .info .manual

def differentialStepInputs : StepInputs :=
  let inputs := input.toStepInputs
  match input.mode with
  | .off => { inputs with rpm := 0, loadKpa10 := 0, triggerSynced := false, camSeen := false }
  | .cranking => { inputs with rpm := max inputs.rpm 1, triggerSynced := false, camSeen := false }
  | .running => { inputs with rpm := max inputs.rpm 1, triggerSynced := true, camSeen := true }
  | .shutdown => inputs

def stepWithDifferentialInput : Option (EngineRuntime × StepResult) :=
  (r.prepareDifferential input).step (differentialStepInputs input) controlInputs

end EngineRuntime

/-! ### Operations -/

/-- Everything a caller can do with a runtime that changes it. -/
inductive RuntimeOp
  | step (inputs : StepInputs) (control : ControlInputs)
  | stepWithAuthority (inputs : AuthorityStepInputs) (control : ControlInputs)
  | stepWithDifferentialInput (input : DifferentialInputSnapshot) (control : ControlInputs)
  | setDirectCutRequests (fuelCutRequest sparkCutRequest : Bool)
  | setFaultState (fault : FaultCode) (severity : FaultSeverity) (cancelReason : CancelReason)
  | setStagedDirty (dirty : Bool)
  | setEngineTimeAuthority (authority : EngineTimeAuthority)
  | trySetEngineTimeAuthority (authority : EngineTimeAuthority)
  | applySensorSample (rpm : Rpm) (loadKpa10 : Kpa10) (angleX10 : Degrees10)
  | applyDecoderObservation (observation : DecoderObservation)
  | configureOutputProfile (profile : RuntimeOutputProfile)
  | configureRuntimeFuelModel (strategy : RuntimeFuelStrategy)
  | configureStartupEnrichment (config : StartupConfig)
  | configureWarmupEnrichment (config : WarmupConfig)
  | configureAfterStartEnrichment (config : AfterStartConfig)
  | configureAccelerationEnrichment (config : AccelerationConfig)
  | configureLambdaTrim (config : LambdaTrimConfig)
  | configureDwell (config : DwellConfig)

namespace EngineRuntime

variable (r : EngineRuntime) (op : RuntimeOp)

/-- The operations that are not steps. -/
def configure : RuntimeOp → EngineRuntime
  | .setDirectCutRequests fuel spark => r.setDirectCutRequests fuel spark
  | .setFaultState fault severity reason => r.setFaultState fault severity reason
  | .setStagedDirty dirty => r.setStagedDirty dirty
  | .setEngineTimeAuthority authority => r.setEngineTimeAuthority authority
  | .trySetEngineTimeAuthority authority => (r.trySetEngineTimeAuthority authority).1
  | .applySensorSample rpm load angle => r.applySensorSample rpm load angle
  | .applyDecoderObservation observation => r.applyDecoderObservation observation
  | .configureOutputProfile profile => { r with outputProfile := profile }
  | .configureRuntimeFuelModel strategy =>
    { r with planners := { r.planners with fuelStrategy := strategy } }
  | .configureStartupEnrichment config =>
    { r with planners := { r.planners with startupConfig := config } }
  | .configureWarmupEnrichment config =>
    { r with planners := { r.planners with warmupConfig := config } }
  | .configureAfterStartEnrichment config =>
    { r with planners := { r.planners with afterStartConfig := config } }
  | .configureAccelerationEnrichment config =>
    { r with planners := { r.planners with accelerationConfig := config } }
  | .configureLambdaTrim config =>
    { r with planners := { r.planners with lambdaConfig := config } }
  | .configureDwell config => { r with planners := { r.planners with dwellConfig := config } }
  | .step .. | .stepWithAuthority .. | .stepWithDifferentialInput .. => r

/-- The runtime an operation steps from, with the frame of the step; `none` for an operation that
is not a step. -/
def frameOf : RuntimeOp → Option (EngineRuntime × StepFrame × ControlInputs)
  | .step inputs control => some (r, r.stepFrame inputs, control)
  | .stepWithAuthority inputs control => some (r, authorityStepFrame inputs, control)
  | .stepWithDifferentialInput input control =>
    let prepared := r.prepareDifferential input
    some (prepared, prepared.stepFrame (differentialStepInputs input), control)
  | _ => none

/-- An operation: the runtime afterwards and the result if it was a step; `none` if the firmware
stops. -/
def apply : Option (EngineRuntime × Option StepResult) :=
  match op with
  | .step inputs control => (r.step inputs control).map fun (r', result) => (r', some result)
  | .stepWithAuthority inputs control =>
    (r.stepWithAuthority inputs control).map fun (r', result) => (r', some result)
  | .stepWithDifferentialInput input control =>
    (r.stepWithDifferentialInput input control).map fun (r', result) => (r', some result)
  | other => some (r.configure other, none)

def advance : EngineRuntime :=
  match r.apply op with
  | none => r
  | some (r', _) => r'

/-! ### What a step leaves alone -/

lemma apply_eq :
    r.apply op = match r.frameOf op with
      | some (start, frame, control) =>
        (start.stepWithValidated frame control).map fun (r', result) => (r', some result)
      | none => some (r.configure op, none) := by
  cases op <;> rfl

/-- The part of the runtime that composing the control plan does not touch. -/
structure Same (r r' : EngineRuntime) : Prop where
  engine : r'.engine = r.engine
  faults : r'.faults = r.faults
  stagedDirty : r'.stagedDirty = r.stagedDirty
  scheduler : r'.scheduler = r.scheduler
  outputProfile : r'.outputProfile = r.outputProfile
  directFuelCutRequest : r'.directFuelCutRequest = r.directFuelCutRequest
  directSparkCutRequest : r'.directSparkCutRequest = r.directSparkCutRequest

variable {r r' : EngineRuntime} {validated : ValidatedInputs} {inputs : ControlInputs}
  {input : FuelInputSnapshot} {latch : Bool} {intent : FuelIntent} {plan : ControlPlan}

lemma same_evaluateSemantic {strategy : RuntimeSemanticState → RuntimeFuelStrategy}
    {cal : RuntimeSemanticCalibration} {state : RuntimeSemanticState}
    {semanticInput : RuntimeSemanticInputSnapshot}
    (h : r.evaluateSemantic strategy cal state input semanticInput = some (r', intent)) :
    Same r r' := by
  obtain ⟨e, -, he⟩ := Option.map_eq_some_iff.mp h
  cases e with
  | error e | ok next =>
    cases he
    exact ⟨rfl, rfl, rfl, rfl, rfl, rfl, rfl⟩

lemma same_computeFuelIntent (h : r.computeFuelIntent input latch = some (r', intent)) :
    Same r r' := by
  unfold computeFuelIntent at h
  split at h
  · cases h
    exact ⟨rfl, rfl, rfl, rfl, rfl, rfl, rfl⟩
  · exact same_evaluateSemantic h
  · exact same_evaluateSemantic h
  · split_ifs at h
    · cases h
      exact ⟨rfl, rfl, rfl, rfl, rfl, rfl, rfl⟩
    · exact same_evaluateSemantic h

/-- Composing the plan: the cuts are those of the fuel intent, and the flags and the strategy are
as the fuel intent left them. No pulse becomes one. -/
lemma composeControl_eq_some {launch flat : Bool}
    (h : r.composeControl validated inputs launch flat latch = some (r', plan)) :
    ∃ fuelled intent,
      ({ r with knockIntensityX100 := inputs.knockIntensityX100 } : EngineRuntime).computeFuelIntent
        (r.fuelInputSnapshot validated inputs launch flat) latch = some (fuelled, intent) ∧
      plan.fuelCut = intent.fuelCut ∧ plan.sparkCut = intent.sparkCut ∧
      Same fuelled r' ∧ r'.safetyLatched = fuelled.safetyLatched ∧
      r'.planners.fuelStrategy = fuelled.planners.fuelStrategy ∧
      (intent.pulseWidthUs = 0 → plan.enrichedFuel = 0) := by
  simp only [composeControl, Option.bind_eq_bind, Option.bind_eq_some_iff, Option.pure_def,
    Option.some.injEq] at h
  obtain ⟨⟨fuelled, intent⟩, hfuel, ⟨planner, lambda⟩, -, ignition, -, heq⟩ := h
  cases heq
  refine ⟨fuelled, intent, hfuel, rfl, rfl, ⟨rfl, rfl, rfl, rfl, rfl, rfl, rfl⟩, rfl, rfl, ?_⟩
  intro hzero
  simp [hzero, EnrichmentResult.applyTo, applyLambdaTrim]

lemma same_composeControl {launch flat : Bool}
    (h : r.composeControl validated inputs launch flat latch = some (r', plan)) : Same r r' := by
  obtain ⟨fuelled, intent, hfuel, -, -, h', -⟩ := composeControl_eq_some h
  have h₀ := same_computeFuelIntent hfuel
  exact ⟨h'.engine.trans h₀.engine, h'.faults.trans h₀.faults,
    h'.stagedDirty.trans h₀.stagedDirty, h'.scheduler.trans h₀.scheduler,
    h'.outputProfile.trans h₀.outputProfile,
    h'.directFuelCutRequest.trans h₀.directFuelCutRequest,
    h'.directSparkCutRequest.trans h₀.directSparkCutRequest⟩

lemma Same.emitActions {n : ℕ} (h : Same r r') (nowUs : Micros) (control : ControlPlan) :
    r'.emitActions (n := n) nowUs control = r.emitActions nowUs control := by
  obtain ⟨he, hf, hd, hs, ho, -, -⟩ := h
  cases r
  cases r'
  subst he hf hd hs ho
  rfl

/-- **One step.** The plan is composed at the taken-over frame, the actions are emitted there, and
nothing else of what they are emitted from changes. -/
lemma stepWithValidated_eq_some {frame : StepFrame} {result : StepResult}
    (h : r.stepWithValidated frame inputs = some (r', result)) :
    ∃ composed,
      (r.takeFrame frame).composeControl frame.validated inputs frame.launchArmed
        frame.flatShiftArmed frame.safetyLatchRequest = some (composed, result.control) ∧
      result.actions = ((r.takeFrame frame).emitActions frame.nowUs result.control).2 ∧
      result.operatingMode = (r.takeFrame frame).engine.mode ∧
      Same { r.takeFrame frame with
        scheduler := ((r.takeFrame frame).emitActions (n := runtimeActionCap) frame.nowUs
          result.control).1 } r' ∧
      r'.safetyLatched = composed.safetyLatched ∧
      r'.planners.fuelStrategy = composed.planners.fuelStrategy := by
  obtain ⟨⟨composed, control⟩, hc, heq⟩ := Option.map_eq_some_iff.mp h
  cases heq
  have hsame := same_composeControl hc
  have hemit := hsame.emitActions (n := runtimeActionCap) frame.nowUs control
  refine ⟨composed, hc, congrArg Prod.snd hemit, congrArg EngineState.mode hsame.engine, ?_, rfl,
    rfl⟩
  exact ⟨hsame.engine, hsame.faults, hsame.stagedDirty, congrArg Prod.fst hemit,
    hsame.outputProfile, hsame.directFuelCutRequest, hsame.directSparkCutRequest⟩

end EngineRuntime

end Pipoco.Engine
