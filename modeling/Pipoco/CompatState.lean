import Pipoco.RevLimiter

/-!
The safety side of the compatibility layer's engine state.

Voltage monitor, load failure tracker, sync loss tracker, flood clear and range diagnostics are
small state machines of their own. The engine state owns one of each, feeds them the trigger and
sensor inputs, and asks all of them before it injects.

A method that returns a value besides changing the state returns both. The clamps of the sensor
update stop the firmware when a limit is above the other one, so that method returns an `Option`.
-/

namespace Pipoco.Compat

open Domain RevLimiter

/-! ### Diagnostics -/

inductive DiagCode
  | mapRange | tpsRange | camMissing | lowVoltage | overvoltage | mapFailureHighLoad
  | tpsMapPlausibility | knockDetected | persistCrcFault | oilPressureLow | fuelPressureLow
  | lambdaInvalid
  deriving DecidableEq, Repr

inductive DiagSource
  | sensor | trigger | scheduler | safety | user
  deriving DecidableEq, Repr

inductive DiagStatus
  | inactive
  | latched (since : Micros)
  | cleared (at_ : Micros)
  deriving DecidableEq

structure DiagState where
  status : DiagStatus
  (startUs inRangeSinceUs totalUs : UInt32)
  deriving DecidableEq

def DiagState.new : DiagState := ⟨.inactive, 0, 0, 0⟩

def DiagState.isActive (d : DiagState) : Bool :=
  match d.status with
  | .latched _ | .cleared _ => true
  | .inactive => false

structure DiagEvent where
  code : DiagCode
  timestamp : Micros
  source : DiagSource
  context : Option UInt32
  (startUs endUs : UInt32)
  deriving DecidableEq

def diagLogLen : ℕ := 16

/-- A ring of the last events. -/
structure DiagLog where
  events : List (Option DiagEvent)
  head : UInt8
  deriving DecidableEq

def DiagLog.new : DiagLog := ⟨List.replicate diagLogLen none, 0⟩

def DiagLog.push (log : DiagLog) (event : DiagEvent) : DiagLog :=
  ⟨log.events.set (log.head.toNat % diagLogLen) (some event), log.head + 1⟩

structure DiagClearSummary where
  (clearedActiveCount clearedLogEntries : UInt8)
  emergencyCleared : Bool
  deriving DecidableEq

/-! ### Flood clear and sync loss -/

def crankingRpmThreshold : Rpm := 500
def wotTpsThreshold : Percent := 90
def syncRecoveryAttempts : UInt8 := 3
def syncRecoveryWindowUs : UInt32 := 5000000

structure FloodClearState where
  active : Bool
  activeCycles : UInt16
  deriving DecidableEq

def FloodClearState.new : FloodClearState := ⟨false, 0⟩

def updateFloodClear (rpm : Rpm) (tpsPercent : Percent) (state : FloodClearState) :
    FloodClearState × Bool :=
  if rpm < crankingRpmThreshold ∧ wotTpsThreshold ≤ tpsPercent then
    (⟨true, satAdd16 state.activeCycles 1⟩, true)
  else (if state.active then .new else state, false)

structure SyncLossTracker where
  lossCount : UInt8
  windowStartUs : UInt32
  shutdown : Bool
  (totalLosses successfulRecoveries : UInt16)
  deriving DecidableEq

namespace SyncLossTracker

variable (t : SyncLossTracker)

def new : SyncLossTracker := ⟨0, 0, false, 0, 0⟩

def recordSyncLoss (currentTimeUs : UInt32) : SyncLossTracker × Bool :=
  let counted := { t with totalLosses := satAdd16 t.totalLosses 1 }
  let timeSinceWindowStart := currentTimeUs - t.windowStartUs
  if t.lossCount = 0 ∨ timeSinceWindowStart > syncRecoveryWindowUs then
    ({ counted with windowStartUs := currentTimeUs, lossCount := 1 }, false)
  else
    let lossCount := satAdd8 t.lossCount 1
    if syncRecoveryAttempts ≤ lossCount then
      ({ counted with lossCount := lossCount, shutdown := true }, true)
    else ({ counted with lossCount := lossCount }, false)

def recordRecovery : SyncLossTracker :=
  { t with successfulRecoveries := satAdd16 t.successfulRecoveries 1 }

def resetWindow : SyncLossTracker :=
  { t with lossCount := 0, windowStartUs := 0 }

def isShutdown : Bool := t.shutdown

def clearShutdown : SyncLossTracker :=
  { t with shutdown := false, lossCount := 0, windowStartUs := 0 }

end SyncLossTracker

def shouldAllowInjection (floodClearActive syncShutdown : Bool) : Bool :=
  if floodClearActive then false else if syncShutdown then false else true

/-! ### Voltage -/

def brownoutCriticalMv : UInt16 := 8000
def brownoutWarningMv : UInt16 := 10000
def overvoltageMv : UInt16 := 16500
def recoveryMv : UInt16 := 11500
def recoveryTimeUs : UInt32 := 2000000
def limpRpmLimit : Rpm := 3000
def criticalDebounceCount : UInt8 := 3

inductive PowerState
  | normal | warning | critical | overvoltage
  deriving DecidableEq, Repr

structure VoltageMonitor where
  state : PowerState
  lastVoltageMv : UInt16
  (warningStartUs recoveryStartUs : UInt32)
  criticalCount : UInt8
  (fuelCutActive limpActive : Bool)
  deriving DecidableEq

namespace VoltageMonitor

variable (m : VoltageMonitor) (voltageMv : UInt16) (nowUs : UInt32)

def new : VoltageMonitor := ⟨.normal, 12500, 0, 0, 0, false, false⟩

/-- A reading at or above the warning level. -/
def recover : VoltageMonitor :=
  if recoveryMv ≤ voltageMv then
    let started :=
      if m.recoveryStartUs = 0 ∧ m.state ≠ .normal then { m with recoveryStartUs := nowUs } else m
    if started.recoveryStartUs ≠ 0 ∧ recoveryTimeUs ≤ nowUs - started.recoveryStartUs then
      { started with state := .normal, fuelCutActive := false, limpActive := false,
                     recoveryStartUs := 0 }
    else started
  else { m with recoveryStartUs := 0 }

/-- The monitor after a reading. The power state it then has is what the source returns. -/
def update : VoltageMonitor :=
  let m := { m with lastVoltageMv := voltageMv }
  if voltageMv > overvoltageMv then { m with state := .overvoltage, criticalCount := 0 }
  else if voltageMv < brownoutCriticalMv then
    let counted := { m with criticalCount := satAdd8 m.criticalCount 1 }
    if criticalDebounceCount ≤ counted.criticalCount then
      { counted with state := .critical, fuelCutActive := true, limpActive := true,
                     recoveryStartUs := 0 }
    else counted
  else
    let m := { m with criticalCount := 0 }
    if voltageMv < brownoutWarningMv then
      { m with
        warningStartUs :=
          if m.state ≠ .warning ∧ m.state ≠ .critical then nowUs else m.warningStartUs
        state := .warning
        limpActive := true
        recoveryStartUs := 0
        -- the state has just been set to `warning`, so the source's test always succeeds
        fuelCutActive := false }
    else
      let recovered := m.recover voltageMv nowUs
      if recovered.state = .overvoltage then { recovered with state := .normal } else recovered

def shouldBlockFuel : Bool := m.fuelCutActive

def getRpmLimit : Option Rpm := if m.limpActive then some limpRpmLimit else none

def reset (_ : VoltageMonitor) : VoltageMonitor := .new

end VoltageMonitor

/-! ### Load failure -/

structure LoadFailureConfig where
  enable : Bool
  (rpmThreshold limpRpmLimit : Rpm)
  (recoveryTimeUs debounceTimeUs : UInt32)
  deriving DecidableEq

def LoadFailureConfig.default : LoadFailureConfig := ⟨true, 4000, 3000, 2000000, 100000⟩

inductive LoadFailureReason
  | mapFailureHighRpm
  deriving DecidableEq, Repr

structure LoadFailureTracker where
  inLimp : Bool
  reason : Option LoadFailureReason
  (enteredUs goodSinceUs faultDetectedUs : UInt32)
  faultPending : Bool
  deriving DecidableEq

namespace LoadFailureTracker

variable (t : LoadFailureTracker) (config : LoadFailureConfig) (nowUs : UInt32)

def new : LoadFailureTracker := ⟨false, none, 0, 0, 0, false⟩

def onFault : LoadFailureTracker :=
  let t := { t with goodSinceUs := 0 }
  if !t.faultPending then { t with faultPending := true, faultDetectedUs := nowUs }
  else if config.debounceTimeUs ≤ nowUs - t.faultDetectedUs ∧ t.inLimp = false then
    { t with inLimp := true, reason := some .mapFailureHighRpm, enteredUs := nowUs }
  else t

def onGood : LoadFailureTracker :=
  let t := { t with faultPending := false, faultDetectedUs := 0 }
  if !t.inLimp then t
  else if t.goodSinceUs = 0 then { t with goodSinceUs := nowUs }
  else if config.recoveryTimeUs ≤ nowUs - t.goodSinceUs then
    { t with inLimp := false, reason := none, goodSinceUs := 0 }
  else t

def check (mapFault : Bool) (rpm : Rpm) (config : LoadFailureConfig) (nowUs : UInt32) :
    LoadFailureTracker × Bool :=
  if !config.enable then (t, false)
  else
    let t' := if mapFault && config.rpmThreshold ≤ rpm then t.onFault config nowUs
      else t.onGood config nowUs
    (t', t'.inLimp)

def getRpmLimit : Option Rpm := if t.inLimp then some config.limpRpmLimit else none

def reset (_ : LoadFailureTracker) : LoadFailureTracker := .new

end LoadFailureTracker

/-! ### The engine state -/

structure SensorsLimits where
  (mapMinKpaX10 mapMaxKpaX10 : Kpa10)
  (tpsMinPercent tpsMaxPercent : Percent)
  clearTimeS : UInt16
  deriving DecidableEq

def SensorsLimits.default : SensorsLimits := ⟨100, 3000, 0, 100, 3⟩

structure EcuInputs where
  rpm : Rpm
  synced : Bool
  toothCount : UInt8
  batteryVoltageMv : UInt16
  tpsPercent : Percent
  mapKpaX10 : Kpa10
  deriving DecidableEq

structure EcuConfig where
  sensorsLimits : SensorsLimits
  loadFailureConfig : LoadFailureConfig
  revLimiterConfig : RevLimiterConfig
  deriving DecidableEq

structure EcuFaults where
  (emergencyTriggerMapOob emergencyTriggerTpsOob emergencyMode : Bool)
  diagLog : DiagLog
  deriving DecidableEq

/-- The trigger inputs and the sensor readings are kept twice, as fields of the state and in the
inputs; the safety logic reads the speed and the sync flag from the inputs and the sensor readings
from the fields. -/
structure EcuState where
  rpm : Rpm
  synced : Bool
  toothCount : UInt8
  inputs : EcuInputs
  config : EcuConfig
  revLimiterState : RevLimiterState
  tpsPercent : Percent
  mapKpaX10 : Kpa10
  floodClearState : FloodClearState
  syncLossTracker : SyncLossTracker
  (diagMap diagTps diagCam : DiagState)
  voltageMonitor : VoltageMonitor
  loadFailureTracker : LoadFailureTracker
  faults : EcuFaults
  deriving DecidableEq

namespace EcuState

def new : EcuState where
  rpm := 0
  synced := false
  toothCount := 0
  inputs := ⟨0, false, 0, 12500, 0, 1000⟩
  config := ⟨.default, .default, .default⟩
  revLimiterState := .new
  tpsPercent := 0
  mapKpaX10 := 1000
  floodClearState := .new
  syncLossTracker := .new
  diagMap := .new
  diagTps := .new
  diagCam := .new
  voltageMonitor := .new
  loadFailureTracker := .new
  faults := ⟨false, false, false, .new⟩

/-! #### Accessors -/

variable (e : EcuState) (rpm : Rpm) (synced value : Bool)

def setRpm : EcuState :=
  { e with rpm := rpm, inputs := { e.inputs with rpm := rpm } }

def setSynced : EcuState :=
  { e with synced := synced, inputs := { e.inputs with synced := synced } }

def setTriggerInputs (toothCount : UInt8) : EcuState :=
  { e with
    rpm := rpm
    synced := synced
    toothCount := toothCount
    inputs := { e.inputs with rpm := rpm, synced := synced, toothCount := toothCount } }

def setBatteryVoltageMv (batteryVoltageMv : UInt16) : EcuState :=
  { e with inputs := { e.inputs with batteryVoltageMv := batteryVoltageMv } }

def setTpsPercent (tpsPercent : Percent) : EcuState :=
  { e with tpsPercent := tpsPercent, inputs := { e.inputs with tpsPercent := tpsPercent } }

def setMapKpaX10 (mapKpaX10 : Kpa10) : EcuState :=
  { e with mapKpaX10 := mapKpaX10, inputs := { e.inputs with mapKpaX10 := mapKpaX10 } }

def setEmergencyMode : EcuState :=
  { e with faults := { e.faults with emergencyMode := value } }

def setEmergencyTriggerMapOob : EcuState :=
  { e with faults := { e.faults with emergencyTriggerMapOob := value } }

def setEmergencyTriggerTpsOob : EcuState :=
  { e with faults := { e.faults with emergencyTriggerTpsOob := value } }

def pushDiag (event : DiagEvent) : EcuState :=
  { e with faults := { e.faults with diagLog := e.faults.diagLog.push event } }

/-! #### Sensors -/

variable (faults : EcuFaults)

/-- The diagnostic of one sensor after a reading, and the event it logs when it is closed. -/
def updateRange (diag : DiagState) (code : DiagCode) (outOfRange : Bool) (raw clearTimeS : UInt32)
    (nowUs : UInt32) : DiagState × Option DiagEvent :=
  if outOfRange then
    if diag.isActive then (diag, none)
    else ({ diag with status := .latched nowUs, startUs := nowUs, inRangeSinceUs := 0 }, none)
  else if diag.isActive then
    let since := if diag.inRangeSinceUs = 0 then nowUs else diag.inRangeSinceUs
    if clearTimeS * 1000000 ≤ nowUs - since then
      (.new, some ⟨code, nowUs, .sensor, some raw, diag.startUs, nowUs⟩)
    else ({ diag with inRangeSinceUs := since }, none)
  else (diag, none)

/-- A latched fault sets the emergency mode if it is configured as a trigger. -/
def raiseEmergency (trigger outOfRange wasActive : Bool) : EcuFaults :=
  if outOfRange && !wasActive && trigger then { faults with emergencyMode := true } else faults

def logged (event : Option DiagEvent) : EcuFaults :=
  match event with
  | some event => { faults with diagLog := faults.diagLog.push event }
  | none => faults

def processSensorUpdate (nowUs : Micros) (rawMapKpaX10 : Kpa10) (rawTpsPercent : Percent) :
    Option (EcuState × Kpa10 × Percent) :=
  let lim := e.config.sensorsLimits
  if lim.mapMaxKpaX10 < lim.mapMinKpaX10 ∨ lim.tpsMaxPercent < lim.tpsMinPercent then none
  else
    let map := max lim.mapMinKpaX10 (min rawMapKpaX10 lim.mapMaxKpaX10)
    let tps := max lim.tpsMinPercent (min rawTpsPercent lim.tpsMaxPercent)
    let mapOob := rawMapKpaX10 < lim.mapMinKpaX10 || rawMapKpaX10 > lim.mapMaxKpaX10
    let tpsOob := rawTpsPercent < lim.tpsMinPercent || rawTpsPercent > lim.tpsMaxPercent
    let clearTimeS := lim.clearTimeS.toUInt32
    let mapDiag := updateRange e.diagMap .mapRange mapOob rawMapKpaX10.toUInt32 clearTimeS nowUs
    let faults := logged (raiseEmergency e.faults e.faults.emergencyTriggerMapOob mapOob
      e.diagMap.isActive) mapDiag.2
    let tpsDiag := updateRange e.diagTps .tpsRange tpsOob rawTpsPercent.toUInt32 clearTimeS nowUs
    let faults := logged (raiseEmergency faults faults.emergencyTriggerTpsOob tpsOob
      e.diagTps.isActive) tpsDiag.2
    let mapEmergActive := faults.emergencyTriggerMapOob && mapDiag.1.isActive
    let tpsEmergActive := faults.emergencyTriggerTpsOob && tpsDiag.1.isActive
    let faults := { faults with
      emergencyMode := faults.emergencyMode && (mapEmergActive || tpsEmergActive) }
    let e' := { e with diagMap := mapDiag.1, diagTps := tpsDiag.1, faults := faults }
    some ((e'.setMapKpaX10 map).setTpsPercent tps, map, tps)

def clearDiagnostics : EcuState × DiagClearSummary :=
  let activeCount :=
    UInt8.ofNat (([e.diagMap, e.diagTps, e.diagCam].filter DiagState.isActive).length)
  let logEntries := UInt8.ofNat (e.faults.diagLog.events.filter Option.isSome).length
  ({ e with
      diagMap := .new
      diagTps := .new
      diagCam := .new
      faults := { e.faults with diagLog := .new, emergencyMode := false } },
    ⟨activeCount, logEntries, e.faults.emergencyMode⟩)

/-! #### Safety -/

variable (cylinder : UInt8)

def updateFloodClear : EcuState × Bool :=
  let r := Compat.updateFloodClear e.inputs.rpm e.tpsPercent e.floodClearState
  ({ e with floodClearState := r.1 }, r.2)

def recordSyncLoss (currentTimeUs : UInt32) : EcuState × Bool :=
  let r := e.syncLossTracker.recordSyncLoss currentTimeUs
  ({ e.setSynced false with syncLossTracker := r.1 }, r.2)

def recordSyncRecovery : EcuState :=
  { e.setSynced true with syncLossTracker := e.syncLossTracker.recordRecovery }

def resetSyncLossWindow : EcuState :=
  { e with syncLossTracker := e.syncLossTracker.resetWindow }

def updateRevLimiter : EcuState :=
  { e with
    revLimiterState := updateLimiter e.inputs.rpm e.config.revLimiterConfig e.revLimiterState }

def shouldInjectFuel : Bool := shouldInject e.revLimiterState cylinder

def shouldInjectWithAllSafety : Bool :=
  if !e.inputs.synced then false
  else if e.faults.emergencyMode then false
  else if e.voltageMonitor.shouldBlockFuel then false
  else if !shouldAllowInjection e.floodClearState.active e.syncLossTracker.isShutdown then false
  else if !e.shouldInjectFuel cylinder then false
  else true

def updateVoltage (voltageMv : UInt16) (nowUs : UInt32) : EcuState × PowerState :=
  let monitor := e.voltageMonitor.update voltageMv nowUs
  let e' := { e with voltageMonitor := monitor }.setBatteryVoltageMv voltageMv
  (if monitor.state = .critical ∧ e.diagMap.isActive = false then
      e'.pushDiag ⟨.lowVoltage, nowUs, .sensor, some voltageMv.toUInt32, nowUs, 0⟩
    else e', monitor.state)

def getEffectiveRpmLimit : Rpm :=
  let limit := e.config.revLimiterConfig.maxRpm
  let limit := match e.voltageMonitor.getRpmLimit with
    | some voltageLimit => min limit voltageLimit
    | none => limit
  match e.loadFailureTracker.getRpmLimit e.config.loadFailureConfig with
  | some loadLimit => min limit loadLimit
  | none => limit

def checkLoadFailure (nowUs : UInt32) : EcuState × Bool :=
  let r :=
    e.loadFailureTracker.check e.diagMap.isActive e.inputs.rpm e.config.loadFailureConfig nowUs
  let e' := { e with loadFailureTracker := r.1 }
  (if r.2 && r.1.enteredUs = nowUs then
      e'.pushDiag ⟨.mapFailureHighLoad, nowUs, .safety, some e.inputs.rpm.toUInt32, nowUs, 0⟩
    else e', r.2)

end EcuState

end Pipoco.Compat
