import Pipoco.CompatState
import Pipoco.Runs

/-!
The speed limit of the limp modes.

A limp mode lowers the effective speed limit. Injection is gated by the rev limiter, and the rev
limiter is updated with its own limit only, so between the two an engine in limp mode is fuelled.
The result says exactly when injection is off after an update: some other gate is closed, or the
rev limiter cuts at this speed by itself.
-/

namespace Pipoco.LimpLimit

open Domain RevLimiter Compat Runs

/-! ### Runs -/

variable (e : EcuState)

/-- The methods that touch the trigger inputs, the trackers or their configuration. -/
inductive EcuOp
  | setRpm (rpm : Rpm)
  | setSynced (synced : Bool)
  | setTriggerInputs (rpm : Rpm) (synced : Bool) (toothCount : UInt8)
  | setBatteryVoltageMv (batteryVoltageMv : UInt16)
  | setTpsPercent (tpsPercent : Percent)
  | setMapKpaX10 (mapKpaX10 : Kpa10)
  | setEmergencyMode (value : Bool)
  | setEmergencyTriggerMapOob (value : Bool)
  | setEmergencyTriggerTpsOob (value : Bool)
  | setConfig (config : EcuConfig)
  | processSensorUpdate (nowUs : Micros) (rawMapKpaX10 : Kpa10) (rawTpsPercent : Percent)
  | clearDiagnostics
  | updateFloodClear
  | recordSyncLoss (currentTimeUs : UInt32)
  | recordSyncRecovery
  | resetSyncLossWindow
  | clearShutdown
  | updateRevLimiter
  | updateVoltage (voltageMv : UInt16) (nowUs : UInt32)
  | resetVoltageMonitor
  | checkLoadFailure (nowUs : UInt32)
  | resetLoadFailureTracker

/-- A sensor update that stops the firmware has no next state; the run stays where it was. -/
def apply : EcuOp → EcuState
  | .setRpm rpm => e.setRpm rpm
  | .setSynced synced => e.setSynced synced
  | .setTriggerInputs rpm synced toothCount => e.setTriggerInputs rpm synced toothCount
  | .setBatteryVoltageMv mv => e.setBatteryVoltageMv mv
  | .setTpsPercent tps => e.setTpsPercent tps
  | .setMapKpaX10 map => e.setMapKpaX10 map
  | .setEmergencyMode value => e.setEmergencyMode value
  | .setEmergencyTriggerMapOob value => e.setEmergencyTriggerMapOob value
  | .setEmergencyTriggerTpsOob value => e.setEmergencyTriggerTpsOob value
  | .setConfig config => { e with config := config }
  | .processSensorUpdate now map tps => ((e.processSensorUpdate now map tps).map (·.1)).getD e
  | .clearDiagnostics => e.clearDiagnostics.1
  | .updateFloodClear => e.updateFloodClear.1
  | .recordSyncLoss now => (e.recordSyncLoss now).1
  | .recordSyncRecovery => e.recordSyncRecovery
  | .resetSyncLossWindow => e.resetSyncLossWindow
  | .clearShutdown => { e with syncLossTracker := e.syncLossTracker.clearShutdown }
  | .updateRevLimiter => e.updateRevLimiter
  | .updateVoltage mv now => (e.updateVoltage mv now).1
  | .resetVoltageMonitor => { e with voltageMonitor := e.voltageMonitor.reset }
  | .checkLoadFailure now => (e.checkLoadFailure now).1
  | .resetLoadFailureTracker => { e with loadFailureTracker := e.loadFailureTracker.reset }

def limp : Bool × Bool := (e.voltageMonitor.limpActive, e.loadFailureTracker.inLimp)

/-- What the rev limiter is updated with, and the limp modes. -/
def watched : Rpm × RevLimiterConfig × Bool × Bool :=
  (e.inputs.rpm, e.config.revLimiterConfig, limp e)

/-- The engine state together with what its history says about the rev limiter: whether it has
been updated since the speed, its configuration or a limp mode last changed, and whether it was on
before its last update. -/
structure Traced where
  ecu : EcuState
  (fresh wasActive : Bool)
  deriving DecidableEq

variable (x : Traced) (op : EcuOp)

def step : Traced :=
  match op with
  | .updateRevLimiter => ⟨x.ecu.updateRevLimiter, true, x.ecu.revLimiterState.active⟩
  | op =>
    ⟨apply x.ecu op, x.fresh && decide (watched (apply x.ecu op) = watched x.ecu), x.wasActive⟩

def start : Traced := ⟨e, false, false⟩

/-! ### The rev limiter along a run -/

lemma revLimiterState_processSensorUpdate (now : Micros) (map : Kpa10) (tps : Percent) :
    (((e.processSensorUpdate now map tps).map (·.1)).getD e).revLimiterState =
      e.revLimiterState := by
  unfold EcuState.processSensorUpdate
  dsimp only
  split_ifs <;> rfl

/-- Only its own update changes the rev limiter. -/
lemma revLimiterState_apply {op : EcuOp} (h : op ≠ .updateRevLimiter) :
    (apply e op).revLimiterState = e.revLimiterState := by
  cases op with
  | updateRevLimiter => exact absurd rfl h
  | processSensorUpdate now map tps => exact revLimiterState_processSensorUpdate e now map tps
  | updateVoltage mv now =>
    unfold apply EcuState.updateVoltage
    dsimp only
    split_ifs <;> rfl
  | checkLoadFailure now =>
    unfold apply EcuState.checkLoadFailure
    dsimp only
    split_ifs <;> rfl
  | _ => rfl

/-- A fresh rev limiter is the outcome of an update at the present speed. -/
def Updated : Prop :=
  x.fresh = true → ∃ before : RevLimiterState, before.active = x.wasActive ∧
    x.ecu.revLimiterState = updateLimiter x.ecu.inputs.rpm x.ecu.config.revLimiterConfig before

lemma updated_step (h : Updated x) : Updated (step x op) := by
  by_cases hop : op = .updateRevLimiter
  · subst hop
    exact fun _ => ⟨x.ecu.revLimiterState, rfl, rfl⟩
  · have hstep : step x op = ⟨apply x.ecu op,
        x.fresh && decide (watched (apply x.ecu op) = watched x.ecu), x.wasActive⟩ := by
      cases op <;> first | rfl | exact absurd rfl hop
    rw [hstep]
    intro hfresh
    simp only [Bool.and_eq_true, decide_eq_true_eq] at hfresh
    obtain ⟨before, hactive, hstate⟩ := h hfresh.1
    obtain ⟨hrpm, hrest⟩ := Prod.mk.inj hfresh.2
    obtain ⟨hconfig, -⟩ := Prod.mk.inj hrest
    refine ⟨before, hactive, ?_⟩
    rw [revLimiterState_apply x.ecu hop, hrpm, hconfig]
    exact hstate

/-! ### The gates -/

/-- A gate other than the rev limiter keeps injection off. -/
def Blocked : Prop :=
  e.inputs.synced = false ∨ e.faults.emergencyMode = true ∨ e.voltageMonitor.fuelCutActive = true ∨
    e.floodClearState.active = true ∨ e.syncLossTracker.shutdown = true
  deriving Decidable

lemma shouldInjectWithAllSafety_eq_false_iff (cylinder : UInt8) :
    e.shouldInjectWithAllSafety cylinder = false ↔
      Blocked e ∨ shouldInject e.revLimiterState cylinder = false := by
  unfold EcuState.shouldInjectWithAllSafety EcuState.shouldInjectFuel Blocked shouldAllowInjection
    VoltageMonitor.shouldBlockFuel SyncLossTracker.isShutdown
  rcases e.inputs.synced <;> rcases e.faults.emergencyMode <;>
    rcases e.voltageMonitor.fuelCutActive <;> rcases e.floodClearState.active <;>
    rcases e.syncLossTracker.shutdown <;> simp

/-- The speed limit of the limp modes holds in a state: once the rev limiter has been updated, an
engine in limp mode at or above the effective limit gets no fuel. -/
def LimpLimitHolds : Prop :=
  limp x.ecu ≠ (false, false) → x.ecu.getEffectiveRpmLimit ≤ x.ecu.inputs.rpm → x.fresh = true →
    ∀ cylinder, x.ecu.shouldInjectWithAllSafety cylinder = false

/-- **The limp limit.** In every state of a run, the limit holds exactly when such an engine is
kept off by another gate, or is at a speed at which the rev limiter cuts by its own limit. -/
theorem limpLimitHolds_iff (e : EcuState) (ops : List EcuOp)
    (h : CutsAll (run step (start e) ops).ecu.config.revLimiterConfig) :
    LimpLimitHolds (run step (start e) ops) ↔
      (limp (run step (start e) ops).ecu ≠ (false, false) →
        (run step (start e) ops).ecu.getEffectiveRpmLimit ≤
          (run step (start e) ops).ecu.inputs.rpm →
        (run step (start e) ops).fresh = true →
        Blocked (run step (start e) ops).ecu ∨
          CutsFuel (run step (start e) ops).ecu.config.revLimiterConfig
            (run step (start e) ops).ecu.inputs.rpm (run step (start e) ops).wasActive) := by
  have hupdated : Updated (run step (start e) ops) :=
    run_inv (I := Updated) updated_step (fun hfresh => by cases hfresh) ops
  generalize run step (start e) ops = x at h hupdated ⊢
  have hgates : x.fresh = true → ∀ cylinder, x.ecu.shouldInjectWithAllSafety cylinder = false ↔
      Blocked x.ecu ∨ CutsFuel x.ecu.config.revLimiterConfig x.ecu.inputs.rpm x.wasActive := by
    intro hfresh cylinder
    obtain ⟨before, hactive, hstate⟩ := hupdated hfresh
    rw [shouldInjectWithAllSafety_eq_false_iff, hstate, shouldInject_updateLimiter_iff h, hactive]
  constructor
  · intro hholds hlimp hrpm hfresh
    exact (hgates hfresh 0).mp (hholds hlimp hrpm hfresh 0)
  · intro hcond hlimp hrpm hfresh cylinder
    exact (hgates hfresh cylinder).mpr (hcond hlimp hrpm hfresh)

/-- A synced engine with the race limiter, a battery at nine volts, and a speed. -/
def lowBattery (rpm : Rpm) : List EcuOp :=
  [.setConfig { EcuState.new.config with revLimiterConfig := .race }, .setTriggerInputs rpm true 0,
    .updateVoltage 9000 1000, .updateRevLimiter]

/-- Above the rev limiter's own limit the limp limit holds. -/
theorem limpLimitHolds_at_limit :
    limp (run step (start .new) (lowBattery 8200)).ecu = (true, false) ∧
    LimpLimitHolds (run step (start .new) (lowBattery 8200)) :=
  ⟨by decide, (limpLimitHolds_iff .new (lowBattery 8200) (by decide)).mpr
    fun _ _ _ => .inr (by decide)⟩

/-- At four thousand, a thousand above the limp limit, the engine is fuelled. -/
theorem limp_engine_fuelled :
    limp (run step (start .new) (lowBattery 4000)).ecu = (true, false) ∧
    (run step (start .new) (lowBattery 4000)).ecu.getEffectiveRpmLimit = 3000 ∧
    (run step (start .new) (lowBattery 4000)).ecu.inputs.rpm = 4000 ∧
    (run step (start .new) (lowBattery 4000)).fresh = true ∧
    CutsAll (run step (start .new) (lowBattery 4000)).ecu.config.revLimiterConfig ∧
    (run step (start .new) (lowBattery 4000)).ecu.shouldInjectWithAllSafety 0 = true := by
  decide

end Pipoco.LimpLimit
