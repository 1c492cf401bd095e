import Pipoco.Control

/-!
The torque model of the compatibility layer.

Requests come from several sources, each with a slot of its own. The arbiter turns them into one
torque, and the converter turns that into ignition timing and fuel. Torques are in tenths of a
newton metre.

Intermediate values are computed in 32 bits and narrowed at the end; a clamp between crossed limits
stops the firmware.
-/

namespace Pipoco.Torque

open Control (clampInt)

/-! ### Requests -/

inductive TorqueSource
  | driver | idle | revLimiter | traction | limp | external | antiStall | knock
  deriving DecidableEq, Repr

/-- The sources in the order of their slots. -/
def TorqueSource.all : List TorqueSource :=
  [.driver, .idle, .revLimiter, .traction, .limp, .external, .antiStall, .knock]

structure TorqueRequest where
  source : TorqueSource
  torqueNmX10 : Int16
  priority : UInt8
  timestampUs : UInt32
  active : Bool
  deriving DecidableEq

variable (source : TorqueSource)

def TorqueRequest.new : TorqueRequest := ⟨source, 0, 0, 0, false⟩

def activeRequest (torqueNmX10 : Int16) (priority : UInt8) (timestampUs : UInt32) : TorqueRequest :=
  ⟨source, torqueNmX10, priority, timestampUs, true⟩

namespace Priority

def driver : UInt8 := 50
def idle : UInt8 := 40
def traction : UInt8 := 100
def revLimiter : UInt8 := 200
def knock : UInt8 := 180
def limp : UInt8 := 250
def antiStall : UInt8 := 30

end Priority

def driverTorqueRequest (pedalPercent : UInt8) (_rpm : UInt16) (maxTorqueX10 : Int16)
    (nowUs : UInt32) : TorqueRequest :=
  let requested := (maxTorqueX10.toInt * pedalPercent.toNat).tdiv 100
  activeRequest .driver (Int16.ofInt requested) Priority.driver nowUs

def idleTorqueRequest (targetRpm actualRpm : UInt16) (reserveX10 : Int16) (nowUs : UInt32) :
    Option TorqueRequest :=
  let rpmError : ℤ := targetRpm.toNat - actualRpm.toNat
  let torque := (rpmError * reserveX10.toInt).tdiv 100
  -- the reserve is negated in 16 bits
  let lo := (-reserveX10).toInt
  let hi := reserveX10.toInt
  if hi < lo then none
  else some (activeRequest .idle (Int16.ofInt (clampInt torque lo hi)) Priority.idle nowUs)

def revLimiterTorqueRequest (limitActive : Bool) (nowUs : UInt32) : TorqueRequest :=
  ⟨.revLimiter, if limitActive then 0 else Int16.maxValue, Priority.revLimiter, nowUs, limitActive⟩

def limpTorqueRequest (limpActive : Bool) (maxTorqueX10 : Int16) (nowUs : UInt32) : TorqueRequest :=
  let limpTorque :=
    if limpActive then Int16.ofInt ((maxTorqueX10.toInt * 30).tdiv 100) else Int16.maxValue
  ⟨.limp, limpTorque, Priority.limp, nowUs, limpActive⟩

def knockTorqueRequest (knockRetardX10 : UInt16) (maxTorqueX10 : Int16) (nowUs : UInt32) :
    TorqueRequest :=
  let reductionPercent : ℤ := ((knockRetardX10.toNat : ℤ) * 2).tdiv 10
  let reducedTorque := (maxTorqueX10.toInt * (100 - reductionPercent)).tdiv 100
  activeRequest .knock (Int16.ofInt reducedTorque) Priority.knock nowUs

def antiStallTorqueRequest (actualRpm stallRpm : UInt16) (assistTorqueX10 : Int16)
    (nowUs : UInt32) : TorqueRequest :=
  if stallRpm ≤ actualRpm then ⟨.antiStall, 0, Priority.antiStall, nowUs, false⟩
  else
    let rpmMargin : ℤ := stallRpm.toNat - actualRpm.toNat
    let halfStall : ℤ := stallRpm.toNat / 2
    let assistFactor := (rpmMargin * 100).tdiv (max halfStall 1)
    let assist := (assistTorqueX10.toInt * min assistFactor 100).tdiv 100
    activeRequest .antiStall (Int16.ofInt assist) Priority.antiStall nowUs

def tractionTorqueRequest (slipPercent : UInt8) (maxTorqueX10 : Int16) (nowUs : UInt32) :
    TorqueRequest :=
  if slipPercent = 0 then ⟨.traction, Int16.maxValue, Priority.traction, nowUs, false⟩
  else
    let reduction : ℤ := min slipPercent.toNat 100
    let limitedTorque := (maxTorqueX10.toInt * (100 - reduction)).tdiv 100
    activeRequest .traction (Int16.ofInt limitedTorque) Priority.traction nowUs

/-- A request made by one of the builders. -/
inductive Built : TorqueRequest → Prop
  | driver (pedalPercent : UInt8) (rpm : UInt16) (maxTorqueX10 : Int16) (nowUs : UInt32) :
      Built (driverTorqueRequest pedalPercent rpm maxTorqueX10 nowUs)
  | idle {targetRpm actualRpm : UInt16} {reserveX10 : Int16} {nowUs : UInt32} {r : TorqueRequest}
      (h : idleTorqueRequest targetRpm actualRpm reserveX10 nowUs = some r) : Built r
  | revLimiter (limitActive : Bool) (nowUs : UInt32) :
      Built (revLimiterTorqueRequest limitActive nowUs)
  | limp (limpActive : Bool) (maxTorqueX10 : Int16) (nowUs : UInt32) :
      Built (limpTorqueRequest limpActive maxTorqueX10 nowUs)
  | knock (knockRetardX10 : UInt16) (maxTorqueX10 : Int16) (nowUs : UInt32) :
      Built (knockTorqueRequest knockRetardX10 maxTorqueX10 nowUs)
  | antiStall (actualRpm stallRpm : UInt16) (assistTorqueX10 : Int16) (nowUs : UInt32) :
      Built (antiStallTorqueRequest actualRpm stallRpm assistTorqueX10 nowUs)
  | traction (slipPercent : UInt8) (maxTorqueX10 : Int16) (nowUs : UInt32) :
      Built (tractionTorqueRequest slipPercent maxTorqueX10 nowUs)

/-! ### The arbiter -/

/-- One slot for each source. -/
structure TorqueArbiter where
  requests : TorqueSource → TorqueRequest
  winningSource : Option TorqueSource
  lastResultX10 : Int16

/-- The high-priority request found so far. -/
structure Override where
  highestPriority : UInt8
  minTorque : Int16
  winning : Option TorqueSource

def Override.step (o : Override) (req : TorqueRequest) : Override :=
  if req.active ∧ Priority.revLimiter ≤ req.priority ∧ req.torqueNmX10 < Int16.maxValue ∧
      o.highestPriority < req.priority then
    ⟨req.priority, req.torqueNmX10, some req.source⟩
  else o

/-- An unlimited request asks for what is available. -/
def effectiveRequest (req : TorqueRequest) (maxAvailableX10 : Int16) : Int16 :=
  if req.torqueNmX10 = Int16.maxValue then maxAvailableX10 else min req.torqueNmX10 maxAvailableX10

/-- The least request found so far. -/
structure MinWins where
  minTorque : Int16
  winning : Option TorqueSource
  anyActive : Bool

def MinWins.step (maxAvailableX10 : Int16) (m : MinWins) (req : TorqueRequest) : MinWins :=
  if !req.active then m
  else
    let effective := effectiveRequest req maxAvailableX10
    if effective < m.minTorque then ⟨effective, some req.source, true⟩
    else if m.winning.isNone then ⟨effective, some req.source, true⟩
    else { m with anyActive := true }

namespace TorqueArbiter

variable (a : TorqueArbiter)

def new : TorqueArbiter := ⟨.new, none, 0⟩

def slots : List TorqueRequest := TorqueSource.all.map a.requests

def request (req : TorqueRequest) : TorqueArbiter :=
  { a with requests := Function.update a.requests req.source req }

def clear (source : TorqueSource) : TorqueArbiter :=
  let cleared := { a.requests source with active := false, torqueNmX10 := Int16.maxValue }
  { a with requests := Function.update a.requests source cleared }

def arbitrate (maxAvailableX10 : Int16) : Option (TorqueArbiter × Int16) :=
  let o := a.slots.foldl Override.step ⟨0, maxAvailableX10, none⟩
  if Priority.revLimiter ≤ o.highestPriority then
    let result := max (min o.minTorque maxAvailableX10) 0
    some ({ a with winningSource := o.winning, lastResultX10 := result }, result)
  else
    let m := a.slots.foldl (MinWins.step maxAvailableX10) ⟨maxAvailableX10, o.winning, false⟩
    let m := if !m.anyActive then { m with winning := none, minTorque := maxAvailableX10 } else m
    if maxAvailableX10 < 0 then none
    else
      let result := max 0 (min m.minTorque maxAvailableX10)
      some ({ a with winningSource := m.winning, lastResultX10 := result }, result)

end TorqueArbiter

/-! ### Actuators -/

structure ActuatorTargets where
  fuelMultX100 : UInt8
  timingOffsetX10 : Int16
  throttleTarget : UInt8
  (fuelCut timingReduced : Bool)
  deriving DecidableEq

def ActuatorTargets.none : ActuatorTargets := ⟨100, 0, 100, false, false⟩

structure ActuatorConfig where
  preferTiming : Bool
  maxTimingRetardX10 : Int16
  minFuelMultX100 : UInt8
  enableThrottle : Bool
  deriving DecidableEq

def ActuatorConfig.default : ActuatorConfig := ⟨true, 150, 70, false⟩

/-- The reduction a target asks for, in percent. -/
def reductionPercent (targetX10 maxX10 : Int16) : ℤ :=
  if maxX10 ≤ targetX10 then 0
  else if targetX10 ≤ 0 then 100
  else ((maxX10.toInt - targetX10.toInt) * 100).tdiv maxX10.toInt

structure TorqueConverter where
  config : ActuatorConfig
  deriving DecidableEq

namespace TorqueConverter

variable (c : TorqueConverter) (reduction : ℤ)

def new : TorqueConverter := ⟨.default⟩

/-- Timing first, then fuel. -/
def timingFirst : Option ActuatorTargets :=
  let retard := c.config.maxTimingRetardX10
  let timingCapacity := (retard.toInt * 2).tdiv 10
  if reduction ≤ timingCapacity then
    some { ActuatorTargets.none with
      timingOffsetX10 := -(min (Int16.ofInt (reduction * 5)) retard), timingReduced := true }
  else
    let remaining := reduction - timingCapacity
    let lo : ℤ := c.config.minFuelMultX100.toNat
    if 100 < lo then none
    else
      let fuelMult := UInt8.ofInt (clampInt (100 - remaining) lo 100)
      let targets := { ActuatorTargets.none with
        timingOffsetX10 := -retard, timingReduced := true, fuelMultX100 := fuelMult }
      some (if fuelMult ≤ c.config.minFuelMultX100 ∧ 30 < remaining then
        { targets with fuelMultX100 := 0, fuelCut := true } else targets)

def fuelOnly : ActuatorTargets :=
  let fuelMult := UInt8.ofInt (clampInt (100 - reduction) 0 100)
  { ActuatorTargets.none with fuelMultX100 := fuelMult, fuelCut := fuelMult = 0 }

def convert (targetX10 maxX10 : Int16) (_rpm : UInt16) : Option ActuatorTargets :=
  if maxX10 ≤ 0 then some ⟨0, 0, 0, true, false⟩
  else
    let reduction := reductionPercent targetX10 maxX10
    if reduction = 0 then some ActuatorTargets.none
    else if 100 ≤ reduction then some ⟨0, 0, 0, true, false⟩
    else if c.config.preferTiming then c.timingFirst reduction
    else some (fuelOnly reduction)

def applyToFuel (basePwUs : UInt16) (targets : ActuatorTargets) : UInt16 :=
  if targets.fuelCut ∨ targets.fuelMultX100 = 0 then 0
  else UInt16.ofNat (min (basePwUs.toNat * targets.fuelMultX100.toNat / 100) (2 ^ 16 - 1))

end TorqueConverter

end Pipoco.Torque
