import Pipoco.SchedState

/-!
Output profiles, and the planners that turn a spark or fuel intent at a crank position into a
timed window of an output.

A full-ECU profile carries its firing order and its auxiliary outputs in arrays of fixed length.
The number of events of every profile is bounded by the number of cylinders it can have; that bound
and the bound on channels are what the arming of the runtime rests on.
-/

namespace Pipoco.OutProfiles

open Domain SchedState

/-! ### Profiles -/

variable (n : ℕ)

def crankRevDegrees10 : ℕ := 3600

def engineCycleDegrees10 : ℕ := crankRevDegrees10 * 2

/-- A count from the configuration, forced into the range a profile can have. -/
def clampCount : ℕ := max 1 (min n fullEcuMaxCylinders)

inductive SparkOutputMode
  | singleCoil | wastedSpark
  deriving DecidableEq, Repr

structure SparkOutputProfile where
  cylinderCount : UInt8
  mode : SparkOutputMode
  deriving DecidableEq, Repr

namespace SparkOutputProfile

variable (p : SparkOutputProfile) (eventIndex : ℕ)

def eventsPerCrankRev : ℕ := clampCount (p.cylinderCount.toNat / 2)

def ignitionChannel : ChannelId :=
  match p.mode with
  | .singleCoil => 0
  | .wastedSpark => UInt8.ofNat (eventIndex % p.eventsPerCrankRev)

def eventTdcAngleDeg10 : ℕ :=
  eventIndex % p.eventsPerCrankRev * crankRevDegrees10 / p.eventsPerCrankRev

end SparkOutputProfile

inductive FuelOutputMode
  | singlePoint | batch
  deriving DecidableEq, Repr

structure FuelOutputProfile where
  channelCount : UInt8
  mode : FuelOutputMode
  deriving DecidableEq, Repr

namespace FuelOutputProfile

variable (p : FuelOutputProfile)

def eventsPerPulse : ℕ :=
  match p.mode with
  | .singlePoint => 1
  | .batch => clampCount p.channelCount.toNat

def injectorChannel (eventIndex : ℕ) : ChannelId :=
  match p.mode with
  | .singlePoint => 0
  | .batch => UInt8.ofNat (eventIndex % p.eventsPerPulse)

end FuelOutputProfile

inductive IgnitionOutputProfile
  | wastedSpark (cylinders coils : UInt8)
  | coilOnPlug (cylinders coils : UInt8) (phaseRequired : Bool)
  deriving DecidableEq, Repr

namespace IgnitionOutputProfile

variable (p : IgnitionOutputProfile)

def isValid : IgnitionOutputProfile → Bool
  | .wastedSpark cylinders coils =>
    cylinders > 0 && cylinders.toNat ≤ fullEcuMaxCylinders && coils > 0 &&
      coils.toNat ≤ fullEcuMaxCylinders && coils ≤ cylinders && cylinders % coils = 0
  | .coilOnPlug cylinders coils _ =>
    cylinders > 0 && cylinders.toNat ≤ fullEcuMaxCylinders && coils = cylinders

def cylinders : IgnitionOutputProfile → UInt8
  | .wastedSpark cylinders _ | .coilOnPlug cylinders _ _ => cylinders

def coils : IgnitionOutputProfile → UInt8
  | .wastedSpark _ coils | .coilOnPlug _ coils _ => coils

def eventCount : ℕ := if p.isValid then p.cylinders.toNat else 0

def phaseRequired : IgnitionOutputProfile → Bool
  | .wastedSpark _ _ => false
  | .coilOnPlug _ _ phaseRequired => phaseRequired

def ignitionChannel (slot : ℕ) : ChannelId := UInt8.ofNat (slot % clampCount p.coils.toNat)

end IgnitionOutputProfile

/-- The source has one kind of injection profile, the sequential one. -/
structure InjectionOutputProfile where
  (cylinders channels : UInt8)
  firingOrder : Vector UInt8 fullEcuMaxCylinders
  phaseRequired : Bool
  deriving DecidableEq

namespace InjectionOutputProfile

variable (p : InjectionOutputProfile)

def isValid : Bool :=
  !(p.cylinders = 0 || p.cylinders.toNat > fullEcuMaxCylinders || p.channels = 0 ||
      p.channels.toNat > fullEcuMaxCylinders) &&
    (p.firingOrder.toList.take p.cylinders.toNat).all (· ≠ 0)

def eventCount : ℕ := if p.isValid then p.cylinders.toNat else 0

def injectorChannel (slot : ℕ) : ChannelId := UInt8.ofNat (slot % clampCount p.channels.toNat)

end InjectionOutputProfile

def fullEcuMaxLimpAuxOutputs : ℕ := 4

structure AuxSafetyProfile where
  offOnLimp : Vector (Option AuxOutput) fullEcuMaxLimpAuxOutputs
  deriving DecidableEq

inductive OutputAuthorityRequirement
  | crankSynchronized | fullSequential720
  deriving DecidableEq, Repr

structure FullEcuOutputProfile where
  ignition : IgnitionOutputProfile
  injection : InjectionOutputProfile
  auxSafety : AuxSafetyProfile
  authority : OutputAuthorityRequirement
  deriving DecidableEq

namespace FullEcuOutputProfile

variable (p : FullEcuOutputProfile)

def isValid : Bool :=
  p.injection.isValid && p.ignition.isValid && p.injection.eventCount > 0 &&
    p.injection.eventCount = p.ignition.eventCount

def eventCount : ℕ := if p.isValid then p.injection.eventCount else 0

end FullEcuOutputProfile

inductive RuntimeOutputProfile
  | legacySingleChannel
  | ignitionOnly (profile : SparkOutputProfile)
  | injectionOnly (profile : FuelOutputProfile)
  | fullEcu (profile : FullEcuOutputProfile)
  deriving DecidableEq

def outputProfileRequiresFullSequentialAuthority : RuntimeOutputProfile → Bool
  | .fullEcu profile =>
    profile.authority = .fullSequential720 || profile.ignition.phaseRequired ||
      profile.injection.phaseRequired
  | _ => false

/-! ### Planning -/

variable (p : SparkOutputProfile)

structure SparkPlan where
  dwell : DwellUs
  advance : Degrees10
  deriving DecidableEq

structure FuelPlan where
  pulseWidth : PulseWidthUs
  deriving DecidableEq

structure CrankSnapshot where
  nowUs : Micros
  rpm : Rpm
  angleDeg10 : Degrees10
  authority : EngineTimeAuthority
  deriving DecidableEq

def normDeg10 (value : ℤ) (modulo : ℕ) : ℕ := (value % modulo).toNat

def forwardAngleDeltaDeg10 (current target modulo : ℕ) : ℕ :=
  if target > current then target - current else modulo - current + target

def microsForAngleDelta (deltaDeg10 : ℕ) (rpm : Rpm) : UInt32 :=
  if rpm = 0 then 0
  else
    UInt32.ofNat (max 1 (min (60000000 * deltaDeg10 / (crankRevDegrees10 * rpm.toNat))
      (2 ^ 32 - 1)))

/-- The product is a `u32` and wraps for very large event counts; the result is cut to a `u16`. -/
def fullCycleSlotAngleDeg10 (eventIndex eventCount : ℕ) : ℕ :=
  let events := UInt32.ofNat (max eventCount 1)
  let slot := UInt32.ofNat (eventIndex % max eventCount 1)
  (slot * UInt32.ofNat engineCycleDegrees10 / events).toNat % 2 ^ 16

variable (crank : CrankSnapshot)

/-- Both ignition planners: the spark is `advance` before the dead centre `tdc` of a cycle of
`modulo`, and the coil is charged for the dwell before it, or from the next microsecond on. -/
def planSpark (tdc modulo : ℕ) (channel : ChannelId) (spark : SparkPlan) : TimedIgnitionPlan :=
  let target := normDeg10 (tdc - spark.advance.toInt) modulo
  let current := normDeg10 crank.angleDeg10.toInt modulo
  let sparkDelayUs := microsForAngleDelta (forwardAngleDeltaDeg10 current target modulo) crank.rpm
  let sparkAt := satAdd32 crank.nowUs sparkDelayUs
  let dwellUs := spark.dwell.toUInt32
  let dwellStart :=
    if sparkDelayUs > dwellUs then satAdd32 crank.nowUs (sparkDelayUs - dwellUs)
    else satAdd32 crank.nowUs 1
  let fireAt := if sparkAt > dwellStart then sparkAt else satAdd32 dwellStart 1
  ⟨⟨⟨.ignition, channel⟩, spark.dwell, spark.advance⟩, dwellStart, fireAt⟩

/-- Both injection planners: the pulse starts at the next passage of the angle `target`. -/
def planPulse (target modulo : ℕ) (channel : ChannelId) (fuel : FuelPlan) : TimedInjectionPlan :=
  let current := normDeg10 crank.angleDeg10.toInt modulo
  let delta := forwardAngleDeltaDeg10 current target modulo
  let startAt := satAdd32 crank.nowUs (microsForAngleDelta (max delta 1) crank.rpm)
  let endAt := max (satAdd32 startAt fuel.pulseWidth.toUInt32) (satAdd32 startAt 1)
  ⟨⟨⟨.injector, channel⟩, fuel.pulseWidth⟩, startAt, endAt⟩

def ignitionSchedulerPlanEvent (eventIndex : ℕ) (spark : SparkPlan) : TimedIgnitionPlan :=
  planSpark crank (p.eventTdcAngleDeg10 eventIndex) crankRevDegrees10
    (p.ignitionChannel eventIndex) spark

def injectionSchedulerPlanEvent (p : FuelOutputProfile) (crank : CrankSnapshot) (eventIndex : ℕ)
    (fuel : FuelPlan) : TimedInjectionPlan :=
  let eventCount := max p.eventsPerPulse 1
  let revSlotDeg10 := max (crankRevDegrees10 / eventCount) 1
  planPulse crank (eventIndex % eventCount * revSlotDeg10) crankRevDegrees10
    (p.injectorChannel eventIndex) fuel

def fullEcuIgnitionSchedulerPlanEvent (p : IgnitionOutputProfile) (eventCount : ℕ)
    (crank : CrankSnapshot) (eventIndex : ℕ) (spark : SparkPlan) : TimedIgnitionPlan :=
  planSpark crank (fullCycleSlotAngleDeg10 eventIndex eventCount) engineCycleDegrees10
    (p.ignitionChannel eventIndex) spark

def fullEcuInjectionSchedulerPlanEvent (p : InjectionOutputProfile) (crank : CrankSnapshot)
    (eventIndex : ℕ) (fuel : FuelPlan) : TimedInjectionPlan :=
  planPulse crank (fullCycleSlotAngleDeg10 eventIndex p.eventCount) engineCycleDegrees10
    (p.injectorChannel eventIndex) fuel

/-! ### Bounds -/

lemma clampCount_le : clampCount n ≤ fullEcuMaxCylinders := by
  unfold clampCount fullEcuMaxCylinders
  omega

lemma clampCount_pos : 0 < clampCount n := by
  unfold clampCount
  omega

lemma FuelOutputProfile.eventsPerPulse_le (p : FuelOutputProfile) :
    p.eventsPerPulse ≤ fullEcuMaxCylinders := by
  unfold eventsPerPulse
  split
  · decide
  · exact clampCount_le _

lemma FuelOutputProfile.eventsPerPulse_pos (p : FuelOutputProfile) : 0 < p.eventsPerPulse := by
  unfold eventsPerPulse
  split
  · exact Nat.one_pos
  · exact clampCount_pos _

lemma InjectionOutputProfile.eventCount_le (p : InjectionOutputProfile) :
    p.eventCount ≤ fullEcuMaxCylinders := by
  unfold eventCount
  split_ifs with h
  · simp only [isValid, Bool.and_eq_true, Bool.not_eq_true', Bool.or_eq_false_iff,
      decide_eq_false_iff_not] at h
    omega
  · exact Nat.zero_le _

lemma FullEcuOutputProfile.eventCount_le (p : FullEcuOutputProfile) :
    p.eventCount ≤ fullEcuMaxCylinders := by
  unfold eventCount
  split_ifs
  · exact p.injection.eventCount_le
  · exact Nat.zero_le _

end Pipoco.OutProfiles
