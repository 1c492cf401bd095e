import Pipoco.Domain

/-!
The missing-tooth trigger decoder.

Teeth of a wheel arrive as timestamps on a wrapping 32-bit tick counter. A spacing that is long
against the one before it is the gap; the decoder locks at a gap and then counts teeth from one
gap to the next. Every operation returns the decoder together with its result, and a refused
edge leaves a decoder behind too.
-/

namespace Pipoco.TrigDecoder

open Domain

/-! ### Configuration -/

inductive TriggerSpeed
  | crank | cam
  deriving DecidableEq, Repr

inductive TriggerEdge
  | rising | falling
  deriving DecidableEq, Repr

inductive TriggerLevel
  | low | high
  deriving DecidableEq, Repr

inductive PollLevelPolarity
  | activeHigh | activeLow
  deriving DecidableEq, Repr

def TriggerLevel.matchesPolarity : TriggerLevel → PollLevelPolarity → Bool
  | .high, .activeHigh => true
  | .low, .activeLow => true
  | _, _ => false

inductive RuntimeSecondaryTriggerMode
  | none | singleToothCam | pollLevel
  deriving DecidableEq, Repr

structure RuntimeSecondaryTriggerProfile where
  mode : RuntimeSecondaryTriggerMode
  edge : TriggerEdge
  pollLevel : PollLevelPolarity
  deriving DecidableEq, Repr

/-- Where the angle of the first tooth after the gap comes from. -/
inductive TriggerAngleAuthority
  | unknown
  | expertManual (angle : Degrees10)
  | communityProfile (angle : Degrees10)
  | certifiedProfile (angle : Degrees10)
  | benchLearned (angle : Degrees10)
  deriving DecidableEq

def engineCycleDegrees10 : Int16 := 7200

def normalizeEngineCycleDeg10 (angle : Degrees10) : Degrees10 :=
  let normalized := angle % engineCycleDegrees10
  if normalized < 0 then normalized + engineCycleDegrees10 else normalized

namespace TriggerAngleAuthority

def absoluteAuthority : TriggerAngleAuthority → AbsoluteTimeAuthority
  | .unknown => .none
  | .expertManual _ => .expertManual
  | .communityProfile _ => .communityProfile
  | .certifiedProfile _ => .certifiedProfile
  | .benchLearned _ => .benchLearned

def angleDeg10 : TriggerAngleAuthority → Option Degrees10
  | .unknown => none
  | .expertManual angle | .communityProfile angle | .certifiedProfile angle
  | .benchLearned angle => some angle

def normalizedAngleDeg10 (a : TriggerAngleAuthority) : Option Degrees10 :=
  a.angleDeg10.map normalizeEngineCycleDeg10

end TriggerAngleAuthority

structure MissingToothDecoderConfig where
  (nominalTeeth missingTeeth : UInt8)
  primarySpeed : TriggerSpeed
  primaryEdge : TriggerEdge
  secondary : RuntimeSecondaryTriggerProfile
  triggerAngleAtdcDeg10 : TriggerAngleAuthority
  toothAngleMultiplier : UInt8
  minimumEdgeInterval : Ticks
  gapRatioThresholdX1000 : UInt16
  deriving DecidableEq

def defaultMissingToothGapRatioX1000 : UInt16 := 1500

namespace MissingToothDecoderConfig

def new (nominalTeeth missingTeeth : UInt8) (angle : TriggerAngleAuthority) :
    MissingToothDecoderConfig where
  nominalTeeth := nominalTeeth
  missingTeeth := missingTeeth
  primarySpeed := .crank
  primaryEdge := .rising
  secondary := ⟨.none, .rising, .activeHigh⟩
  triggerAngleAtdcDeg10 := angle
  toothAngleMultiplier := 1
  minimumEdgeInterval := 0
  gapRatioThresholdX1000 := defaultMissingToothGapRatioX1000

def normalizedGapThresholdX1000 (c : MissingToothDecoderConfig) : UInt16 :=
  if c.gapRatioThresholdX1000 = 0 then defaultMissingToothGapRatioX1000
  else c.gapRatioThresholdX1000

end MissingToothDecoderConfig

/-- A 4-1 wheel, with the defaults of a board: no edge filter, no secondary input. -/
def fourMinusOne : MissingToothDecoderConfig := .new 4 1 .unknown

inductive TriggerValidationError
  | nominalTeethZero | missingTeethZero | missingTeethNotLessThanNominal
  | notEnoughObservedTeeth | toothAngleMultiplierZero
  deriving DecidableEq, Repr

def validateMissingTooth (nominalTeeth missingTeeth : UInt8) : Except TriggerValidationError Unit :=
  if nominalTeeth = 0 then .error .nominalTeethZero
  else if missingTeeth = 0 then .error .missingTeethZero
  else if missingTeeth ≥ nominalTeeth then .error .missingTeethNotLessThanNominal
  else if nominalTeeth - missingTeeth < 2 then .error .notEnoughObservedTeeth
  else .ok ()

/-! ### Diagnostics -/

inductive SyncLossReason
  | missingPrimaryEdge | unexpectedPrimaryEdge | invalidGapRatio | wrongToothCount
  | secondaryTimeout | phaseMismatch | configurationInvalid
  deriving DecidableEq, Repr

structure DecoderObservation where
  currentTooth : UInt8
  detectedGapRatioX1000 : UInt16
  primaryRpm : Rpm
  camSeen : Bool
  crankAngleDeg10 : Option Degrees10
  lastPrimaryInterval : Ticks
  deriving DecidableEq

structure TriggerDiagnostics where
  observation : DecoderObservation
  authority : EngineTimeAuthority
  lastSyncLoss : Option SyncLossReason
  deriving DecidableEq

def TriggerDiagnostics.empty : TriggerDiagnostics :=
  ⟨⟨0, 0, 0, false, none, 0⟩, EngineTimeAuthority.none, none⟩

/-! ### Arithmetic -/

variable (interval : Ticks)

def elapsedTicks (timestamp previous : Ticks) : Ticks := timestamp - previous

lemma elapsedTicks_eq_zero {timestamp previous : Ticks} :
    elapsedTicks timestamp previous = 0 ↔ timestamp = previous :=
  UInt32.sub_eq_iff_eq_add.trans (by rw [UInt32.zero_add])

def saturatingU16 (value : ℕ) : UInt16 := if value > 65535 then 65535 else UInt16.ofNat value

/-- The products of the source fit 64 bits, so they are exact. -/
def missingToothGapDetected (previousInterval : Ticks) (thresholdX1000 : UInt16) :
    Except SyncLossReason (Bool × UInt16) :=
  if interval = 0 ∨ previousInterval = 0 then .error .invalidGapRatio
  else
    let scaledInterval := interval.toNat * 1000
    let scaledThreshold := previousInterval.toNat * thresholdX1000.toNat
    .ok (scaledInterval ≥ scaledThreshold, saturatingU16 (scaledInterval / previousInterval.toNat))

/-- A measured spacing is a gap or a tooth; the comparison does not fail. -/
lemma missingToothGapDetected_ok {interval previous : Ticks} (hi : interval ≠ 0)
    (hp : previous ≠ 0) (threshold : UInt16) :
    missingToothGapDetected interval previous threshold =
      .ok (interval.toNat * 1000 ≥ previous.toNat * threshold.toNat,
        saturatingU16 (interval.toNat * 1000 / previous.toNat)) := by
  simp [missingToothGapDetected, hi, hp]

def rpmFromToothInterval (nominalTeeth : UInt8) (speed : TriggerSpeed) : Rpm :=
  if interval = 0 ∨ nominalTeeth = 0 then 0
  else
    let perPrimaryRev := match speed with
      | .crank => 1
      | .cam => 2
    saturatingU16 (60000000 * perPrimaryRev / (interval.toNat * nominalTeeth.toNat))

def normalizeEngineCycleDeg10I32 (angle : Int32) : Degrees10 :=
  let normalized := angle % 7200
  (if normalized < 0 then normalized + 7200 else normalized).toInt16

/-! ### The decoder -/

inductive MissingToothDecoderEvent
  | firstEdge
  | ignoredByFilter
  | searching
  | tooth (currentTooth : UInt8)
  | gap (currentTooth : UInt8)
  deriving DecidableEq, Repr

structure MissingToothDecoder where
  config : MissingToothDecoderConfig
  observedTeeth : UInt8
  lastEdgeTimestamp : Option Ticks
  (previousInterval lastNormalInterval : Ticks)
  (currentTooth teethSinceGap : UInt8)
  (primaryLocked phaseValidated secondarySeenSinceGap camSeen : Bool)
  diagnostics : TriggerDiagnostics
  deriving DecidableEq

namespace MissingToothDecoder

variable (d : MissingToothDecoder) (reason : SyncLossReason) (timestamp interval : Ticks)
  (config : MissingToothDecoderConfig) (ratioX1000 : UInt16) (edge : TriggerEdge)

def initial (observedTeeth : UInt8) : MissingToothDecoder where
  config := config
  observedTeeth := observedTeeth
  lastEdgeTimestamp := none
  previousInterval := 0
  lastNormalInterval := 0
  currentTooth := 0
  teethSinceGap := 0
  primaryLocked := false
  phaseValidated := false
  secondarySeenSinceGap := false
  camSeen := false
  diagnostics := .empty

def tryNew : Except TriggerValidationError MissingToothDecoder :=
  match validateMissingTooth config.nominalTeeth config.missingTeeth with
  | .error e => .error e
  | .ok _ =>
    if config.toothAngleMultiplier = 0 then .error .toothAngleMultiplierZero
    else .ok (initial config (config.nominalTeeth - config.missingTeeth))

def reset : MissingToothDecoder := initial d.config d.observedTeeth

def currentRpm : Rpm :=
  rpmFromToothInterval d.lastNormalInterval d.config.nominalTeeth d.config.primarySpeed

def toothAngleDeg10 : ℕ := 3600 * d.config.toothAngleMultiplier.toNat / d.config.nominalTeeth.toNat

/-- The angle is summed in 32-bit integers that wrap. -/
def crankAngleAt : Option Degrees10 :=
  if !d.primaryLocked || d.currentTooth = 0 then none
  else
    d.config.triggerAngleAtdcDeg10.normalizedAngleDeg10.map fun triggerAngle =>
      let toothOffset := (d.currentTooth.toNat - 1) * d.toothAngleDeg10
      let elapsedAngle := match d.lastEdgeTimestamp with
        | some lastTimestamp =>
          if d.lastNormalInterval.toNat > 0 then
            (elapsedTicks timestamp lastTimestamp).toNat * d.toothAngleDeg10 /
              d.lastNormalInterval.toNat
          else 0
        | none => 0
      normalizeEngineCycleDeg10I32
        (triggerAngle.toInt32 + Int32.ofNat toothOffset + Int32.ofNat elapsedAngle)

def updateObservation : MissingToothDecoder :=
  { d with diagnostics := { d.diagnostics with observation := {
      currentTooth := d.currentTooth
      detectedGapRatioX1000 := ratioX1000
      primaryRpm := d.currentRpm
      camSeen := d.camSeen
      crankAngleDeg10 := d.crankAngleAt timestamp
      lastPrimaryInterval := interval } } }

def setSearchingAuthority : MissingToothDecoder :=
  { d with diagnostics := { d.diagnostics with authority := {
      crank := .primarySearching
      phase := .unknown
      absolute := .none
      confidenceX1000 := 0
      syncLossCount := d.diagnostics.authority.syncLossCount } } }

def setLockedAuthority : MissingToothDecoder :=
  { d with diagnostics := { d.diagnostics with authority := {
      crank := .primaryLocked
      phase := if d.phaseValidated then .camValidated720 else .crankOnly360
      absolute :=
        if d.phaseValidated then d.config.triggerAngleAtdcDeg10.absoluteAuthority else .none
      confidenceX1000 := if d.phaseValidated then 1000 else 500
      syncLossCount := d.diagnostics.authority.syncLossCount } } }

def dropSync : MissingToothDecoder :=
  { d with
    primaryLocked := false
    phaseValidated := false
    secondarySeenSinceGap := false
    camSeen := false
    currentTooth := 0
    teethSinceGap := 0
    lastEdgeTimestamp := some timestamp
    previousInterval := 0
    lastNormalInterval := 0
    diagnostics := {
      observation := ⟨0, ratioX1000, 0, false, none, interval⟩
      authority := ⟨.syncLost, .unknown, .none, 0, satAdd16 d.diagnostics.authority.syncLossCount 1⟩
      lastSyncLoss := some reason } }

/-- The decoder after a fault of the secondary input; the call's result is always the reason. -/
def recordSecondaryFault : MissingToothDecoder :=
  let faulted := { d with
    phaseValidated := false
    secondarySeenSinceGap := false
    diagnostics := { d.diagnostics with lastSyncLoss := some reason } }
  if faulted.primaryLocked then faulted.setLockedAuthority else faulted.setSearchingAuthority

def validateSecondaryBeforeNextGap : MissingToothDecoder :=
  if d.primaryLocked && d.config.secondary.mode ≠ .none && !d.secondarySeenSinceGap then
    d.recordSecondaryFault .secondaryTimeout
  else d

def acceptGap : MissingToothDecoder × Except SyncLossReason MissingToothDecoderEvent :=
  if d.primaryLocked && d.teethSinceGap ≠ d.observedTeeth then
    (d.dropSync .wrongToothCount timestamp interval ratioX1000, .error .wrongToothCount)
  else
    let checked := d.validateSecondaryBeforeNextGap
    let locked := { checked with
      primaryLocked := true
      currentTooth := 1
      teethSinceGap := 1
      secondarySeenSinceGap := false
      lastEdgeTimestamp := some timestamp
      previousInterval := checked.lastNormalInterval }
    ((locked.updateObservation timestamp interval ratioX1000).setLockedAuthority, .ok (.gap 1))

def acceptTooth : MissingToothDecoder × Except SyncLossReason MissingToothDecoderEvent :=
  if d.primaryLocked && d.currentTooth ≥ d.observedTeeth then
    (d.dropSync .wrongToothCount timestamp interval ratioX1000, .error .wrongToothCount)
  else
    let counted := { d with
      currentTooth := if d.primaryLocked then satAdd8 d.currentTooth 1 else d.currentTooth
      teethSinceGap := satAdd8 d.teethSinceGap 1
      lastEdgeTimestamp := some timestamp
      previousInterval := interval
      lastNormalInterval := interval }
    let observed := counted.updateObservation timestamp interval ratioX1000
    if observed.primaryLocked then (observed.setLockedAuthority, .ok (.tooth observed.currentTooth))
    else (observed.setSearchingAuthority, .ok .searching)

/-- An edge that cannot be compared with the spacing before it: there is none, or one of the two
is zero. Whether the decoder is locked is not looked at. -/
def acceptUnmeasured : MissingToothDecoder :=
  let counted := { d with
    lastEdgeTimestamp := some timestamp
    previousInterval := interval
    lastNormalInterval := interval
    teethSinceGap := satAdd8 d.teethSinceGap 1 }
  (counted.updateObservation timestamp interval 0).setSearchingAuthority

def ingestPrimaryEdgeWithKind :
    MissingToothDecoder × Except SyncLossReason MissingToothDecoderEvent :=
  if edge ≠ d.config.primaryEdge then
    let noted := { d with
      diagnostics := { d.diagnostics with lastSyncLoss := some .unexpectedPrimaryEdge } }
    (if noted.primaryLocked then noted else noted.setSearchingAuthority,
      .error .unexpectedPrimaryEdge)
  else
    match d.lastEdgeTimestamp with
    | none =>
      (({ d with lastEdgeTimestamp := some timestamp } : MissingToothDecoder).setSearchingAuthority,
        .ok .firstEdge)
    | some lastTimestamp =>
      let interval := elapsedTicks timestamp lastTimestamp
      if interval < d.config.minimumEdgeInterval then
        ({ d with diagnostics := { d.diagnostics with observation := {
            d.diagnostics.observation with crankAngleDeg10 := d.crankAngleAt timestamp } } },
          .ok .ignoredByFilter)
      else if d.previousInterval = 0 ∨ interval = 0 then
        (d.acceptUnmeasured timestamp interval, .ok .searching)
      else
        match missingToothGapDetected interval d.previousInterval
            d.config.normalizedGapThresholdX1000 with
        | .error e => (d, .error e)
        | .ok (isGap, ratio) =>
          if isGap then d.acceptGap timestamp interval ratio
          else d.acceptTooth timestamp interval ratio

def ingestPrimaryEdge : MissingToothDecoder × Except SyncLossReason MissingToothDecoderEvent :=
  d.ingestPrimaryEdgeWithKind timestamp d.config.primaryEdge

def ingestSecondaryEdge : MissingToothDecoder × Except SyncLossReason Unit :=
  match d.config.secondary.mode with
  | .singleToothCam =>
    if edge ≠ d.config.secondary.edge then
      (d.recordSecondaryFault .phaseMismatch, .error .phaseMismatch)
    else
      let seen := { d with
        camSeen := true
        diagnostics := { d.diagnostics with observation := {
          d.diagnostics.observation with camSeen := true } } }
      if seen.primaryLocked then
        if seen.currentTooth ≠ 1 then
          (seen.recordSecondaryFault .phaseMismatch, .error .phaseMismatch)
        else
          (({ seen with secondarySeenSinceGap := true, phaseValidated := true } :
            MissingToothDecoder).setLockedAuthority, .ok ())
      else (seen, .ok ())
  | .none | .pollLevel =>
    (d.recordSecondaryFault .configurationInvalid, .error .configurationInvalid)

def ingestSecondaryLevel (level : TriggerLevel) :
    MissingToothDecoder × Except SyncLossReason Unit :=
  match d.config.secondary.mode with
  | .pollLevel =>
    if !d.primaryLocked || d.currentTooth ≠ 1 then
      (d.recordSecondaryFault .phaseMismatch, .error .phaseMismatch)
    else if !level.matchesPolarity d.config.secondary.pollLevel then
      (d.recordSecondaryFault .phaseMismatch, .error .phaseMismatch)
    else
      (({ d with
          camSeen := true
          secondarySeenSinceGap := true
          phaseValidated := true
          diagnostics := { d.diagnostics with observation := {
            d.diagnostics.observation with camSeen := true } } } :
          MissingToothDecoder).setLockedAuthority, .ok ())
  | .none | .singleToothCam =>
    (d.recordSecondaryFault .configurationInvalid, .error .configurationInvalid)

variable {config}

variable {d} in
lemma tryNew_ok (h : tryNew config = .ok d) :
    config.missingTeeth ≠ 0 ∧ config.missingTeeth < config.nominalTeeth ∧
      2 ≤ config.nominalTeeth - config.missingTeeth ∧ config.toothAngleMultiplier ≠ 0 ∧
      d = initial config (config.nominalTeeth - config.missingTeeth) := by
  unfold tryNew validateMissingTooth at h
  split_ifs at h with h₁ h₂ h₃ h₄ h₅
  exact ⟨h₂, UInt8.not_le.mp h₃, UInt8.not_lt.mp h₄, h₅, (Except.ok.inj h).symm⟩

end MissingToothDecoder

end Pipoco.TrigDecoder
