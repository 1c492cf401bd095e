import Pipoco.TrigAngle

/-!
The profile layer over the missing-tooth decoder.

The layer wraps a decoder and adds three things of its own: a count of the revolutions since the
lock, which holds back the phase and the absolute time at start-up; a latency that angle queries
are compensated for; and an angle formula that does not use the decoder's.
-/

namespace Pipoco.TrigDecoder

open Domain Runs TrigCoherence

/-! ### Profiles -/

structure StartupSyncPolicy where
  skipRevolutions : UInt8
  requireFullCycle : Bool
  deriving DecidableEq, Repr

def StartupSyncPolicy.authorityReady (s : StartupSyncPolicy) (completedRevolutions : UInt8) :
    Bool :=
  completedRevolutions ≥ s.skipRevolutions && (!s.requireFullCycle || completedRevolutions > 0)

structure EngineTimeLatency where
  (primaryEdgeDelayUs secondaryEdgeDelayUs outputScheduleDelayUs : Micros)
  deriving DecidableEq, Repr

def EngineTimeLatency.totalUs (l : EngineTimeLatency) : UInt32 :=
  satAdd32 (satAdd32 l.primaryEdgeDelayUs l.secondaryEdgeDelayUs) l.outputScheduleDelayUs

structure RuntimeMissingToothProfile where
  (nominalTeeth missingTeeth : UInt8)
  primarySpeed : TriggerSpeed
  primaryEdge : TriggerEdge
  secondary : RuntimeSecondaryTriggerProfile
  triggerAngleAtdcDeg10 : TriggerAngleAuthority
  toothAngleMultiplier : UInt8
  startup : StartupSyncPolicy
  latency : EngineTimeLatency
  deriving DecidableEq

namespace RuntimeMissingToothProfile

variable (p : RuntimeMissingToothProfile)

def validate : Except TriggerValidationError Unit :=
  match validateMissingTooth p.nominalTeeth p.missingTeeth with
  | .error e => .error e
  | .ok _ => if p.toothAngleMultiplier = 0 then .error .toothAngleMultiplierZero else .ok ()

def observedPrimaryTeeth : UInt8 := p.nominalTeeth - p.missingTeeth

def startupAuthorityReady (completedRevolutions : UInt8) : Bool :=
  p.startup.authorityReady completedRevolutions

def latencyUs : UInt32 := p.latency.totalUs

end RuntimeMissingToothProfile

def MissingToothDecoderConfig.fromRuntimeProfile (profile : RuntimeMissingToothProfile)
    (minimumEdgeInterval : Ticks) (gapRatioThresholdX1000 : UInt16) :
    MissingToothDecoderConfig where
  nominalTeeth := profile.nominalTeeth
  missingTeeth := profile.missingTeeth
  primarySpeed := profile.primarySpeed
  primaryEdge := profile.primaryEdge
  secondary := profile.secondary
  triggerAngleAtdcDeg10 := profile.triggerAngleAtdcDeg10
  toothAngleMultiplier := profile.toothAngleMultiplier
  minimumEdgeInterval := minimumEdgeInterval
  gapRatioThresholdX1000 := gapRatioThresholdX1000

/-! ### The layer -/

structure ProfiledMissingToothDecoder where
  decoder : MissingToothDecoder
  profile : RuntimeMissingToothProfile
  revolutionsSinceLock : UInt8
  sawPrimaryGap : Bool
  deriving DecidableEq

namespace ProfiledMissingToothDecoder

variable (p : ProfiledMissingToothDecoder) (timestamp : Ticks) (edge : TriggerEdge)

def tryNew (profile : RuntimeMissingToothProfile) (minimumEdgeInterval : Ticks)
    (gapRatioThresholdX1000 : UInt16) :
    Except TriggerValidationError ProfiledMissingToothDecoder := do
  profile.validate
  let decoder ← MissingToothDecoder.tryNew
    (.fromRuntimeProfile profile minimumEdgeInterval gapRatioThresholdX1000)
  return ⟨decoder, profile, 0, false⟩

/-- The start-up count begins again. -/
def restart : ProfiledMissingToothDecoder :=
  { p with revolutionsSinceLock := 0, sawPrimaryGap := false }

def ingestPrimaryEdge :
    ProfiledMissingToothDecoder × Except SyncLossReason MissingToothDecoderEvent :=
  let ingested := p.decoder.ingestPrimaryEdge timestamp
  let p := { p with decoder := ingested.1 }
  match ingested.2 with
  | .error reason => (p.restart, .error reason)
  | .ok event =>
    match event with
    | .gap _ =>
      if p.sawPrimaryGap then
        ({ p with revolutionsSinceLock := satAdd8 p.revolutionsSinceLock 1 }, .ok event)
      else ({ p with sawPrimaryGap := true }, .ok event)
    | .firstEdge | .searching => (if !p.decoder.primaryLocked then p.restart else p, .ok event)
    | .ignoredByFilter | .tooth _ => (p, .ok event)

def ingestSecondaryEdge : ProfiledMissingToothDecoder × Except SyncLossReason Unit :=
  let ingested := p.decoder.ingestSecondaryEdge edge
  ({ p with decoder := ingested.1 }, ingested.2)

def ingestSecondaryLevel (level : TriggerLevel) :
    ProfiledMissingToothDecoder × Except SyncLossReason Unit :=
  let ingested := p.decoder.ingestSecondaryLevel level
  ({ p with decoder := ingested.1 }, ingested.2)

/-- The variable of the source is called the timestamp of the last gap; it is that of the last
edge. Times are compared as plain numbers. -/
def crankAngleAt : Option Degrees10 :=
  if !p.decoder.primaryLocked then none
  else
    let revTicks := satMul32 p.decoder.lastNormalInterval p.profile.observedPrimaryTeeth.toUInt32
    if revTicks = 0 then p.profile.triggerAngleAtdcDeg10.normalizedAngleDeg10
    else
      p.profile.triggerAngleAtdcDeg10.normalizedAngleDeg10.bind fun triggerAngle =>
        p.decoder.lastEdgeTimestamp.map fun lastGapTimestamp =>
          let compensatedNow := UInt32.ofNat (timestamp.toNat - p.profile.latencyUs.toNat)
          if compensatedNow ≤ lastGapTimestamp then triggerAngle
          else
            let elapsed := (compensatedNow - lastGapTimestamp).toNat
            normalizeEngineCycleDeg10I32
              (triggerAngle.toInt32 + Int32.ofNat (elapsed * 3600 / revTicks.toNat))

def resetSync : ProfiledMissingToothDecoder :=
  { p with decoder := p.decoder.reset }.restart

def authority (p : ProfiledMissingToothDecoder) : EngineTimeAuthority :=
  let authority := p.decoder.diagnostics.authority
  if !authority.hasPrimaryLock then authority
  else if p.profile.startupAuthorityReady p.revolutionsSinceLock then authority
  else ⟨.primaryLocked, .crankOnly360, .none, 500, authority.syncLossCount⟩

/-! ### Runs -/

inductive ProfiledOp
  | primaryEdge (timestamp : Ticks)
  | secondaryEdge (edge : TriggerEdge)
  | secondaryLevel (level : TriggerLevel)
  | resetSync
  deriving DecidableEq

def step : ProfiledOp → ProfiledMissingToothDecoder
  | .primaryEdge timestamp => (p.ingestPrimaryEdge timestamp).1
  | .secondaryEdge edge => (p.ingestSecondaryEdge edge).1
  | .secondaryLevel level => (p.ingestSecondaryLevel level).1
  | .resetSync => p.resetSync

/-- The operation of the decoder below. -/
def ProfiledOp.below : ProfiledOp → DecoderOp
  | .primaryEdge timestamp => .primaryEdge timestamp edge
  | .secondaryEdge edge => .secondaryEdge edge
  | .secondaryLevel level => .secondaryLevel level
  | .resetSync => .reset

variable {p : ProfiledMissingToothDecoder} {profile : RuntimeMissingToothProfile} {minimum : Ticks}
  {threshold : UInt16}

lemma decoder_ingestPrimaryEdge :
    (p.ingestPrimaryEdge timestamp).1.decoder = (p.decoder.ingestPrimaryEdge timestamp).1 ∧
      (p.ingestPrimaryEdge timestamp).1.profile = p.profile := by
  unfold ingestPrimaryEdge
  simp only
  split
  · exact ⟨rfl, rfl⟩
  · split
    · split_ifs <;> exact ⟨rfl, rfl⟩
    · split_ifs <;> exact ⟨rfl, rfl⟩
    · split_ifs <;> exact ⟨rfl, rfl⟩
    · exact ⟨rfl, rfl⟩
    · exact ⟨rfl, rfl⟩

/-- The decoder below takes every operation as its own, and the profile stays. -/
lemma decoder_step (op : ProfiledOp) :
    (step p op).decoder = TrigCoherence.step p.decoder (op.below p.decoder.config.primaryEdge) ∧
      (step p op).profile = p.profile := by
  cases op with
  | primaryEdge timestamp => exact decoder_ingestPrimaryEdge timestamp
  | secondaryEdge edge | secondaryLevel level | resetSync => exact ⟨rfl, rfl⟩

lemma tryNew_ok (h : tryNew profile minimum threshold = .ok p) :
    MissingToothDecoder.tryNew (.fromRuntimeProfile profile minimum threshold) = .ok p.decoder ∧
      p.profile = profile ∧ p.revolutionsSinceLock = 0 ∧ p.sawPrimaryGap = false := by
  unfold tryNew at h
  cases hvalid : profile.validate with
  | error e => simp [hvalid, bind, Except.bind] at h
  | ok _ =>
    cases hdecoder : MissingToothDecoder.tryNew
        (.fromRuntimeProfile profile minimum threshold) with
    | error e => simp [hvalid, hdecoder, bind, Except.bind] at h
    | ok decoder =>
      simp only [hvalid, hdecoder, bind, Except.bind, pure, Except.pure, Except.ok.injEq] at h
      subst h
      exact ⟨rfl, rfl, rfl, rfl⟩

/-- The decoder below an accepted layer runs as an accepted decoder. -/
theorem run_below (h : tryNew profile minimum threshold = .ok p) (ops : List ProfiledOp) :
    (run step p ops).decoder = run TrigCoherence.step p.decoder
        (ops.map (·.below profile.primaryEdge)) ∧
      (run step p ops).profile = profile := by
  obtain ⟨hdecoder, hprofile, -⟩ := tryNew_ok h
  obtain ⟨-, -, -, -, hinitial⟩ := MissingToothDecoder.tryNew_ok hdecoder
  have hedge : p.decoder.config.primaryEdge = profile.primaryEdge := by
    rw [hinitial]
    rfl
  obtain ⟨hrun, hkept, -⟩ := run_part (f := ProfiledMissingToothDecoder.decoder)
    (g := (·.below profile.primaryEdge))
    (I := fun p => p.profile = profile ∧ p.decoder.config.primaryEdge = profile.primaryEdge)
    (fun p op hp => by
      obtain ⟨hstep, hsame⟩ := decoder_step (p := p) op
      rw [hp.2] at hstep
      refine ⟨hstep, hsame.trans hp.1, ?_⟩
      rw [hstep, MissingToothDecoder.config_step, hp.2])
    ⟨hprofile, hedge⟩ ops
  exact ⟨hrun, hkept⟩

end ProfiledMissingToothDecoder

end Pipoco.TrigDecoder
