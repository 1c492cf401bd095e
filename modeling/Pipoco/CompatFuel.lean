import Pipoco.Domain

/-!
The enrichments of the compatibility layer's engine state, refreshed from the sensor readings and
their rates of change.

Arithmetic the source leaves unchecked wraps at its width.
-/

namespace Pipoco.CompatFuel

open Domain

/-! ### Enrichment -/

structure AeConfig where
  (tpsdotThreshPctS mapdotThreshKpaS : Int16)
  percentGain : UInt8
  (decayTimeMs lockoutMs : UInt32)
  deriving DecidableEq

def AeConfig.default : AeConfig := ⟨150, 80, 15, 400, 150⟩

structure WueConfig where
  (startC endC : Int16)
  (maxPercent minPercent : UInt8)
  deriving DecidableEq

def WueConfig.default : WueConfig := ⟨-20, 60, 40, 0⟩

def WueConfig.computePercent (c : WueConfig) (cltC : Int16) : UInt8 :=
  if c.endC ≤ c.startC then 0
  else if cltC ≤ c.startC then c.maxPercent
  else if c.endC ≤ cltC then c.minPercent
  else
    let span := (c.endC - c.startC).toInt
    let pos := (cltC - c.startC).toInt
    let max' : ℤ := c.maxPercent.toNat
    let min' : ℤ := c.minPercent.toNat
    UInt8.ofInt (max 0 (min (max' - ((max' - min') * pos).tdiv span) 100))

structure AseConfig where
  percent : UInt8
  (taperTimeMs lockoutMs : UInt32)
  deriving DecidableEq

def AseConfig.default : AseConfig := ⟨20, 5000, 2000⟩

structure AeState where
  active : Bool
  currentPercent : UInt8
  lastTriggerUs : UInt32
  deriving DecidableEq

namespace AeState

variable (s : AeState) (nowUs : UInt32) (cfg : AeConfig)

def new : AeState := ⟨false, 0, 0⟩

/-- The lockout is over. -/
def Ready : Prop :=
  (s.lastTriggerUs = 0 ∧ s.active = false) ∨ cfg.lockoutMs * 1000 ≤ nowUs - s.lastTriggerUs
  deriving Decidable

/-- The percentage left a while after the trigger. -/
def decayed : AeState :=
  let decayUs := cfg.decayTimeMs * 1000
  let elapsed := nowUs - s.lastTriggerUs
  let pct := cfg.percentGain.toNat * (decayUs.toNat - elapsed.toNat) / decayUs.toNat
  if decayUs ≤ elapsed then { s with currentPercent := 0, active := false }
  else { s with currentPercent := UInt8.ofNat pct }

def update (tpsdotPctS mapdotKpaS : Int16) (cfg : AeConfig) : AeState × UInt8 :=
  if (cfg.tpsdotThreshPctS ≤ tpsdotPctS ∨ cfg.mapdotThreshKpaS ≤ mapdotKpaS) ∧
      s.Ready nowUs cfg then
    (⟨true, cfg.percentGain, nowUs⟩, cfg.percentGain)
  else
    let s' := if s.active then s.decayed nowUs cfg else s
    (s', s'.currentPercent)

end AeState

structure AseState where
  active : Bool
  (startUs lastTriggerUs : UInt32)
  deriving DecidableEq

namespace AseState

def new : AseState := ⟨false, 0, 0⟩

def update (s : AseState) (nowUs : UInt32) (justStarted : Bool) (cfg : AseConfig) :
    AseState × UInt8 :=
  let started := justStarted ∧
    (s.lastTriggerUs = 0 ∨ cfg.lockoutMs * 1000 ≤ nowUs - s.lastTriggerUs)
  let s := if started then ⟨true, nowUs, nowUs⟩ else s
  if !s.active then (s, 0)
  else
    let elapsed := (nowUs - s.startUs).toNat
    let dur := cfg.taperTimeMs.toNat * 1000
    if dur ≤ elapsed then ({ s with active := false }, 0)
    else (s, UInt8.ofNat (cfg.percent.toNat * (dur - elapsed) / dur))

end AseState

/-! ### The state -/

/-- What the enrichment update reads and writes. -/
structure FuelState where
  wueConfig : WueConfig
  aseConfig : AseConfig
  aeConfig : AeConfig
  aseState : AseState
  aeState : AeState
  (wuePercent asePercent aePercent : UInt8)
  rpm : Rpm
  synced : Bool
  lastEnrichmentUpdateUs : UInt32
  lastEnrichmentTpsPercent : UInt8
  lastEnrichmentMapKpaX10 : UInt16

namespace FuelState

variable (e : FuelState)

def new : FuelState where
  wueConfig := .default
  aseConfig := .default
  aeConfig := .default
  aseState := .new
  aeState := .new
  wuePercent := 0
  asePercent := 0
  aePercent := 0
  rpm := 0
  synced := false
  lastEnrichmentUpdateUs := 0
  lastEnrichmentTpsPercent := 0
  lastEnrichmentMapKpaX10 := 0

/-- The rate of change since the last update, computed in 64 bits and narrowed to 16. -/
def rate (last now : ℕ) (dtUs : UInt32) : Int16 :=
  Int16.ofInt ((((now : ℤ) - last) * 1000000).tdiv (max dtUs 1).toNat)

def refreshEnrichments (nowUs : UInt32) (cltX10 _iatX10 : Int16) (tpsPercent : UInt8)
    (mapKpaX10 : UInt16) : FuelState :=
  let cltC := cltX10 / 10
  let firstTick := e.lastEnrichmentUpdateUs = 0
  let dtUs := nowUs - e.lastEnrichmentUpdateUs
  let tpsdot := if firstTick then 0
    else rate e.lastEnrichmentTpsPercent.toNat tpsPercent.toNat dtUs
  let mapdot := if firstTick then 0
    else rate e.lastEnrichmentMapKpaX10.toNat mapKpaX10.toNat dtUs
  let ae := e.aeState.update nowUs tpsdot mapdot e.aeConfig
  let justStarted := decide (firstTick ∧ e.synced ∧ 0 < e.rpm)
  let ase := e.aseState.update nowUs justStarted e.aseConfig
  { e with
    wuePercent := e.wueConfig.computePercent cltC
    aeState := ae.1
    aePercent := ae.2
    aseState := ase.1
    asePercent := ase.2
    lastEnrichmentUpdateUs := nowUs
    lastEnrichmentTpsPercent := tpsPercent
    lastEnrichmentMapKpaX10 := mapKpaX10 }

end FuelState

end Pipoco.CompatFuel
