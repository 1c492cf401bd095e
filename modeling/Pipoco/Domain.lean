import Mathlib.Tactic

/-!
The vocabulary shared by the engine runtime and the boards: units, identifiers, modes, the
engine-time authority, and the logical outputs a board drives.

A unit of the source is a wrapper around a machine integer and is that integer here. What the
source saturates is written with `satAdd8` and its like; everything else wraps, as it does in the
release profile the boards are built with. Divisions by zero and empty clamps stop the firmware in
every profile; the operations that can reach one return an `Option`.
-/

namespace Pipoco.Domain

/-! ### Units and identifiers -/

variable (a b : UInt16)

abbrev Micros := UInt32
abbrev Ticks := UInt32
abbrev Rpm := UInt16
abbrev Kpa10 := UInt16
abbrev PulseWidthUs := UInt16
abbrev DwellUs := UInt16
abbrev Degrees10 := Int16
abbrev Lambda100 := UInt16
abbrev Percent := UInt8
abbrev ChannelId := UInt8

def satAdd8 (a b : UInt8) : UInt8 := UInt8.ofNat (min (a.toNat + b.toNat) (2 ^ 8 - 1))

def satAdd16 : UInt16 := UInt16.ofNat (min (a.toNat + b.toNat) (2 ^ 16 - 1))

def satAdd32 (a b : UInt32) : UInt32 := UInt32.ofNat (min (a.toNat + b.toNat) (2 ^ 32 - 1))

def satMul16 : UInt16 := UInt16.ofNat (min (a.toNat * b.toNat) (2 ^ 16 - 1))

def satMul32 (a b : UInt32) : UInt32 := UInt32.ofNat (min (a.toNat * b.toNat) (2 ^ 32 - 1))

def satSub16 : UInt16 := UInt16.ofNat (a.toNat - b.toNat)

def satInt16 (v : ℤ) : Int16 := Int16.ofInt (max (-2 ^ 15) (min v (2 ^ 15 - 1)))

def satInt32 (v : ℤ) : Int32 := Int32.ofInt (max (-2 ^ 31) (min v (2 ^ 31 - 1)))

lemma toNat_satAdd8 (a b : UInt8) : (satAdd8 a b).toNat = min (a.toNat + b.toNat) (2 ^ 8 - 1) := by
  rw [satAdd8, UInt8.toNat_ofNat_of_lt']
  show _ < 2 ^ 8
  omega

lemma toNat_satAdd8_one {n : UInt8} {bound : ℕ} (h : n.toNat < bound) (hbound : bound < 256) :
    (satAdd8 n 1).toNat = n.toNat + 1 := by
  have h1 : (1 : UInt8).toNat = 1 := rfl
  have hadd := toNat_satAdd8 n 1
  omega

lemma toNat_satAdd16 : (satAdd16 a b).toNat = min (a.toNat + b.toNat) (2 ^ 16 - 1) := by
  rw [satAdd16, UInt16.toNat_ofNat_of_lt']
  show _ < 2 ^ 16
  omega

lemma toNat_satAdd16_one_le (n : UInt16) : (satAdd16 n 1).toNat ≤ n.toNat + 1 := by
  rw [toNat_satAdd16]
  exact min_le_left _ _

lemma satAdd16_one_ne {n limit : UInt16} (h : n < limit) : satAdd16 n 1 ≠ n := by
  intro heq
  have hlt : n.toNat < limit.toNat := UInt16.lt_iff_toNat_lt.mp h
  have hlimit : limit.toNat < 2 ^ 16 := limit.toNat_lt
  have hadd : (satAdd16 n 1).toNat = min (n.toNat + 1) (2 ^ 16 - 1) := toNat_satAdd16 n 1
  rw [heq] at hadd
  omega

lemma toNat_satSub16 : (satSub16 a b).toNat = a.toNat - b.toNat := by
  have h : a.toNat - b.toNat < 2 ^ 16 := lt_of_le_of_lt (Nat.sub_le _ _) a.toNat_lt
  rw [satSub16, UInt16.toNat_ofNat_of_lt' h]

lemma toInt_satInt16 {v : ℤ} (hlow : -2 ^ 15 ≤ v) (hhigh : v < 2 ^ 15) :
    (satInt16 v).toInt = v := by
  have hsame : max (-2 ^ 15) (min v (2 ^ 15 - 1)) = v := by omega
  rw [satInt16, hsame]
  exact Int16.toInt_ofInt_of_le hlow hhigh

lemma toInt_toInt16 {n : UInt16} (h : n.toNat < 2 ^ 15) : n.toInt16.toInt = n.toNat := by
  have hdouble : 2 * n.toBitVec.toNat < 2 ^ 16 := by
    rw [UInt16.toNat_toBitVec]
    omega
  exact BitVec.toInt_eq_toNat_of_lt hdouble

section order

variable {α β : Type*} [LE α] [DecidableLE α] [LinearOrder β] {f : α → β}

lemma map_max (h : ∀ {a b}, a ≤ b ↔ f a ≤ f b) (a b : α) :
    f (@max α maxOfLe a b) = max (f a) (f b) := by
  rw [max_def, ← apply_ite f]
  exact congrArg f (if_congr h rfl rfl)

lemma map_min (h : ∀ {a b}, a ≤ b ↔ f a ≤ f b) (a b : α) :
    f (@min α minOfLe a b) = min (f a) (f b) := by
  rw [min_def, ← apply_ite f]
  exact congrArg f (if_congr h rfl rfl)

end order

/-! ### Modes and faults -/

inductive SyncState
  | unsynced
  | provisional
  | locked (camRef : Bool)
  deriving DecidableEq, Repr

inductive EnginePhase
  | off | cranking | running | stopping
  deriving DecidableEq, Repr

inductive ControlMode
  | openLoop | closedLoop | limpHome | shutdown
  deriving DecidableEq, Repr

/-- Policy to use when applying a staged calibration commit. -/
inductive CommitPolicy
  | immediate | safeOnly | deferred
  deriving DecidableEq, Repr

inductive FaultSeverity
  | info | warning | critical
  deriving DecidableEq, Repr

inductive FaultCode
  | none | syncLoss | sensorOutOfRange | calibrationInvalid | safetyCut | actuatorFault
  deriving DecidableEq, Repr

inductive CancelReason
  | manual | syncLoss | safetyShutdown | commit | timeout
  deriving DecidableEq, Repr

/-! ### Engine-time authority -/

inductive CrankSyncState
  | noSignal | primarySearching | primaryLocked | syncLost
  deriving DecidableEq, Repr

inductive PhaseSyncState
  | unknown | crankOnly360 | camObserved720 | camValidated720
  deriving DecidableEq, Repr

inductive AbsoluteTimeAuthority
  | none | geometryOnly | expertManual | communityProfile | certifiedProfile | benchLearned
  deriving DecidableEq, Repr

/-- What is known about engine position, and how well. -/
structure EngineTimeAuthority where
  crank : CrankSyncState
  phase : PhaseSyncState
  absolute : AbsoluteTimeAuthority
  (confidenceX1000 syncLossCount : UInt16)
  deriving DecidableEq, Repr

inductive EngineTimeAuthorityError
  | confidenceOutOfRange | absoluteTimingWithoutPrimaryLock
  deriving DecidableEq, Repr

namespace EngineTimeAuthority

variable (a : EngineTimeAuthority)

def maxConfidenceX1000 : UInt16 := 1000

def none : EngineTimeAuthority := ⟨.noSignal, .unknown, .none, 0, 0⟩

def hasPrimaryLock : Bool := a.crank = .primaryLocked

def hasAbsoluteTiming : Bool := a.absolute ≠ .none

/-- The lossy view of an authority for code that still reads a `SyncState`. -/
def compatibilitySummary : SyncState :=
  if !a.hasPrimaryLock then .unsynced
  else if a.phase = .unknown || !a.hasAbsoluteTiming then .provisional
  else .locked false

def validate : Except EngineTimeAuthorityError Unit :=
  if a.confidenceX1000 > maxConfidenceX1000 then .error .confidenceOutOfRange
  else if !a.hasPrimaryLock && a.hasAbsoluteTiming then
    .error .absoluteTimingWithoutPrimaryLock
  else .ok ()

end EngineTimeAuthority

def absoluteTimeAuthorizesFullSequential : AbsoluteTimeAuthority → Bool
  | .expertManual | .communityProfile | .certifiedProfile | .benchLearned => true
  | .none | .geometryOnly => false

/-! ### Logical outputs of a board -/

inductive OutputLevel
  | low | high
  deriving DecidableEq, Repr

inductive EcuOutput
  | injector (channel : ChannelId)
  | ignition (channel : ChannelId)
  deriving DecidableEq, Repr

inductive AuxValue
  | off
  | duty (percent : Percent)
  | level (level : OutputLevel)
  deriving DecidableEq, Repr

inductive AuxOutput
  | safetyRelay (index : UInt8)
  | indicator (index : UInt8)
  | frequencyOut (index : UInt8)
  | digital (channel : ChannelId)
  | pwm (channel : ChannelId)
  deriving DecidableEq, Repr

structure AuxCommand where
  output : AuxOutput
  value : AuxValue
  deriving DecidableEq, Repr

structure OutputTransition where
  output : EcuOutput
  level : OutputLevel
  atTicks : Ticks
  deriving DecidableEq, Repr

/-! ### Fixed-capacity batches -/

/-- A batch of at most `n` items; an item that does not fit is refused, not dropped. -/
structure FixedBatch (α : Type) (n : ℕ) where
  items : List α
  fits : items.length ≤ n
  deriving DecidableEq

namespace FixedBatch

variable {α : Type} {n : ℕ} (b : FixedBatch α n) (item : α)

def new : FixedBatch α n := ⟨[], Nat.zero_le n⟩

def len : ℕ := b.items.length

def push : Option (FixedBatch α n) :=
  if h : b.items.length = n then none
  else some ⟨b.items ++ [item], by
    have := b.fits
    rw [List.length_append, List.length_singleton]
    omega⟩

variable {b}

lemma push_of_lt (h : b.items.length < n) :
    ∃ b', b.push item = some b' ∧ b'.items = b.items ++ [item] := by
  rw [push, dif_neg h.ne]
  exact ⟨_, rfl, rfl⟩

/-- A push whose refusal the caller ignores: a full batch drops the item. -/
def tryPush (b : FixedBatch α n) (item : α) : FixedBatch α n := (b.push item).getD b

lemma items_tryPush_of_lt (h : b.items.length < n) :
    (b.tryPush item).items = b.items ++ [item] := by
  obtain ⟨b', hb, hitems⟩ := push_of_lt item h
  rw [tryPush, hb, Option.getD_some, hitems]

lemma items_foldl_tryPush {l : List α} (h : b.items.length + l.length ≤ n) :
    (l.foldl tryPush b).items = b.items ++ l := by
  induction l generalizing b with
  | nil => simp
  | cons a l ih =>
    rw [List.length_cons] at h
    have hpush : (b.tryPush a).items = b.items ++ [a] := items_tryPush_of_lt a (by omega)
    rw [List.foldl_cons, ih (by rw [hpush]; simp; omega), hpush, List.append_assoc]
    rfl

end FixedBatch

/-! ### The frontier of a timing island -/

inductive TimingIslandStopReason
  | none | syncLost | heartbeatExpired | horizonExpired | permitDenied | timingFault
  | admittedEventRejected | boardOutputFault
  deriving DecidableEq, Repr

abbrev TimingIslandHorizonSequenceId := UInt32

def heartbeatExpiryUs : Micros := 20000
def maxHorizonUs : Micros := 10000

/-- A permit mask. The constructor drops unknown bits, so none is ever set. -/
structure SafetyPermitMask where
  bits : UInt32
  known : bits &&& 7 = bits
  deriving DecidableEq

namespace SafetyPermitMask

def knownBits : UInt32 := 7

def none : SafetyPermitMask := ⟨0, by decide⟩

def all : SafetyPermitMask := ⟨knownBits, by decide⟩

def isEmpty (m : SafetyPermitMask) : Bool := m.bits = 0

end SafetyPermitMask

end Pipoco.Domain
