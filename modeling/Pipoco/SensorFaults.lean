import Pipoco.CompatState
import Pipoco.Debounce

/-!
Sensor faults that are debounced.

The plausibility monitor compares throttle and manifold pressure, the load failure tracker watches
for a lost pressure sensor at high speed, and each of the two sensors has a range diagnostic. All
of them time how long their fault has lasted or has been gone. An update that does not look at the
fault leaves the timers running: one of a disabled monitor, and for the plausibility monitor one at
low speed. A range diagnostic does look, but an active one leaves its timer running all the same
when the sensor goes out of range again.
-/

namespace Pipoco.SensorFaults

open Domain Runs Compat Evidence Debounce Recorded EcuState

/-! ### Plausibility -/

inductive PlausibilityFault
  | none | tpsHighMapLow | tpsLowMapHigh
  deriving DecidableEq, Repr

structure PlausibilityConfig where
  enable : Bool
  tpsHighThreshold : UInt8
  mapLowThresholdX10 : UInt16
  tpsLowThreshold : UInt8
  (mapHighThresholdX10 minRpm : UInt16)
  debounceTimeUs : UInt32
  deriving DecidableEq

def PlausibilityConfig.default : PlausibilityConfig := ⟨true, 80, 300, 10, 950, 1000, 500000⟩

structure PlausibilityState where
  (pendingFault confirmedFault : PlausibilityFault)
  faultStartUs : UInt32
  faultConfirmed : Bool
  clearStartUs : UInt32
  deriving DecidableEq

open PlausibilityState

def detectFault (tpsPercent : UInt8) (mapKpaX10 : UInt16) (config : PlausibilityConfig) :
    PlausibilityFault :=
  if config.tpsHighThreshold ≤ tpsPercent ∧ mapKpaX10 ≤ config.mapLowThresholdX10 then
    .tpsHighMapLow
  else if tpsPercent ≤ config.tpsLowThreshold ∧ config.mapHighThresholdX10 ≤ mapKpaX10 then
    .tpsLowMapHigh
  else .none

namespace PlausibilityState

variable (s : PlausibilityState)

def new : PlausibilityState := ⟨.none, .none, 0, false, 0⟩

def onFault (currentFault : PlausibilityFault) (config : PlausibilityConfig) (nowUs : UInt32) :
    PlausibilityState :=
  let s := { s with clearStartUs := 0 }
  if s.pendingFault ≠ currentFault then
    { s with pendingFault := currentFault, faultStartUs := nowUs }
  else if config.debounceTimeUs ≤ nowUs - s.faultStartUs ∧ s.faultConfirmed = false then
    { s with faultConfirmed := true, confirmedFault := currentFault }
  else s

def onPlausible (config : PlausibilityConfig) (nowUs : UInt32) : PlausibilityState :=
  let s := { s with pendingFault := .none }
  if !s.faultConfirmed then s
  else
    let s := if s.clearStartUs = 0 then { s with clearStartUs := nowUs } else s
    if config.debounceTimeUs ≤ nowUs - s.clearStartUs then
      { s with faultConfirmed := false, confirmedFault := .none, clearStartUs := 0 }
    else s

def check (tpsPercent : UInt8) (mapKpaX10 rpm : UInt16) (config : PlausibilityConfig)
    (nowUs : UInt32) : PlausibilityState × PlausibilityFault :=
  if !config.enable then (s, .none)
  else if rpm < config.minRpm then ({ s with pendingFault := .none }, s.confirmedFault)
  else
    let currentFault := detectFault tpsPercent mapKpaX10 config
    let s' := if currentFault ≠ .none then s.onFault currentFault config nowUs
      else s.onPlausible config nowUs
    (s', s'.confirmedFault)

end PlausibilityState

/-- The fault a value stands for, if any. -/
def PlausibilityFault.shown : PlausibilityFault → Option PlausibilityFault
  | .none => Option.none
  | .tpsHighMapLow => some .tpsHighMapLow
  | .tpsLowMapHigh => some .tpsLowMapHigh

variable {f : PlausibilityFault}

lemma PlausibilityFault.shown_eq_some {g : PlausibilityFault} (hf : f ≠ .none) :
    f.shown = some g ↔ f = g := by
  cases f with
  | none => exact absurd rfl hf
  | _ => exact Option.some_inj

lemma PlausibilityFault.shown_self (hf : f ≠ .none) : f.shown = some f := (shown_eq_some hf).mpr rfl

lemma PlausibilityFault.eq_of_shown {g : PlausibilityFault} (h : f.shown = some g) : f = g := by
  cases f with
  | none => cases h
  | _ => exact Option.some_inj.mp h

/-- A check of the plausibility, under the configuration of the moment. -/
structure PlausibilitySample where
  tpsPercent : UInt8
  (mapKpaX10 rpm : UInt16)
  config : PlausibilityConfig
  time : ℕ

namespace PlausibilitySample

variable (x : PlausibilitySample)

def fault : PlausibilityFault := detectFault x.tpsPercent x.mapKpaX10 x.config

def Looks : Prop := x.config.enable = true ∧ x.config.minRpm ≤ x.rpm

instance : Decidable x.Looks := inferInstanceAs (Decidable (_ ∧ _))

end PlausibilitySample

namespace PlausibilityState

variable (s : PlausibilityState)

def next (x : PlausibilitySample) : PlausibilityState :=
  (s.check x.tpsPercent x.mapKpaX10 x.rpm x.config (stamp x.time)).1

def confirmed : Option PlausibilityFault := if s.faultConfirmed then some s.confirmedFault else none

def latch : Latch PlausibilityFault where
  pending := s.pendingFault.shown
  start := s.faultStartUs
  confirmed := s.confirmed
  clear := s.clearStartUs

variable {s} in
lemma confirmed_eq_none : s.confirmed = none ↔ s.faultConfirmed = false := by
  unfold confirmed
  cases s.faultConfirmed <;> simp

end PlausibilityState

/-- A check that does not look at the sensors finds them as the running timer has seen them. -/
structure PlausibilityWatched (r : Recorded PlausibilityState PlausibilitySample)
    (x : PlausibilitySample) : Prop where
  disabled : x.config.enable = false → r.state.faultConfirmed = false →
    r.state.pendingFault ≠ .none → x.fault = r.state.pendingFault
  clearing : ¬ x.Looks → r.state.faultConfirmed = true → r.state.clearStartUs ≠ 0 → x.fault = .none

instance (r : Recorded PlausibilityState PlausibilitySample) (x : PlausibilitySample) :
    Decidable (PlausibilityWatched r x) :=
  decidable_of_iff (_ ∧ _) ⟨fun h => ⟨h.1, h.2⟩, fun h => ⟨h.1, h.2⟩⟩

section plausibility

variable {s : PlausibilityState} {x : PlausibilitySample}

open PlausibilityState

lemma step_onFault (hf : x.fault ≠ .none) :
    s.latch.Step x.fault.shown (stamp x.time) x.config.debounceTimeUs.toNat
      x.config.debounceTimeUs.toNat (s.onFault x.fault x.config (stamp x.time)).latch := by
  have hc := PlausibilityFault.shown_self hf
  simp only [onFault]
  split
  · -- a fault of another kind starts the timer
    exact .starts (by simp [hc])
  · rename_i hsame
    have hp : s.pendingFault = x.fault := not_not.mp hsame
    have hpending : s.latch.pending = some x.fault := by rw [← hc, ← hp]; rfl
    split
    · rename_i hd
      exact .confirms x.fault hc hpending (confirmed_eq_none.mpr hd.2)
        (UInt32.le_iff_toNat_le.mp hd.1)
    · exact .waits x.fault hc hpending

lemma onPlausible_eq {config : PlausibilityConfig} {nowUs : UInt32} (h : s.faultConfirmed = true) :
    s.onPlausible config nowUs =
      if config.debounceTimeUs ≤ nowUs - s.latch.clearing nowUs then
        { s with pendingFault := .none, faultConfirmed := false, confirmedFault := .none,
                 clearStartUs := 0 }
      else { s with pendingFault := .none, clearStartUs := s.latch.clearing nowUs } := by
  by_cases hstart : s.clearStartUs = 0
  · simp [onPlausible, h, Latch.clearing, latch, hstart]
  · simp [onPlausible, h, Latch.clearing, latch, hstart]

lemma step_onPlausible (hf : x.fault = .none) :
    s.latch.Step x.fault.shown (stamp x.time) x.config.debounceTimeUs.toNat
      x.config.debounceTimeUs.toNat (s.onPlausible x.config (stamp x.time)).latch := by
  have hc : x.fault.shown = none := by rw [hf]; rfl
  cases hconf : s.faultConfirmed with
  | false =>
    have hfree : s.onPlausible x.config (stamp x.time) = { s with pendingFault := .none } := by
      simp [onPlausible, hconf]
    rw [hfree]
    exact .idles _ fun _ _ => hc
  | true =>
    rw [onPlausible_eq hconf]
    split
    · rename_i hd
      exact .drops _ hc (UInt32.le_iff_toNat_le.mp hd)
    · exact .recovers _ hc

lemma step_next {r : Recorded PlausibilityState PlausibilitySample} (h : PlausibilityWatched r x) :
    r.state.latch.Step x.fault.shown (stamp x.time) x.config.debounceTimeUs.toNat
      x.config.debounceTimeUs.toNat (r.state.next x).latch := by
  have hclearing (hlook : ¬ x.Looks) (hconf : r.state.latch.confirmed ≠ none)
      (hrun : r.state.latch.clear ≠ 0) : x.fault.shown = none := by
    have hset : r.state.faultConfirmed = true := by
      by_contra hfree
      exact hconf (confirmed_eq_none.mpr (Bool.not_eq_true _ ▸ hfree))
    rw [h.clearing hlook hset hrun]
    rfl
  unfold next check
  by_cases hen : x.config.enable = false
  · rw [if_pos (by rw [hen]; rfl)]
    refine .ignores (fun hn k hk => ?_) (hclearing fun hlook => ?_)
    · have hp : r.state.pendingFault = k := PlausibilityFault.eq_of_shown hk
      have hne : r.state.pendingFault ≠ .none := fun h => by
        rw [show r.state.latch.pending = r.state.pendingFault.shown from rfl, h] at hk
        cases hk
      rw [h.disabled hen (confirmed_eq_none.mp hn) hne, PlausibilityFault.shown_self hne, hp]
    · rw [hlook.1] at hen
      cases hen
  · rw [if_neg (by simpa using hen)]
    by_cases hslow : x.rpm < x.config.minRpm
    · rw [if_pos hslow]
      exact .idles _ (hclearing fun hlook => absurd hslow (UInt16.not_lt.mpr hlook.2))
    · rw [if_neg hslow]
      by_cases hf : x.fault = .none
      · rw [show detectFault x.tpsPercent x.mapKpaX10 x.config = .none from hf]
        exact step_onPlausible hf
      · simp only [show detectFault x.tpsPercent x.mapKpaX10 x.config = x.fault from rfl, if_pos hf]
        exact step_onFault hf

end plausibility

/-! ### Load failure -/

variable (t : LoadFailureTracker)

/-- A check for a load failure, under the configuration of the moment. -/
structure LoadSample where
  mapFault : Bool
  rpm : Rpm
  config : LoadFailureConfig
  time : ℕ

namespace LoadSample

def fault (x : LoadSample) : Option LoadFailureReason :=
  if x.mapFault && x.config.rpmThreshold ≤ x.rpm then some .mapFailureHighRpm else none

end LoadSample

def loadNext (x : LoadSample) : LoadFailureTracker :=
  (t.check x.mapFault x.rpm x.config (stamp x.time)).1

def loadConfirmed : Option LoadFailureReason := if t.inLimp then some .mapFailureHighRpm else none

def loadLatch : Latch LoadFailureReason where
  pending := if t.faultPending then some .mapFailureHighRpm else none
  start := t.faultDetectedUs
  confirmed := loadConfirmed t
  clear := t.goodSinceUs

variable {t} in
lemma loadConfirmed_eq_none : loadConfirmed t = none ↔ t.inLimp = false := by
  unfold loadConfirmed
  cases t.inLimp <;> simp

/-- A check of a disabled tracker finds the fault as the running timer has seen it. -/
structure LoadWatched (r : Recorded LoadFailureTracker LoadSample) (x : LoadSample) : Prop where
  pending : x.config.enable = false → r.state.inLimp = false → r.state.faultPending = true →
    x.fault ≠ none
  clearing : x.config.enable = false → r.state.inLimp = true → r.state.goodSinceUs ≠ 0 →
    x.fault = none

instance (r : Recorded LoadFailureTracker LoadSample) (x : LoadSample) :
    Decidable (LoadWatched r x) :=
  decidable_of_iff (_ ∧ _) ⟨fun h => ⟨h.1, h.2⟩, fun h => ⟨h.1, h.2⟩⟩

section load

variable {t : LoadFailureTracker} {x : LoadSample}

lemma loadStep_onFault (hf : x.fault = some .mapFailureHighRpm) :
    (loadLatch t).Step x.fault (stamp x.time) x.config.debounceTimeUs.toNat
      x.config.recoveryTimeUs.toNat (loadLatch (t.onFault x.config (stamp x.time))) := by
  rw [hf]
  simp only [LoadFailureTracker.onFault]
  by_cases hp : t.faultPending = true
  · have hpending : (loadLatch t).pending = some .mapFailureHighRpm := if_pos hp
    rw [if_neg (by simp [hp])]
    split
    · rename_i hd
      have hconf : loadConfirmed t = none := loadConfirmed_eq_none.mpr hd.2
      exact .confirms _ rfl hpending hconf (UInt32.le_iff_toNat_le.mp hd.1)
    · exact .waits _ rfl hpending
  · rw [if_pos (by simpa using hp)]
    exact .starts (by simp)

lemma onGood_eq {config : LoadFailureConfig} {nowUs : UInt32} (h : t.inLimp = true) :
    t.onGood config nowUs =
      if t.goodSinceUs ≠ 0 ∧ config.recoveryTimeUs ≤ nowUs - (loadLatch t).clearing nowUs then
        { t with faultPending := false, faultDetectedUs := 0, inLimp := false, reason := none,
                 goodSinceUs := 0 }
      else
        { t with faultPending := false, faultDetectedUs := 0,
                 goodSinceUs := (loadLatch t).clearing nowUs } := by
  by_cases hstart : t.goodSinceUs = 0
  · simp [LoadFailureTracker.onGood, h, Latch.clearing, loadLatch, hstart]
  · simp [LoadFailureTracker.onGood, h, Latch.clearing, loadLatch, hstart]

lemma loadStep_onGood (hf : x.fault = none) :
    (loadLatch t).Step x.fault (stamp x.time) x.config.debounceTimeUs.toNat
      x.config.recoveryTimeUs.toNat (loadLatch (t.onGood x.config (stamp x.time))) := by
  by_cases hl : t.inLimp = true
  · rw [onGood_eq hl]
    split
    · rename_i hd
      exact .drops _ hf (UInt32.le_iff_toNat_le.mp hd.2)
    · exact .recovers _ hf
  · have hfree : t.onGood x.config (stamp x.time) =
        { t with faultPending := false, faultDetectedUs := 0 } := by
      simp [LoadFailureTracker.onGood, hl]
    rw [hfree]
    exact .idles _ fun _ _ => hf

lemma loadStep_next {r : Recorded LoadFailureTracker LoadSample} (h : LoadWatched r x) :
    (loadLatch r.state).Step x.fault (stamp x.time) x.config.debounceTimeUs.toNat
      x.config.recoveryTimeUs.toNat (loadLatch (loadNext r.state x)) := by
  unfold loadNext LoadFailureTracker.check
  by_cases hen : x.config.enable = false
  · rw [if_pos (by rw [hen]; rfl)]
    refine .ignores (fun hn k hk => ?_) (fun hconf hrun => ?_)
    · have hpending : r.state.faultPending = true := by
        by_contra hp
        rw [show (loadLatch r.state).pending = none from if_neg hp] at hk
        cases hk
      obtain ⟨k', hk'⟩ :=
        Option.ne_none_iff_exists'.mp (h.pending hen (loadConfirmed_eq_none.mp hn) hpending)
      rw [hk']
    · have hlimp : r.state.inLimp = true := by
        by_contra hfree
        exact hconf (loadConfirmed_eq_none.mpr (Bool.not_eq_true _ ▸ hfree))
      exact h.clearing hen hlimp hrun
  · rw [if_neg (by simpa using hen)]
    by_cases hf : x.mapFault && x.config.rpmThreshold ≤ x.rpm
    · simp only [if_pos hf]
      exact loadStep_onFault (if_pos hf)
    · simp only [if_neg hf]
      exact loadStep_onGood (if_neg hf)

end load

/-! ### Ranges -/

variable (diag : DiagState)

/-- A sensor update, under the limits of the moment. -/
structure RangeSample where
  rawMapKpaX10 : Kpa10
  rawTpsPercent : Percent
  limits : SensorsLimits
  time : ℕ

open RangeSample

namespace RangeSample

variable (x : RangeSample)

def mapOob : Bool :=
  x.rawMapKpaX10 < x.limits.mapMinKpaX10 || x.rawMapKpaX10 > x.limits.mapMaxKpaX10

def tpsOob : Bool :=
  x.rawTpsPercent < x.limits.tpsMinPercent || x.rawTpsPercent > x.limits.tpsMaxPercent

def clearTimeUs : ℕ := x.limits.clearTimeS.toNat * 1000000

end RangeSample

/-- The engine state after a sensor update. An update that stops the firmware leaves it as it
is. -/
def sensorNext (e : EcuState) (x : RangeSample) : EcuState :=
  let e := { e with config := { e.config with sensorsLimits := x.limits } }
  match e.processSensorUpdate (stamp x.time) x.rawMapKpaX10 x.rawTpsPercent with
  | some r => r.1
  | none => e

def rangeShown (oob : Bool) : Option Unit := if oob then some () else none

def rangeConfirmed : Option Unit := rangeShown diag.isActive

def rangeLatch : Latch Unit where
  pending := none
  start := 0
  confirmed := rangeConfirmed diag
  clear := diag.inRangeSinceUs

/-- The sensor does not leave the range again while the diagnostic waits for it to have been in
range, and the clear time fits the clock. -/
structure RangeWatched (diag : DiagState) (oob : Bool) (clearTimeUs : ℕ) : Prop where
  timer : diag.isActive = true → diag.inRangeSinceUs ≠ 0 → oob = false
  fits : diag.isActive = true → oob = false → clearTimeUs < 2 ^ 32

instance (oob : Bool) (clearTimeUs : ℕ) : Decidable (RangeWatched diag oob clearTimeUs) :=
  decidable_of_iff (_ ∧ _) ⟨fun h => ⟨h.1, h.2⟩, fun h => ⟨h.1, h.2⟩⟩

section range

variable {diag : DiagState} {oob : Bool} {clearTimeS : UInt16} {e : EcuState} {x : RangeSample}

lemma rangeShown_eq_none : rangeShown oob = none ↔ oob = false := by
  cases oob <;> simp [rangeShown]

lemma RangeWatched.ignores {now : UInt32} {dClear : ℕ}
    (h : RangeWatched diag oob dClear) :
    (rangeLatch diag).Step (rangeShown oob) now 0 dClear (rangeLatch diag) := by
  refine .ignores (fun _ k hk => absurd hk (by simp [rangeLatch])) fun hconf hrun => ?_
  have hactive : diag.isActive = true := by
    by_contra hfree
    exact hconf (rangeShown_eq_none.mpr (Bool.not_eq_true _ ▸ hfree))
  exact rangeShown_eq_none.mpr (h.timer hactive hrun)

lemma RangeWatched.step (code : DiagCode) (raw now : UInt32)
    (h : RangeWatched diag oob (clearTimeS.toNat * 1000000)) :
    (rangeLatch diag).Step (rangeShown oob) now 0 (clearTimeS.toNat * 1000000)
      (rangeLatch (updateRange diag code oob raw clearTimeS.toUInt32 now).1) := by
  unfold updateRange
  by_cases hactive : diag.isActive = true
  · by_cases hoob : oob = true
    · rw [if_pos hoob, if_pos hactive]
      exact h.ignores
    · have hfree : oob = false := Bool.not_eq_true _ ▸ hoob
      have hshown : rangeShown oob = none := rangeShown_eq_none.mpr hfree
      have hclear : (clearTimeS.toUInt32 * 1000000).toNat = clearTimeS.toNat * 1000000 := by
        have hfits := h.fits hactive hfree
        simpa using hfits
      have hsince : (if diag.inRangeSinceUs = 0 then now else diag.inRangeSinceUs) =
        (rangeLatch diag).clearing now := rfl
      simp only [if_neg hoob, if_pos hactive, hsince]
      by_cases hd : clearTimeS.toUInt32 * 1000000 ≤ now - (rangeLatch diag).clearing now
      · rw [if_pos hd]
        exact .drops _ hshown (hclear ▸ UInt32.le_iff_toNat_le.mp hd)
      · rw [if_neg hd]
        exact .recovers _ hshown
  · by_cases hoob : oob = true
    · rw [if_pos hoob, if_neg hactive]
      exact .raises () (by rw [hoob]; rfl) rfl
    · rw [if_neg hoob, if_neg hactive]
      exact h.ignores

/-- A sensor update puts both diagnostics through the range check, or stops the firmware. -/
lemma diag_sensorNext (e : EcuState) (x : RangeSample) :
    ((sensorNext e x).diagMap = e.diagMap ∧ (sensorNext e x).diagTps = e.diagTps) ∨
      ((sensorNext e x).diagMap = (updateRange e.diagMap .mapRange x.mapOob
          x.rawMapKpaX10.toUInt32 x.limits.clearTimeS.toUInt32 (stamp x.time)).1 ∧
        (sensorNext e x).diagTps = (updateRange e.diagTps .tpsRange x.tpsOob
          x.rawTpsPercent.toUInt32 x.limits.clearTimeS.toUInt32 (stamp x.time)).1) := by
  simp only [sensorNext, processSensorUpdate]
  by_cases hcross : x.limits.mapMaxKpaX10 < x.limits.mapMinKpaX10 ∨
      x.limits.tpsMaxPercent < x.limits.tpsMinPercent
  · simp only [if_pos hcross]
    exact .inl (by simp)
  · simp only [if_neg hcross]
    exact .inr ⟨rfl, rfl⟩

lemma mapStep_next (h : RangeWatched e.diagMap x.mapOob x.clearTimeUs) :
    (rangeLatch e.diagMap).Step (rangeShown x.mapOob) (stamp x.time) 0 x.clearTimeUs
      (rangeLatch (sensorNext e x).diagMap) := by
  rcases diag_sensorNext e x with ⟨hmap, -⟩ | ⟨hmap, -⟩
  · rw [hmap]
    exact h.ignores
  · rw [hmap]
    exact RangeWatched.step _ _ _ h

lemma tpsStep_next (h : RangeWatched e.diagTps x.tpsOob x.clearTimeUs) :
    (rangeLatch e.diagTps).Step (rangeShown x.tpsOob) (stamp x.time) 0 x.clearTimeUs
      (rangeLatch (sensorNext e x).diagTps) := by
  rcases diag_sensorNext e x with ⟨-, htps⟩ | ⟨-, htps⟩
  · rw [htps]
    exact h.ignores
  · rw [htps]
    exact RangeWatched.step _ _ _ h

end range

/-! ### Whole histories -/

/-- Both range diagnostics are watched. -/
structure RangesWatched (r : Recorded EcuState RangeSample) (x : RangeSample) : Prop where
  map : RangeWatched r.state.diagMap x.mapOob x.clearTimeUs
  tps : RangeWatched r.state.diagTps x.tpsOob x.clearTimeUs

instance (r : Recorded EcuState RangeSample) (x : RangeSample) : Decidable (RangesWatched r x) :=
  decidable_of_iff (_ ∧ _) ⟨fun h => ⟨h.1, h.2⟩, fun h => ⟨h.1, h.2⟩⟩

/-- A range diagnostic is dropped only after the sensor was in range for the clear time. -/
def InRangeEvidence (diag : EcuState → DiagState) (oob : RangeSample → Bool)
    (r : Recorded EcuState RangeSample) (x : RangeSample) : Prop :=
  (diag r.state).isActive = true → (diag (sensorNext r.state x)).isActive = false →
    HeldFor time (fun y _ => oob y = false) x.clearTimeUs x r.past

/-- What holds of a latch with the shape of a range diagnostic, in the diagnostic's own terms. -/
lemma inRangeEvidence_of_onEvidence {diag : EcuState → DiagState} {oob : RangeSample → Bool}
    {r : Recorded EcuState RangeSample} {x : RangeSample}
    (h : OnEvidence time (fun y => rangeShown (oob y)) (fun _ => 0)
      clearTimeUs sensorNext (fun e => (rangeLatch (diag e)).confirmed) r x) :
    InRangeEvidence diag oob r x := by
  intro hactive hfree
  have hconf : (rangeLatch (diag r.state)).confirmed ≠ none := fun hnone => by
    rw [rangeShown_eq_none.mp hnone] at hactive
    cases hactive
  obtain ⟨t, hsince, ht⟩ := h.drops hconf (rangeShown_eq_none.mpr hfree)
  exact ⟨t, hsince.mono fun y _ => rangeShown_eq_none.mp, ht⟩

/-- **Debounced faults.** In every history of checks in order whose running timers miss nothing: a
plausibility fault or a load failure is confirmed only after it was there on every check for the
debounce time, and a plausibility fault, a load failure and a range fault of either sensor are
cleared only after they were absent on every check for the clear time. -/
theorem faults_on_evidence {ps : List PlausibilitySample} {ls : List LoadSample}
    {rs : List RangeSample} (hps : ps.Pairwise fun x y => x.time ≤ y.time)
    (hls : ls.Pairwise fun x y => x.time ≤ y.time) (hrs : rs.Pairwise fun x y => x.time ≤ y.time)
    (hp : Along (step next) PlausibilityWatched (.start .new) ps)
    (hl : Along (step loadNext) LoadWatched (.start .new) ls)
    (hr : Along (step sensorNext) RangesWatched (.start .new) rs) :
    Along (step next)
        (OnEvidence PlausibilitySample.time (fun x => x.fault.shown)
          (fun x => x.config.debounceTimeUs.toNat) (fun x => x.config.debounceTimeUs.toNat)
          next confirmed) (.start .new) ps ∧
      Along (step loadNext)
        (OnEvidence LoadSample.time LoadSample.fault (fun x => x.config.debounceTimeUs.toNat)
          (fun x => x.config.recoveryTimeUs.toNat) loadNext loadConfirmed) (.start .new) ls ∧
      Along (step sensorNext) (InRangeEvidence diagMap mapOob)
        (.start .new) rs ∧
      Along (step sensorNext) (InRangeEvidence diagTps tpsOob)
        (.start .new) rs := by
  refine ⟨?_, ?_, ?_, ?_⟩
  · exact along_onEvidence latch (fun r x h => step_next h) rfl rfl
      hps hp
  · exact along_onEvidence loadLatch (fun r x h => loadStep_next h) rfl rfl hls hl
  · have h := along_onEvidence (fun e => rangeLatch e.diagMap)
      (fun r x (h : RangesWatched r x) => mapStep_next h.map) rfl rfl hrs hr
    exact along_mono (fun _ _ => inRangeEvidence_of_onEvidence) h
  · have h := along_onEvidence (fun e => rangeLatch e.diagTps)
      (fun r x (h : RangesWatched r x) => tpsStep_next h.tps) rfl rfl hrs hr
    exact along_mono (fun _ _ => inRangeEvidence_of_onEvidence) h

/-- A stuck throttle that is confirmed and goes away, a pressure sensor lost at high speed and found
again, and a pressure out of range for a moment. -/
theorem faults_on_evidence_transient :
    Along (step next)
        (OnEvidence PlausibilitySample.time (fun x => x.fault.shown)
          (fun x => x.config.debounceTimeUs.toNat) (fun x => x.config.debounceTimeUs.toNat)
          next confirmed) (.start .new)
        [⟨90, 200, 3000, .default, 0⟩, ⟨90, 200, 3000, .default, 500000⟩,
          ⟨50, 600, 3000, .default, 600000⟩, ⟨50, 600, 3000, .default, 1100000⟩] ∧
      Along (step loadNext)
        (OnEvidence LoadSample.time LoadSample.fault (fun x => x.config.debounceTimeUs.toNat)
          (fun x => x.config.recoveryTimeUs.toNat) loadNext loadConfirmed) (.start .new)
        [⟨true, 5000, .default, 0⟩, ⟨true, 5000, .default, 100000⟩,
          ⟨false, 2500, .default, 200000⟩, ⟨false, 2500, .default, 2200000⟩] ∧
      Along (step sensorNext) (InRangeEvidence diagMap mapOob)
        (.start .new) [⟨50, 20, .default, 1000000⟩, ⟨800, 20, .default, 2000000⟩,
          ⟨800, 20, .default, 5000000⟩] ∧
      Along (step sensorNext) (InRangeEvidence diagTps tpsOob)
        (.start .new) [⟨50, 20, .default, 1000000⟩, ⟨800, 20, .default, 2000000⟩,
          ⟨800, 20, .default, 5000000⟩] :=
  faults_on_evidence (by decide +kernel) (by decide +kernel) (by decide +kernel)
    (by decide +kernel) (by decide +kernel) (by decide +kernel)

/-- The pressure leaves the range again a second after it came back, and the fault is cleared two
seconds later, by the first sample in range. -/
theorem out_of_range_keeps_timer :
    ¬ Along (step sensorNext) (InRangeEvidence diagMap mapOob)
      (.start .new) [⟨50, 20, .default, 1000000⟩, ⟨800, 20, .default, 2000000⟩,
        ⟨50, 20, .default, 3000000⟩, ⟨800, 20, .default, 5000000⟩] := by
  intro h
  obtain ⟨-, -, -, hlast, -⟩ := h
  obtain ⟨t, hsince, ht⟩ := hlast (by decide +kernel) (by decide +kernel)
  rcases hsince.cases_cons with hnow | hbefore
  · -- the stretch in range begins with the sample that clears the fault
    rw [← hnow] at ht
    exact absurd ht (by decide)
  · exact absurd hbefore.head (by decide)

end Pipoco.SensorFaults
