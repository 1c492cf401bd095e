import Pipoco.Domain

/-!
The rev limiter of the compatibility layer.

It switches on at a speed that depends on its strategy, and off again below that speed by a
hysteresis. Injection only looks at the share of fuel that is cut: a half is as good as all of it.
-/

namespace Pipoco.RevLimiter

open Domain

variable (rpm : Rpm)

inductive LimiterStrategy
  | hardCut
  | softCut
  | ignitionRetard
  | combined
  deriving DecidableEq, Repr

structure RevLimiterConfig where
  (maxRpm softLimitStartRpm : Rpm)
  strategy : LimiterStrategy
  cutCylinders : UInt8
  retardAmount : Int16
  hysteresisRpm : UInt16
  deriving DecidableEq

def RevLimiterConfig.default : RevLimiterConfig where
  maxRpm := 7000
  softLimitStartRpm := 6500
  strategy := .softCut
  cutCylinders := 2
  retardAmount := 15
  hysteresisRpm := 200

def RevLimiterConfig.race : RevLimiterConfig where
  maxRpm := 8000
  softLimitStartRpm := 7800
  strategy := .hardCut
  cutCylinders := 4
  retardAmount := 0
  hysteresisRpm := 200

structure RevLimiterState where
  active : Bool
  fuelCutPercent : UInt8
  ignitionRetard : Int16
  cutCounter : UInt8
  deriving DecidableEq

def RevLimiterState.new : RevLimiterState := ⟨false, 0, 0, 0⟩

def RevLimiterState.reset (_ : RevLimiterState) : RevLimiterState := .new

variable (config : RevLimiterConfig) (state : RevLimiterState)

def applyHardCut : RevLimiterState :=
  { state with
    fuelCutPercent := UInt8.ofNat (min (config.cutCylinders.toNat * 100 / 4) 100)
    ignitionRetard := 0
    cutCounter := state.cutCounter + 1 }

/-- How far the speed is between the soft limit and the limit, in percent. -/
def percentAbove : UInt8 :=
  UInt8.ofNat ((rpm - config.softLimitStartRpm).toNat * 100 /
    (config.maxRpm - config.softLimitStartRpm).toNat)

def applySoftCut : RevLimiterState :=
  if rpm < config.softLimitStartRpm then { state with fuelCutPercent := 0, ignitionRetard := 0 }
  else if config.maxRpm ≤ rpm then { state with fuelCutPercent := 100, ignitionRetard := 0 }
  else { state with fuelCutPercent := min (percentAbove rpm config) 100, ignitionRetard := 0 }

def applyIgnitionRetard : RevLimiterState :=
  { state with fuelCutPercent := 0, ignitionRetard := config.retardAmount }

def applyCombined : RevLimiterState :=
  if rpm < config.softLimitStartRpm then { state with fuelCutPercent := 0, ignitionRetard := 0 }
  else if config.maxRpm ≤ rpm then
    { state with ignitionRetard := config.retardAmount, fuelCutPercent := 50 }
  else
    { state with
      ignitionRetard := Int16.ofInt
        ((config.retardAmount.toInt * (percentAbove rpm config).toNat).tdiv 100)
      fuelCutPercent := 0 }

def activationRpm : Rpm :=
  match config.strategy with
  | .softCut | .combined => config.softLimitStartRpm
  | .hardCut | .ignitionRetard => config.maxRpm

def updateLimiter : RevLimiterState :=
  let deactivationRpm := satSub16 (activationRpm config) config.hysteresisRpm
  if state.active && rpm < deactivationRpm then state.reset
  else if !(activationRpm config ≤ rpm) && !state.active then state.reset
  else
    let active := { state with active := true }
    match config.strategy with
    | .hardCut => applyHardCut config active
    | .softCut => applySoftCut rpm config active
    | .ignitionRetard => applyIgnitionRetard config active
    | .combined => applyCombined rpm config active

def shouldInject (_cylinder : UInt8) : Bool :=
  if !state.active then true
  else if state.fuelCutPercent ≥ 100 then false
  else if state.fuelCutPercent = 0 then true
  else state.fuelCutPercent < 50

/-! ### When the limiter cuts the fuel -/

/-- The limiter cuts all fuel at its limit. -/
def CutsAll : Prop :=
  config.strategy = .hardCut ∧ 4 ≤ config.cutCylinders ∨ config.strategy = .softCut
  deriving Decidable

/-- The speeds at which an update leaves the fuel cut: from the limit on, or within the hysteresis
of a limiter that was on; with a soft cut, from half way between the soft limit and the limit. -/
def CutsFuel (rpm : Rpm) (wasActive : Bool) : Prop :=
  match config.strategy with
  | .hardCut => config.maxRpm ≤ rpm ∨
      wasActive = true ∧ config.maxRpm.toNat ≤ rpm.toNat + config.hysteresisRpm.toNat
  | .softCut => config.softLimitStartRpm ≤ rpm ∧ (config.maxRpm ≤ rpm ∨
      config.maxRpm.toNat + config.softLimitStartRpm.toNat ≤ 2 * rpm.toNat)
  | _ => False

instance (rpm : Rpm) (wasActive : Bool) : Decidable (CutsFuel config rpm wasActive) := by
  unfold CutsFuel; split <;> infer_instance

lemma shouldInject_eq_false_iff (cylinder : UInt8) :
    shouldInject state cylinder = false ↔ state.active = true ∧ 50 ≤ state.fuelCutPercent := by
  have h0 : (0 : UInt8).toNat = 0 := rfl
  have h50 : (50 : UInt8).toNat = 50 := rfl
  have h100 : (100 : UInt8).toNat = 100 := rfl
  unfold shouldInject
  rcases state.active
  · simp
  · simp only [Bool.not_true, Bool.false_eq_true, if_false, true_and, ge_iff_le,
      UInt8.le_iff_toNat_le, h50, h100]
    split_ifs with h1 h2
    · simp only [true_iff]; omega
    · simp only [false_iff, h2, h0]; omega
    · simp only [decide_eq_false_iff_not, UInt8.lt_iff_toNat_lt, h50]; omega

variable {config}

/-- Between the soft limit and the limit, half of the fuel is cut from half way on. -/
lemma fifty_le_percentAbove_iff {rpm : Rpm} (hlow : config.softLimitStartRpm.toNat ≤ rpm.toNat)
    (hhigh : rpm.toNat < config.maxRpm.toNat) :
    50 ≤ min (percentAbove rpm config) 100 ↔
      config.maxRpm.toNat + config.softLimitStartRpm.toNat ≤ 2 * rpm.toNat := by
  have habove : (rpm - config.softLimitStartRpm).toNat =
      rpm.toNat - config.softLimitStartRpm.toNat :=
    UInt16.toNat_sub_of_le _ _ (UInt16.le_iff_toNat_le.mpr hlow)
  have hrange : (config.maxRpm - config.softLimitStartRpm).toNat =
      config.maxRpm.toNat - config.softLimitStartRpm.toNat :=
    UInt16.toNat_sub_of_le _ _ (UInt16.le_iff_toNat_le.mpr (by omega))
  have hpos : 0 < config.maxRpm.toNat - config.softLimitStartRpm.toNat := by omega
  have hlt : (rpm.toNat - config.softLimitStartRpm.toNat) * 100 /
      (config.maxRpm.toNat - config.softLimitStartRpm.toNat) < 100 := by
    rw [Nat.div_lt_iff_lt_mul hpos]
    omega
  have hpercent : (percentAbove rpm config).toNat =
      (rpm.toNat - config.softLimitStartRpm.toNat) * 100 /
        (config.maxRpm.toNat - config.softLimitStartRpm.toNat) := by
    rw [percentAbove, habove, hrange, UInt8.toNat_ofNat_of_lt']
    exact hlt.trans (by decide)
  have h100 : ¬ (100 : UInt8) ≤ percentAbove rpm config := by
    rw [UInt8.le_iff_toNat_le, hpercent]
    exact not_le.mpr hlt
  have hmin : min (percentAbove rpm config) 100 = percentAbove rpm config := by
    rw [UInt8.min_def, if_pos]
    exact UInt8.le_of_lt (UInt8.not_le.mp h100)
  have h50 : (50 : UInt8).toNat = 50 := rfl
  rw [hmin, UInt8.le_iff_toNat_le, hpercent, h50, Nat.le_div_iff_mul_le hpos]
  omega

/-- **One update.** With all fuel cut at the limit, an update leaves injection off exactly at the
speeds of `CutsFuel`. -/
theorem shouldInject_updateLimiter_iff (h : CutsAll config) (rpm : Rpm) (state : RevLimiterState)
    (cylinder : UInt8) :
    shouldInject (updateLimiter rpm config state) cylinder = false ↔
      CutsFuel config rpm state.active := by
  rw [shouldInject_eq_false_iff]
  have hoff : ¬ (RevLimiterState.new.active = true ∧
      50 ≤ RevLimiterState.new.fuelCutPercent) := by decide
  rcases h with ⟨hstrategy, hall⟩ | hstrategy
  · have hact : activationRpm config = config.maxRpm := by simp only [activationRpm, hstrategy]
    have hfull : (50 : UInt8) ≤ (applyHardCut config { state with active := true }).fuelCutPercent := by
      have h4 : 4 ≤ config.cutCylinders.toNat := UInt8.le_iff_toNat_le.mp hall
      have hmin : min (config.cutCylinders.toNat * 100 / 4) 100 = 100 := by omega
      show (50 : UInt8) ≤ UInt8.ofNat (min (config.cutCylinders.toNat * 100 / 4) 100)
      rw [hmin]
      decide
    simp only [updateLimiter, hact, CutsFuel, hstrategy, Bool.and_eq_true, decide_eq_true_eq,
      Bool.not_eq_true', decide_eq_false_iff_not, UInt16.lt_iff_toNat_lt, UInt16.le_iff_toNat_le,
      toNat_satSub16]
    split_ifs with h1 h2
    · refine iff_of_false hoff ?_
      omega
    · refine iff_of_false hoff ?_
      rintro (hle | ⟨hactive, -⟩)
      · exact h2.1 hle
      · rw [h2.2] at hactive
        cases hactive
    · refine iff_of_true ⟨rfl, hfull⟩ ?_
      rcases hactive : state.active
      · exact .inl (not_not.mp fun hlt => h2 ⟨hlt, hactive⟩)
      · refine .inr ⟨rfl, ?_⟩
        have hge := Nat.not_lt.mp fun hlt => h1 ⟨hactive, hlt⟩
        omega
  · have hact : activationRpm config = config.softLimitStartRpm := by
      simp only [activationRpm, hstrategy]
    simp only [updateLimiter, hact, CutsFuel, hstrategy, Bool.and_eq_true, decide_eq_true_eq,
      Bool.not_eq_true', decide_eq_false_iff_not]
    have hoff' : ¬ config.softLimitStartRpm ≤ rpm → ¬ (config.softLimitStartRpm ≤ rpm ∧
        (config.maxRpm ≤ rpm ∨
          config.maxRpm.toNat + config.softLimitStartRpm.toNat ≤ 2 * rpm.toNat)) :=
      fun hlt hcut => hlt hcut.1
    split_ifs with h1 h2
    · refine iff_of_false hoff (hoff' ?_)
      have hlt := UInt16.lt_iff_toNat_lt.mp h1.2
      rw [toNat_satSub16] at hlt
      rw [UInt16.le_iff_toNat_le]
      omega
    · exact iff_of_false hoff (hoff' h2.1)
    · unfold applySoftCut
      split_ifs with hlow hhigh
      · exact iff_of_false (fun hcut => absurd hcut.2 (show ¬ (50 : UInt8) ≤ 0 by decide))
          (hoff' (UInt16.not_le.mpr hlow))
      · exact iff_of_true ⟨rfl, show (50 : UInt8) ≤ 100 by decide⟩ ⟨UInt16.not_lt.mp hlow, .inl hhigh⟩
      · have hlow' : config.softLimitStartRpm ≤ rpm := UInt16.not_lt.mp hlow
        have hhigh' : rpm < config.maxRpm := UInt16.not_le.mp hhigh
        have hhalf := fifty_le_percentAbove_iff (UInt16.le_iff_toNat_le.mp hlow')
          (UInt16.lt_iff_toNat_lt.mp hhigh')
        simp only [true_and, hhalf, hlow', hhigh, false_or]

end Pipoco.RevLimiter
