import Pipoco.TrigEdges

/-!
The crank angle between two edges.

The decoder extrapolates from the last edge at the speed of the last tooth. The extrapolated
angle is computed in 64 bits and added in 32: it is exact up to the time at which the sum leaves
the signed range, and from then on the angle jumps.
-/

namespace Pipoco.TrigDecoder

open Domain Runs TrigCoherence

/-! ### Angles of one engine cycle -/

/-- A truncated remainder, moved up when it is negative, is the remainder of the division. -/
lemma tmod_lift (x : ℤ) :
    (if x.tmod 7200 < 0 then x.tmod 7200 + 7200 else x.tmod 7200) = x % 7200 := by
  rw [Int.tmod_eq_emod]
  split_ifs <;> omega

lemma toInt_normalizeEngineCycleDeg10 (angle : Degrees10) :
    (normalizeEngineCycleDeg10 angle).toInt = angle.toInt % 7200 := by
  have hcycle : engineCycleDegrees10.toInt = 7200 := rfl
  have hzero : (0 : Int16).toInt = 0 := rfl
  have hmod : (angle % engineCycleDegrees10).toInt = angle.toInt.tmod 7200 := by
    rw [Int16.toInt_mod, hcycle]
  rw [← tmod_lift, ← hmod]
  unfold normalizeEngineCycleDeg10
  have hlow : -7200 < angle.toInt.tmod 7200 := Int.lt_tmod_of_pos _ (by decide)
  simp only [Int16.lt_iff_toInt_lt, hzero]
  split_ifs with hneg
  · rw [Int16.toInt_add, hcycle]
    exact Int.bmod_eq_of_le (by omega) (by omega)
  · rfl

lemma toInt_normalizeEngineCycleDeg10I32 (angle : Int32) :
    (normalizeEngineCycleDeg10I32 angle).toInt = angle.toInt % 7200 := by
  have hcycle : (7200 : Int32).toInt = 7200 := rfl
  have hzero : (0 : Int32).toInt = 0 := rfl
  have hmod : (angle % 7200).toInt = angle.toInt.tmod 7200 := by
    rw [Int32.toInt_mod, hcycle]
  have hlow : -7200 < angle.toInt.tmod 7200 := Int.lt_tmod_of_pos _ (by decide)
  have hhigh : angle.toInt.tmod 7200 < 7200 := Int.tmod_lt_of_pos _ (by decide)
  rw [← tmod_lift, ← hmod]
  unfold normalizeEngineCycleDeg10I32
  simp only [Int32.lt_iff_toInt_lt, hzero]
  split_ifs with hneg
  · have hsum : (angle % 7200 + 7200).toInt = (angle % 7200).toInt + 7200 := by
      rw [Int32.toInt_add, hcycle]
      exact Int.bmod_eq_of_le (by omega) (by omega)
    rw [Int32.toInt_toInt16, hsum]
    exact Int.bmod_eq_of_le (by omega) (by omega)
  · rw [Int32.toInt_toInt16]
    exact Int.bmod_eq_of_le (by omega) (by omega)

/-! ### The sum -/

namespace MissingToothDecoder

variable (d : MissingToothDecoder) (angle : Degrees10) (timestamp : Ticks)

/-- The ticks since the last edge, on the wrapping counter. -/
def elapsed : ℕ :=
  match d.lastEdgeTimestamp with
  | some last => (elapsedTicks timestamp last).toNat
  | none => 0

/-- The angle of the tooth the decoder stands at, counted from the first. -/
def toothOffset : ℕ := (d.currentTooth.toNat - 1) * d.toothAngleDeg10

/-- The angle of the first tooth, brought into one engine cycle. -/
def startAngle : ℕ := (angle.toInt % 7200).toNat

/-- The angle is that of the first tooth, plus a tooth angle for every tooth since, plus the whole
part of what the last tooth's speed adds; it lies in one cycle, and no step of the sum leaves its
type. -/
def ExactAngle : Prop :=
  ∃ (added : ℕ) (result : Degrees10),
    (added * d.lastNormalInterval.toNat ≤ d.elapsed timestamp * d.toothAngleDeg10 ∧
      d.elapsed timestamp * d.toothAngleDeg10 < (added + 1) * d.lastNormalInterval.toNat) ∧
    d.crankAngleAt timestamp = some result ∧
    result.toInt = (angle.toInt + d.toothOffset + added) % 7200 ∧
    (0 ≤ result.toInt ∧ result.toInt < 7200) ∧
    (d.elapsed timestamp * d.toothAngleDeg10 < 2 ^ 64 ∧ d.toothOffset < 2 ^ 31 ∧ added < 2 ^ 31 ∧
      startAngle angle + d.toothOffset < 2 ^ 31 ∧
      startAngle angle + d.toothOffset + added < 2 ^ 31)

variable {d} {angle : Degrees10} {timestamp : Ticks}

variable (angle)

lemma cast_startAngle : (startAngle angle : ℤ) = angle.toInt % 7200 :=
  Int.toNat_of_nonneg (Int.emod_nonneg _ (by decide))

lemma startAngle_lt : startAngle angle < 7200 := by
  have hcast := cast_startAngle angle
  omega

variable {angle}

variable (timestamp)

lemma crankAngleAt_eq (hl : d.primaryLocked = true) (ht : d.currentTooth ≠ 0)
    (hangle : d.config.triggerAngleAtdcDeg10.angleDeg10 = some angle) :
    d.crankAngleAt timestamp = some (normalizeEngineCycleDeg10I32
      ((normalizeEngineCycleDeg10 angle).toInt32 + Int32.ofNat d.toothOffset +
        Int32.ofNat (d.elapsed timestamp * d.toothAngleDeg10 / d.lastNormalInterval.toNat))) := by
  have hstart : d.config.triggerAngleAtdcDeg10.normalizedAngleDeg10 =
      some (normalizeEngineCycleDeg10 angle) := by
    rw [TriggerAngleAuthority.normalizedAngleDeg10, hangle, Option.map_some]
  simp only [crankAngleAt, hl, ht, hstart, Bool.not_true, decide_false, Bool.or_self,
    Bool.false_eq_true, if_false, Option.map_some, Option.some.injEq]
  refine congrArg _ (congrArg _ (congrArg _ ?_))
  unfold elapsed
  cases d.lastEdgeTimestamp with
  | none => simp
  | some last =>
    by_cases hz : d.lastNormalInterval.toNat = 0
    · simp [hz]
    · simp [Nat.pos_of_ne_zero hz]

/-- **Within the signed range the sum is exact.** -/
lemma toInt_crankAngle (angle : Degrees10) (offset added : ℕ)
    (hfit : startAngle angle + offset + added < 2 ^ 31) :
    (normalizeEngineCycleDeg10I32 ((normalizeEngineCycleDeg10 angle).toInt32 +
      Int32.ofNat offset + Int32.ofNat added)).toInt = (angle.toInt + offset + added) % 7200 := by
  have hstart : (normalizeEngineCycleDeg10 angle).toInt32.toInt = startAngle angle := by
    rw [Int16.toInt_toInt32, toInt_normalizeEngineCycleDeg10, cast_startAngle]
  have hoffset : (Int32.ofNat offset).toInt = offset := Int32.toInt_ofNat_of_lt (by omega)
  have hadded : (Int32.ofNat added).toInt = added := Int32.toInt_ofNat_of_lt (by omega)
  have hfirst : ((normalizeEngineCycleDeg10 angle).toInt32 + Int32.ofNat offset).toInt =
      startAngle angle + offset := by
    rw [Int32.toInt_add, hstart, hoffset]
    exact Int.bmod_eq_of_le (by omega) (by omega)
  have hsum : ((normalizeEngineCycleDeg10 angle).toInt32 + Int32.ofNat offset +
      Int32.ofNat added).toInt = startAngle angle + offset + added := by
    rw [Int32.toInt_add, hfirst, hadded]
    exact Int.bmod_eq_of_le (by omega) (by omega)
  rw [toInt_normalizeEngineCycleDeg10I32, hsum, cast_startAngle]
  omega

/-! ### The bounds of an accepted wheel -/

variable {config : MissingToothDecoderConfig} {d₀ : MissingToothDecoder}

/-- A tooth of an accepted wheel is between 1.4 and 30600 degrees wide. -/
lemma toothAngleDeg10_bounds (hnew : tryNew config = .ok d₀) (hconfig : d.config = config) :
    14 ≤ d.toothAngleDeg10 ∧ d.toothAngleDeg10 ≤ 306000 := by
  obtain ⟨hmissing, hlt, hobserved, hmult, -⟩ := tryNew_ok hnew
  have hpos : config.missingTeeth.toNat ≠ 0 := fun h => hmissing (UInt8.toNat.inj h)
  have hmult' : config.toothAngleMultiplier.toNat ≠ 0 := fun h => hmult (UInt8.toNat.inj h)
  have hsub := UInt8.toNat_sub_of_le _ _ (UInt8.le_of_lt hlt)
  have htwo : (2 : UInt8).toNat = 2 := rfl
  rw [UInt8.le_iff_toNat_le, hsub, htwo] at hobserved
  have hnominal := config.nominalTeeth.toNat_lt
  have hmult_lt := config.toothAngleMultiplier.toNat_lt
  have hteeth : 0 < config.nominalTeeth.toNat := by omega
  unfold toothAngleDeg10
  rw [hconfig, Nat.le_div_iff_mul_le hteeth]
  refine ⟨by omega, Nat.div_le_of_le_mul ?_⟩
  calc 3600 * config.toothAngleMultiplier.toNat ≤ 3 * 306000 := by omega
    _ ≤ config.nominalTeeth.toNat * 306000 := Nat.mul_le_mul_right _ (by omega)

lemma toothOffset_le (hnew : tryNew config = .ok d₀) (hconfig : d.config = config) :
    d.toothOffset ≤ 254 * 306000 := by
  have hangle := (toothAngleDeg10_bounds hnew hconfig).2
  have htooth := d.currentTooth.toNat_lt
  exact Nat.mul_le_mul (by omega) hangle

variable (d) in
lemma elapsed_lt : d.elapsed timestamp < 2 ^ 32 := by
  unfold elapsed
  cases d.lastEdgeTimestamp with
  | none => exact Nat.two_pow_pos 32
  | some last => exact UInt32.toNat_lt _

variable {timestamp}

end MissingToothDecoder

open MissingToothDecoder

/-- **The angle is exact while the sum fits.** In every locked state of every run of an accepted
decoder whose first tooth has a known angle, and at every timestamp, the crank angle is exact if
and only if what the last tooth's speed has added stays below what the 32-bit sum has left. -/
theorem exactAngle_iff {config : MissingToothDecoderConfig} {d₀ : MissingToothDecoder}
    (hnew : tryNew config = .ok d₀) (ops : List DecoderOp)
    (hl : (run step d₀ ops).primaryLocked = true) {angle : Degrees10}
    (hangle : config.triggerAngleAtdcDeg10.angleDeg10 = some angle) (timestamp : Ticks) :
    (run step d₀ ops).ExactAngle angle timestamp ↔
      (run step d₀ ops).elapsed timestamp * (run step d₀ ops).toothAngleDeg10 <
        (2 ^ 31 - (startAngle angle + (run step d₀ ops).toothOffset)) *
          (run step d₀ ops).lastNormalInterval.toNat := by
  have hkept := kept_run hnew ops
  generalize run step d₀ ops = d at hl hkept ⊢
  have hconfig : d.config = config := hkept.config
  have htooth : d.currentTooth ≠ 0 := fun hz => by
    have hge : 1 ≤ d.currentTooth := (hkept.tooth hl).1
    rw [hz] at hge
    exact absurd hge (by decide)
  have hoffset := toothOffset_le hnew hconfig
  have hstart := startAngle_lt angle
  have hwidth := (toothAngleDeg10_bounds hnew hconfig).2
  have helapsed := d.elapsed_lt timestamp
  have heq := crankAngleAt_eq timestamp hl htooth (hconfig ▸ hangle)
  constructor
  · rintro ⟨added, result, ⟨-, hfloor⟩, -, -, -, -, -, -, -, hfit⟩
    calc d.elapsed timestamp * d.toothAngleDeg10 < (added + 1) * d.lastNormalInterval.toNat := hfloor
      _ ≤ _ := Nat.mul_le_mul_right _ (by omega)
  · intro hlt
    have hpos : 0 < d.lastNormalInterval.toNat := by
      by_contra hz
      rw [Nat.eq_zero_of_not_pos hz, Nat.mul_zero] at hlt
      exact absurd hlt (Nat.not_lt_zero _)
    have hadded : d.elapsed timestamp * d.toothAngleDeg10 / d.lastNormalInterval.toNat <
        2 ^ 31 - (startAngle angle + d.toothOffset) :=
      Nat.div_lt_of_lt_mul (hlt.trans_eq (Nat.mul_comm _ _))
    have hproduct : d.elapsed timestamp * d.toothAngleDeg10 ≤ 2 ^ 32 * 306000 :=
      Nat.mul_le_mul helapsed.le hwidth
    have hresult := toInt_crankAngle angle d.toothOffset
      (d.elapsed timestamp * d.toothAngleDeg10 / d.lastNormalInterval.toNat) (by omega)
    refine ⟨_, _, ⟨Nat.div_mul_le_self _ _, Nat.lt_mul_of_div_lt (Nat.lt_succ_self _) hpos⟩,
      heq, hresult, ?_, by omega, by omega, by omega, by omega, by omega⟩
    rw [hresult]
    exact ⟨Int.emod_nonneg _ (by decide), Int.emod_lt_of_pos _ (by decide)⟩

/-- The 4-1 wheel with its first tooth at top dead centre. -/
def fourMinusOneAtTdc : MissingToothDecoderConfig := .new 4 1 (.expertManual 0)

theorem exactAngle_iff_halfTooth :
    let d := run step (initial fourMinusOneAtTdc 3) (risingEdges [100, 200, 300, 500, 600])
    d.currentTooth = 2 ∧ d.ExactAngle 0 650 := by
  have hnew : tryNew fourMinusOneAtTdc = .ok (initial fourMinusOneAtTdc 3) := rfl
  exact ⟨by decide +kernel, (exactAngle_iff hnew _ (by decide +kernel) rfl 650).mpr
    (by decide +kernel)⟩

/-- The gap at 500 locks, with 100 ticks to a tooth. When the last edge was `2 ^ 31` ticks ago the
exact angle is 403.2 degrees, and the decoder answers 275.2. -/
theorem late_angle_not_exact :
    let d := run step (initial fourMinusOneAtTdc 3) (risingEdges [100, 200, 300, 500])
    tryNew fourMinusOneAtTdc = .ok (initial fourMinusOneAtTdc 3) ∧ d.primaryLocked = true ∧
      (d.currentTooth = 1 ∧ d.toothAngleDeg10 = 900 ∧ d.lastNormalInterval = 100 ∧
        d.elapsed 2147484148 = 2 ^ 31) ∧
      (2 ^ 31 * 900 / 100) % 7200 = 4032 ∧ d.crankAngleAt 2147484148 = some 2752 := by
  refine ⟨rfl, ?_, ⟨?_, ?_, ?_, ?_⟩, ?_, ?_⟩ <;> decide +kernel

end Pipoco.TrigDecoder
