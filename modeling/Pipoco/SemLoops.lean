import Pipoco.SemArbiter
import Pipoco.SemTables

/-!
The closed-loop controllers of the semantic evaluator, over whole runs.

Both are the same step: a proportional and an integral part of an error, an accumulator that is
frozen or moved and clamped, an output that is clamped. Accumulator and output keep their limits
whatever the parts are. The parts themselves are computed exactly and then cut to 32 bits; the idle
error is too small for that to matter, the lambda error is not.
-/

namespace Pipoco.SemLoops

open Domain Runs SemFuel SemTables

/-! ### Sums in 32 bits -/

variable (a : Int32) (z : ℤ) (b : Int32)

def wrap32 : ℤ := (z + 2147483648) % 4294967296 - 2147483648

def Fits32 : Prop := -2147483648 ≤ z ∧ z ≤ 2147483647
  deriving Decidable

lemma wrap32_eq_iff {z : ℤ} : wrap32 z = z ↔ Fits32 z := by
  unfold wrap32 Fits32
  omega

lemma bmod_eq_wrap32 : z.bmod (2 ^ 32) = wrap32 z := by
  unfold wrap32
  rw [Int.bmod_def]
  split_ifs <;> omega

lemma toInt_ofInt32 : (Int32.ofInt z).toInt = wrap32 z := Int32.toInt_ofInt.trans (bmod_eq_wrap32 z)

lemma toInt_add32 : (a + b).toInt = wrap32 (a.toInt + b.toInt) :=
  (Int32.toInt_add a b).trans (bmod_eq_wrap32 _)

lemma toInt_sub32 : (a - b).toInt = wrap32 (a.toInt - b.toInt) :=
  (Int32.toInt_sub a b).trans (bmod_eq_wrap32 _)

lemma toInt_mul32 : (a * b).toInt = wrap32 (a.toInt * b.toInt) :=
  (Int32.toInt_mul a b).trans (bmod_eq_wrap32 _)

lemma toInt_widened (x : UInt16) : x.toUInt32.toInt32.toInt = x.toNat := by
  have hlt := x.toNat_lt
  have hdouble : 2 * x.toUInt32.toBitVec.toNat < 2 ^ 32 := by
    rw [UInt32.toNat_toBitVec, UInt16.toNat_toUInt32]
    omega
  refine (BitVec.toInt_eq_toNat_of_lt hdouble).trans ?_
  rw [UInt32.toNat_toBitVec, UInt16.toNat_toUInt32]

lemma toInt_satInt32 (v : ℤ) : (satInt32 v).toInt = max (-2147483648) (min v 2147483647) := by
  have h : wrap32 (max (-2147483648) (min v 2147483647)) = max (-2147483648) (min v 2147483647) :=
    wrap32_eq_iff.mpr ⟨by omega, by omega⟩
  unfold satInt32
  rw [toInt_ofInt32]
  exact h

lemma toInt_max32 : (max a b).toInt = max a.toInt b.toInt := by
  have hmax : max a b = if a ≤ b then b else a := rfl
  rw [hmax]
  split_ifs with h <;> rw [Int32.le_iff_toInt_le] at h <;> omega

lemma toInt_min32 : (min a b).toInt = min a.toInt b.toInt := by
  have hmin : min a b = if a ≤ b then a else b := rfl
  rw [hmin]
  split_ifs with h <;> rw [Int32.le_iff_toInt_le] at h <;> omega

/-! ### One step of a controller -/

variable (error : Int32) (gain : UInt16) (limits : PiLimits)

/-- The exact part of an error at a gain. -/
def exactTerm (error : ℤ) (gain : UInt16) : ℤ := error * gain.toNat / 1000

def term : Int32 := semanticMulDivFloorI32 error gain.toUInt32.toInt32 1000

lemma toInt_term : (term error gain).toInt = wrap32 (exactTerm error.toInt gain) := by
  have hne : (1000 : Int32) ≠ 0 := by decide
  have hden : (1000 : Int32).toInt = 1000 := by decide
  unfold term semanticMulDivFloorI32
  rw [if_neg hne, toInt_ofInt32, toInt_widened, hden, floorDiv_eq (by decide)]
  rfl

lemma toInt_term_iff {error : Int32} {gain : UInt16} :
    (term error gain).toInt = exactTerm error.toInt gain ↔ Fits32 (exactTerm error.toInt gain) := by
  rw [toInt_term, wrap32_eq_iff]

/-- Limits with room to spare in 32 bits. -/
structure Proper (limits : PiLimits) : Prop where
  minAcc : -100000 ≤ limits.minAcc.toInt
  maxAcc : limits.maxAcc.toInt ≤ 100000
  out : limits.minOut.toNat ≤ limits.maxOut.toNat

lemma proper_lambda : Proper lambdaLimits := ⟨by decide, by decide, by decide⟩

lemma proper_idle : Proper idleLimits := ⟨by decide, by decide, by decide⟩

def InLimits (acc : Int32) : Prop :=
  limits.minAcc.toInt ≤ acc.toInt ∧ acc.toInt ≤ limits.maxAcc.toInt

/-- A controller keeps its limits and leaves a frozen accumulator alone. -/
structure Bounded (limits : PiLimits) (acc : Int32)
    (result : UInt16 × RuntimeSemanticPiIntegratorState) : Prop where
  inLimits : InLimits limits result.2.acc
  out : limits.minOut.toNat ≤ result.1.toNat ∧ result.1.toNat ≤ limits.maxOut.toNat
  frozen : result.2.frozen = true → result.2.acc = acc

/-- A controller does not wind up and computes its parts exactly. -/
structure Exact (limits : PiLimits) (base : ℤ) (error : Int32) (kp ki : UInt16) (acc : Int32)
    (result : UInt16 × RuntimeSemanticPiIntegratorState) : Prop where
  /-- The output is at its lower limit: the accumulator does not go down. -/
  low : base + exactTerm error.toInt kp + acc.toInt ≤ limits.minOut.toNat →
    acc.toInt ≤ result.2.acc.toInt
  /-- The output is at its upper limit: the accumulator does not go up. -/
  high : limits.maxOut.toNat ≤ base + exactTerm error.toInt kp + acc.toInt →
    result.2.acc.toInt ≤ acc.toInt
  proportional : (term error kp).toInt = exactTerm error.toInt kp
  integral : (term error ki).toInt = exactTerm error.toInt ki

section Step

variable {limits : PiLimits} {base error : Int32} {kp ki : UInt16} {gate : Bool} {acc : Int32}

def outPre (base error : Int32) (kp : UInt16) (acc : Int32) : Int32 := base + term error kp + acc

def freezes (limits : PiLimits) (base error : Int32) (kp ki : UInt16) (gate : Bool) (acc : Int32) :
    Bool :=
  gate || ((outPre base error kp acc ≤ limits.minOut.toUInt32.toInt32 && term error ki < 0) ||
    (outPre base error kp acc ≥ limits.maxOut.toUInt32.toInt32 && term error ki > 0))

lemma acc_piStep : (piStep limits base error kp ki gate acc).2.acc =
    if freezes limits base error kp ki gate acc then acc
    else max limits.minAcc (min (satInt32 (acc.toInt + (term error ki).toInt)) limits.maxAcc) := rfl

lemma toInt_acc_piStep (hlim : Proper limits) :
    (piStep limits base error kp ki gate acc).2.acc.toInt =
      if freezes limits base error kp ki gate acc then acc.toInt
      else max limits.minAcc.toInt (min (acc.toInt + (term error ki).toInt) limits.maxAcc.toInt) := by
  have hmin := hlim.minAcc
  have hmax := hlim.maxAcc
  rw [acc_piStep]
  split_ifs
  · rfl
  · rw [toInt_max32, toInt_min32, toInt_satInt32]
    omega

/-- Limits are kept and a frozen accumulator stays, whatever the parts are. -/
lemma piStep_bounded (hlim : Proper limits) (hacc : InLimits limits acc) :
    Bounded limits acc (piStep limits base error kp ki gate acc) := by
  have hle := hacc.1.trans hacc.2
  refine ⟨?_, ?_, ?_⟩
  · unfold InLimits
    rw [toInt_acc_piStep hlim]
    split_ifs
    · exact hacc
    · omega
  · have hout := toNat_clampU16 hlim.out (semanticI32ToU16Saturating (base + term error kp +
      (piStep limits base error kp ki gate acc).2.acc))
    have hclamp : (piStep limits base error kp ki gate acc).1 =
        clampU16 (semanticI32ToU16Saturating (base + term error kp +
          (piStep limits base error kp ki gate acc).2.acc)) limits.minOut limits.maxOut := rfl
    have := hlim.out
    rw [hclamp, hout]
    omega
  · intro hfrozen
    exact (acc_piStep ..).trans (if_pos hfrozen)

def exactPre (base error : Int32) (kp : UInt16) (acc : Int32) : ℤ :=
  base.toInt + exactTerm error.toInt kp + acc.toInt

lemma toInt_outPre : (outPre base error kp acc).toInt = wrap32 (exactPre base error kp acc) := by
  unfold outPre exactPre
  rw [toInt_add32, toInt_add32, toInt_term]
  unfold wrap32
  omega

lemma freezes_iff : freezes limits base error kp ki gate acc = true ↔ gate = true ∨
    ((outPre base error kp acc).toInt ≤ limits.minOut.toNat ∧ (term error ki).toInt < 0) ∨
    ((limits.maxOut.toNat : ℤ) ≤ (outPre base error kp acc).toInt ∧ 0 < (term error ki).toInt) := by
  have hzero : (0 : Int32).toInt = 0 := by decide
  simp only [freezes, Bool.or_eq_true, Bool.and_eq_true, decide_eq_true_eq, ge_iff_le, gt_iff_lt,
    Int32.le_iff_toInt_le, Int32.lt_iff_toInt_lt, toInt_widened, hzero]

/-- The parts of an error have its sign. -/
lemma exactTerm_nonneg {e : ℤ} {gain : UInt16} (h : 0 < exactTerm e gain) (gain' : UInt16) :
    0 ≤ exactTerm e gain' := by
  have hpos : 0 ≤ e := by
    by_contra hneg
    have hle : e * gain.toNat ≤ 0 :=
      mul_nonpos_of_nonpos_of_nonneg (by omega) (Int.natCast_nonneg _)
    unfold exactTerm at h
    omega
  have hmul : 0 ≤ e * gain'.toNat := mul_nonneg hpos (Int.natCast_nonneg _)
  unfold exactTerm
  omega

section Windup

variable (hlim : Proper limits) (hacc : InLimits limits acc)
  (hbase : 0 ≤ base.toInt ∧ base.toInt ≤ 65535) (hkp : -1073741824 ≤ exactTerm error.toInt kp)
  (hki : Fits32 (exactTerm error.toInt ki))
include hlim hacc hbase hkp hki

/-- A sum that fits is seen as it is, and the accumulator does not go further out. -/
lemma no_windup (hfits : exactPre base error kp acc ≤ 2147483647) :
    (exactPre base error kp acc ≤ limits.minOut.toNat →
      acc.toInt ≤ (piStep limits base error kp ki gate acc).2.acc.toInt) ∧
    ((limits.maxOut.toNat : ℤ) ≤ exactPre base error kp acc →
      (piStep limits base error kp ki gate acc).2.acc.toInt ≤ acc.toInt) := by
  have hmin := hlim.minAcc
  obtain ⟨haccLow, haccHigh⟩ := hacc
  have hlow : -2147483648 ≤ exactPre base error kp acc := by
    unfold exactPre
    omega
  have hfreeze : freezes limits base error kp ki gate acc = true ↔ _ := freezes_iff
  rw [toInt_outPre, wrap32_eq_iff.mpr ⟨hlow, hfits⟩, toInt_term_iff.mpr hki] at hfreeze
  rw [toInt_acc_piStep hlim, toInt_term_iff.mpr hki]
  split_ifs with hfrozen
  · exact ⟨fun _ => le_rfl, fun _ => le_rfl⟩
  · rw [hfreeze] at hfrozen
    push Not at hfrozen
    exact ⟨fun hat => by omega, fun hat => by omega⟩

/-- A sum that is too large is seen as a negative one: only the gate freezes the step. -/
lemma windup_iff (hfits : Fits32 (exactTerm error.toInt kp))
    (hover : ¬ exactPre base error kp acc ≤ 2147483647) :
    (piStep limits base error kp ki gate acc).2.acc.toInt ≤ acc.toInt ↔
      gate = true ∨ exactTerm error.toInt ki = 0 ∨ acc.toInt = limits.maxAcc.toInt := by
  have hmax := hlim.maxAcc
  obtain ⟨haccLow, haccHigh⟩ := hacc
  obtain ⟨-, hfitsHigh⟩ := hfits
  -- the wrapped sum is below the upper limit, and an error that large is positive
  have hwrapped : wrap32 (exactPre base error kp acc) < 0 := by
    unfold exactPre at hover ⊢
    unfold wrap32
    omega
  have hrising : 0 ≤ exactTerm error.toInt ki := by
    unfold exactPre at hover
    have hpos : 0 < exactTerm error.toInt kp := by omega
    exact exactTerm_nonneg hpos ki
  have hfreeze : freezes limits base error kp ki gate acc = gate := by
    rw [Bool.eq_iff_iff, freezes_iff, toInt_outPre, toInt_term_iff.mpr hki]
    constructor
    · rintro (hgate | ⟨-, hneg⟩ | ⟨hhigh, -⟩)
      · exact hgate
      · omega
      · omega
    · exact Or.inl
  rw [toInt_acc_piStep hlim, toInt_term_iff.mpr hki, hfreeze]
  split_ifs with hgate
  · simp [hgate]
  · simp only [hgate, Bool.false_eq_true, false_or]
    omega

end Windup

/-- **A controller is exact if its parts fit in 32 bits and, should their sum not fit, the accumulator
has no way to go up.** -/
lemma exact_piStep_iff (hlim : Proper limits) (hacc : InLimits limits acc)
    (hbase : 0 ≤ base.toInt ∧ base.toInt ≤ 65535)
    (hkp : -1073741824 ≤ exactTerm error.toInt kp) :
    Exact limits base.toInt error kp ki acc (piStep limits base error kp ki gate acc) ↔
      Fits32 (exactTerm error.toInt kp) ∧ Fits32 (exactTerm error.toInt ki) ∧
        (exactPre base error kp acc ≤ 2147483647 ∨ gate = true ∨ exactTerm error.toInt ki = 0 ∨
          acc.toInt = limits.maxAcc.toInt) := by
  have hpre : base.toInt + exactTerm error.toInt kp + acc.toInt = exactPre base error kp acc := rfl
  constructor
  · intro h
    have hfitsP := toInt_term_iff.mp h.proportional
    have hfitsI := toInt_term_iff.mp h.integral
    refine ⟨hfitsP, hfitsI, or_iff_not_imp_left.mpr fun hover => ?_⟩
    have hmaxOut := limits.maxOut.toNat_lt
    exact (windup_iff hlim hacc hbase hkp hfitsI hfitsP hover).mp
      (h.high (by rw [hpre]; omega))
  · rintro ⟨hfitsP, hfitsI, hsum⟩
    by_cases hfits : exactPre base error kp acc ≤ 2147483647
    · obtain ⟨hlow, hhigh⟩ := no_windup hlim hacc hbase hkp hfitsI hfits
      exact ⟨hlow, hhigh, toInt_term_iff.mpr hfitsP, toInt_term_iff.mpr hfitsI⟩
    · have hdown := (windup_iff hlim hacc hbase hkp hfitsI hfitsP hfits).mpr
        (hsum.resolve_left hfits)
      have hminOut := limits.minOut.toNat_lt
      refine ⟨fun hat => ?_, fun _ => hdown, toInt_term_iff.mpr hfitsP, toInt_term_iff.mpr hfitsI⟩
      omega

end Step

/-! ### The errors -/

lemma exactTerm_ge {e B : ℤ} (hB : 0 ≤ B) (h : -B ≤ e) (gain : UInt16) :
    -(66 * B) ≤ exactTerm e gain := by
  have hgain := gain.toNat_lt
  have hmul : -B * gain.toNat ≤ e * gain.toNat :=
    mul_le_mul_of_nonneg_right h (Int.natCast_nonneg _)
  have hcap : B * gain.toNat ≤ B * 65536 := mul_le_mul_of_nonneg_left (by omega) hB
  unfold exactTerm
  rw [neg_mul] at hmul
  omega

lemma exactTerm_le {e B : ℤ} (hB : 0 ≤ B) (h : e ≤ B) (gain : UInt16) :
    exactTerm e gain ≤ 66 * B := by
  have hgain := gain.toNat_lt
  have hmul : e * gain.toNat ≤ B * gain.toNat := mul_le_mul_of_nonneg_right h (Int.natCast_nonneg _)
  have hcap : B * gain.toNat ≤ B * 65536 := mul_le_mul_of_nonneg_left (by omega) hB
  unfold exactTerm
  omega

def exactError (raw : ℤ) : ℤ := if |raw| ≤ limits.deadband.toInt then 0 else raw

lemma toInt_effectiveError {limits : PiLimits} (h : limits.deadband.toInt < 2147483647)
    (raw : Int32) : (effectiveError limits raw).toInt = exactError limits raw.toInt := by
  have hzero : (0 : Int32).toInt = 0 := by decide
  have hhigh := Int32.toInt_lt raw
  have habs : (semanticAbsI32 raw).toInt = min |raw.toInt| 2147483647 := by
    unfold semanticAbsI32
    split_ifs with hneg <;> rw [Int32.lt_iff_toInt_lt, hzero] at hneg
    · rw [toInt_satInt32, abs_of_neg hneg]
      omega
    · rw [abs_of_nonneg (by omega)]
      omega
  unfold effectiveError exactError
  simp only [Int32.le_iff_toInt_le, habs]
  have hiff : min |raw.toInt| 2147483647 ≤ limits.deadband.toInt ↔
      |raw.toInt| ≤ limits.deadband.toInt := by omega
  simp only [hiff]
  split_ifs
  · exact hzero
  · rfl

section Errors

variable (cal : RuntimeSemanticCalibration) (input : RuntimeSemanticInputSnapshot)

def closedLoop : Bool := input.lambdaValid && !input.requestedOpenLoop

def lambdaError : Int32 :=
  let targetLambdaX1000 :=
    if targetAfrX100 cal input = 0 then 1000
    else Int32.ofNat (mulDivFloorU64 cal.stoichAfrX100.toNat 1000 (targetAfrX100 cal input).toNat)
  effectiveError lambdaLimits (targetLambdaX1000 - input.lambdaMeasured.toUInt32.toInt32 * 10)

def idleError : Int32 :=
  effectiveError idleLimits (cal.idleTargetRpm.toUInt32.toInt32 - input.rpm.toUInt32.toInt32)

/-- Target over measured mixture, in thousandths. -/
def exactLambdaError : ℤ :=
  exactError lambdaLimits ((cal.stoichAfrX100.toNat * 1000 / (targetAfrX100 cal input).toNat : ℕ) -
    10 * (input.lambdaMeasured.toNat : ℤ))

def exactIdleError : ℤ := exactError idleLimits ((cal.idleTargetRpm.toNat : ℤ) - input.rpm.toNat)

variable {cal input}

lemma toInt_lambdaError (h : targetAfrX100 cal input ≠ 0) :
    (lambdaError cal input).toInt = exactLambdaError cal input := by
  have hstoich := cal.stoichAfrX100.toNat_lt
  have hmeasured := input.lambdaMeasured.toNat_lt
  have hten : (10 : Int32).toInt = 10 := by decide
  have hle : cal.stoichAfrX100.toNat * 1000 / (targetAfrX100 cal input).toNat ≤ 65535000 :=
    (Nat.div_le_self _ _).trans (by omega)
  have htarget : (Int32.ofNat (mulDivFloorU64 cal.stoichAfrX100.toNat 1000
      (targetAfrX100 cal input).toNat)).toInt =
      (cal.stoichAfrX100.toNat * 1000 / (targetAfrX100 cal input).toNat : ℕ) :=
    Int32.toInt_ofNat_of_lt (Nat.lt_of_le_of_lt hle (by decide))
  unfold lambdaError exactLambdaError
  simp only [h, if_false]
  rw [toInt_effectiveError (by decide), toInt_sub32, toInt_mul32, htarget, toInt_widened, hten]
  refine congrArg (exactError lambdaLimits) ?_
  generalize cal.stoichAfrX100.toNat * 1000 / (targetAfrX100 cal input).toNat = target at hle
  unfold wrap32
  omega

lemma toInt_idleError : (idleError cal input).toInt = exactIdleError cal input := by
  have htarget := cal.idleTargetRpm.toNat_lt
  have hrpm := input.rpm.toNat_lt
  unfold idleError exactIdleError
  rw [toInt_effectiveError (by decide), toInt_sub32, toInt_widened, toInt_widened]
  refine congrArg (exactError idleLimits) ?_
  unfold wrap32
  omega

lemma exactLambdaError_ge : -655350 ≤ exactLambdaError cal input := by
  have hmeasured := input.lambdaMeasured.toNat_lt
  unfold exactLambdaError exactError
  generalize cal.stoichAfrX100.toNat * 1000 / (targetAfrX100 cal input).toNat = target
  split_ifs <;> omega

lemma exactIdleError_mem : -65535 ≤ exactIdleError cal input ∧ exactIdleError cal input ≤ 65535 := by
  have htarget := cal.idleTargetRpm.toNat_lt
  have hrpm := input.rpm.toNat_lt
  unfold exactIdleError exactError
  split_ifs <;> omega

end Errors

/-! ### One evaluation -/

section Evaluation

variable {cal : RuntimeSemanticCalibration} {input : RuntimeSemanticInputSnapshot}
  {s next : RuntimeSemanticState} {obs : RuntimeSemanticFuelObservations}

variable (input) in
/-- What freezes the lambda accumulator from outside. -/
def gateOf (aeActive fuelCut sparkCut : Bool) : Bool :=
  input.cltC10 < 700 || aeActive || fuelCut || sparkCut

lemma lambdaStep_eq (target : UInt32) (fuelCut sparkCut aeActive : Bool) (acc : Int32)
    (htarget : target = targetAfrX100 cal input) :
    runtimeSemanticLambdaStep cal input target fuelCut sparkCut acc aeActive =
      if closedLoop input then
        piStep lambdaLimits 1000 (lambdaError cal input) cal.lambdaKpX1000 cal.lambdaKiX1000
          (gateOf input aeActive fuelCut sparkCut) acc
      else (1000, ⟨acc, lambdaLimits.minAcc, lambdaLimits.maxAcc, true⟩) := by
  subst htarget
  unfold runtimeSemanticLambdaStep closedLoop
  cases input.lambdaValid <;> cases input.requestedOpenLoop <;> rfl

lemma idleStep_eq (fuelCut sparkCut aeActive : Bool) (acc : Int32) :
    runtimeSemanticIdleStep cal input fuelCut sparkCut acc aeActive =
      piStep idleLimits cal.idleBaseDutyX1000.toUInt32.toInt32 (idleError cal input)
        cal.idleKpX1000 cal.idleKiX1000 (gateOf input aeActive fuelCut sparkCut) acc := rfl

/-- The controllers of an evaluation, from the accumulators of the state before. -/
structure Loops (cal : RuntimeSemanticCalibration) (s : RuntimeSemanticState)
    (input : RuntimeSemanticInputSnapshot) (obs : RuntimeSemanticFuelObservations)
    (next : RuntimeSemanticState) : Prop where
  lambda : (obs.lambdaCorrectionX1000, obs.lambdaIntegratorState) =
    if closedLoop input then
      piStep lambdaLimits 1000 (lambdaError cal input) cal.lambdaKpX1000 cal.lambdaKiX1000
        (gateOf input next.aeActive obs.fuelCut obs.sparkCut) s.lambdaIntegratorAcc
    else (1000, ⟨s.lambdaIntegratorAcc, lambdaLimits.minAcc, lambdaLimits.maxAcc, true⟩)
  idle : (obs.idleDutyX1000, obs.idleIntegratorState) =
    piStep idleLimits cal.idleBaseDutyX1000.toUInt32.toInt32 (idleError cal input) cal.idleKpX1000
      cal.idleKiX1000 (gateOf input s.aeActive obs.fuelCut obs.sparkCut) s.idleIntegratorAcc
  lambda_acc : next.lambdaIntegratorAcc = obs.lambdaIntegratorState.acc
  idle_acc : next.idleIntegratorAcc = obs.idleIntegratorState.acc

lemma loops_of_evaluated (h : evaluated cal s input = some (obs, next)) :
    Loops cal s input obs next := by
  obtain ⟨cut, harbitrated, hpair⟩ := evaluated_cases h
  obtain ⟨-, -, -, -, hactive, -, -⟩ := evaluated_frame h
  -- enrichment and arbiter leave both accumulators alone
  have hframe : cut.lambdaIntegratorAcc = s.lambdaIntegratorAcc ∧
      cut.idleIntegratorAcc = s.idleIntegratorAcc := by
    obtain ⟨launch, flat, safety, hard, soft, dfco, qualify, retard, recovery, rfl⟩ :=
      arbitrated_frame harbitrated
    obtain ⟨pulse, remaining, active, hae⟩ := evaluateAe_frame cal input s
    rw [hae]
    exact ⟨rfl, rfl⟩
  have hlambda := congrArg (fun result =>
    (result.1.lambdaCorrectionX1000, result.1.lambdaIntegratorState)) hpair
  have hidle := congrArg (fun result => (result.1.idleDutyX1000, result.1.idleIntegratorState)) hpair
  refine ⟨?_, ?_, ?_, ?_⟩
  · rw [hactive, ← hframe.1, ← lambdaStep_eq _ _ _ _ _ rfl]
    exact hlambda.trans Prod.mk.eta
  · rw [← hframe.2, ← idleStep_eq]
    exact hidle.trans Prod.mk.eta
  · exact (congrArg (fun result => result.2.lambdaIntegratorAcc) hpair).trans
      (congrArg (fun result => result.1.lambdaIntegratorState.acc) hpair).symm
  · exact (congrArg (fun result => result.2.idleIntegratorAcc) hpair).trans
      (congrArg (fun result => result.1.idleIntegratorState.acc) hpair).symm

/-- Both controllers do what is expected in an evaluation. An open lambda loop has no parts. -/
structure LoopsSound (cal : RuntimeSemanticCalibration) (s : RuntimeSemanticState)
    (input : RuntimeSemanticInputSnapshot) (obs : RuntimeSemanticFuelObservations)
    (next : RuntimeSemanticState) : Prop where
  lambda_acc : next.lambdaIntegratorAcc = obs.lambdaIntegratorState.acc
  idle_acc : next.idleIntegratorAcc = obs.idleIntegratorState.acc
  lambda : Bounded lambdaLimits s.lambdaIntegratorAcc
    (obs.lambdaCorrectionX1000, obs.lambdaIntegratorState)
  idle : Bounded idleLimits s.idleIntegratorAcc (obs.idleDutyX1000, obs.idleIntegratorState)
  lambda_error : (lambdaError cal input).toInt = exactLambdaError cal input
  idle_error : (idleError cal input).toInt = exactIdleError cal input
  lambda_exact : closedLoop input = true →
    Exact lambdaLimits 1000 (lambdaError cal input) cal.lambdaKpX1000 cal.lambdaKiX1000
      s.lambdaIntegratorAcc (obs.lambdaCorrectionX1000, obs.lambdaIntegratorState)
  idle_exact : Exact idleLimits cal.idleBaseDutyX1000.toNat (idleError cal input) cal.idleKpX1000
    cal.idleKiX1000 s.idleIntegratorAcc (obs.idleDutyX1000, obs.idleIntegratorState)

variable (s)

variable (cal) in
/-- The parts of the lambda error fit in 32 bits, and so does their sum unless the accumulator
stays where it is. -/
def LambdaFits (input : RuntimeSemanticInputSnapshot) (gate : Bool) : Prop :=
  closedLoop input = true →
    Fits32 (exactTerm (exactLambdaError cal input) cal.lambdaKpX1000) ∧
    Fits32 (exactTerm (exactLambdaError cal input) cal.lambdaKiX1000) ∧
    (1000 + exactTerm (exactLambdaError cal input) cal.lambdaKpX1000 +
        s.lambdaIntegratorAcc.toInt ≤ 2147483647 ∨ gate = true ∨
      exactTerm (exactLambdaError cal input) cal.lambdaKiX1000 = 0 ∨
      s.lambdaIntegratorAcc.toInt = 2000)

def AccsOk : Prop :=
  InLimits lambdaLimits s.lambdaIntegratorAcc ∧ InLimits idleLimits s.idleIntegratorAcc

variable {s}

lemma exact_idle (hs : AccsOk s) (gate : Bool) :
    Exact idleLimits cal.idleBaseDutyX1000.toNat (idleError cal input) cal.idleKpX1000
      cal.idleKiX1000 s.idleIntegratorAcc (piStep idleLimits
        cal.idleBaseDutyX1000.toUInt32.toInt32 (idleError cal input) cal.idleKpX1000
        cal.idleKiX1000 gate s.idleIntegratorAcc) := by
  have hbase := toInt_widened cal.idleBaseDutyX1000
  have hlt := cal.idleBaseDutyX1000.toNat_lt
  have hmem : -65535 ≤ exactIdleError cal input ∧ _ := exactIdleError_mem
  rw [← toInt_idleError] at hmem
  have hlow := fun gain => exactTerm_ge (by decide) hmem.1 gain
  have hhigh := fun gain => exactTerm_le (by decide) hmem.2 gain
  have hacc : s.idleIntegratorAcc.toInt ≤ 2000 := hs.2.2
  rw [← hbase, exact_piStep_iff proper_idle hs.2 (by omega)
    (le_trans (by decide) (hlow cal.idleKpX1000))]
  have hkpLow := hlow cal.idleKpX1000
  have hkpHigh := hhigh cal.idleKpX1000
  have hkiLow := hlow cal.idleKiX1000
  have hkiHigh := hhigh cal.idleKiX1000
  refine ⟨⟨by omega, by omega⟩, ⟨by omega, by omega⟩, Or.inl ?_⟩
  unfold exactPre
  omega

lemma target_ne_zero (h : evaluated cal s input = some (obs, next)) :
    targetAfrX100 cal input ≠ 0 := by
  rcases evaluate_cases (evaluated_eq_some_iff.mp h) with ⟨-, err, herr⟩ | ⟨htaken, -⟩
  · exact absurd herr (by simp)
  · exact of_decide_eq_true (Bool.and_eq_true _ _ ▸ htaken).2

lemma Loops.bounded (hloops : Loops cal s input obs next) (hs : AccsOk s) :
    Bounded lambdaLimits s.lambdaIntegratorAcc
        (obs.lambdaCorrectionX1000, obs.lambdaIntegratorState) ∧
      Bounded idleLimits s.idleIntegratorAcc (obs.idleDutyX1000, obs.idleIntegratorState) := by
  rw [hloops.lambda, hloops.idle]
  refine ⟨?_, piStep_bounded proper_idle hs.2⟩
  split_ifs
  · exact piStep_bounded proper_lambda hs.1
  · have hout : lambdaLimits.minOut.toNat ≤ (1000 : UInt16).toNat ∧
        (1000 : UInt16).toNat ≤ lambdaLimits.maxOut.toNat := by decide
    exact ⟨hs.1, hout, fun _ => rfl⟩

lemma exact_lambda_iff (hs : AccsOk s) (h : evaluated cal s input = some (obs, next)) :
    (closedLoop input = true → Exact lambdaLimits 1000 (lambdaError cal input) cal.lambdaKpX1000
      cal.lambdaKiX1000 s.lambdaIntegratorAcc
      (obs.lambdaCorrectionX1000, obs.lambdaIntegratorState)) ↔
      LambdaFits cal s input (gateOf input next.aeActive obs.fuelCut obs.sparkCut) := by
  have herror := toInt_lambdaError (target_ne_zero h)
  have hkp : -1073741824 ≤ exactTerm (lambdaError cal input).toInt cal.lambdaKpX1000 := by
    rw [herror]
    exact le_trans (by decide) (exactTerm_ge (by decide) exactLambdaError_ge cal.lambdaKpX1000)
  have hrange : 0 ≤ (1000 : Int32).toInt ∧ (1000 : Int32).toInt ≤ 65535 := by decide
  refine forall_congr' fun hclosed => ?_
  rw [(loops_of_evaluated h).lambda, if_pos hclosed, ← herror]
  have hiff := fun gate =>
    @exact_piStep_iff _ _ _ _ cal.lambdaKiX1000 gate _ proper_lambda hs.1 hrange hkp
  exact hiff _

lemma loopsSound_iff (hs : AccsOk s) (h : evaluated cal s input = some (obs, next)) :
    LoopsSound cal s input obs next ↔
      LambdaFits cal s input (gateOf input next.aeActive obs.fuelCut obs.sparkCut) := by
  have hloops := loops_of_evaluated h
  obtain ⟨hlambda, hidle⟩ := hloops.bounded hs
  rw [← exact_lambda_iff hs h]
  constructor
  · exact LoopsSound.lambda_exact
  · intro hexact
    refine ⟨hloops.lambda_acc, hloops.idle_acc, hlambda, hidle,
      toInt_lambdaError (target_ne_zero h), toInt_idleError, hexact, ?_⟩
    rw [hloops.idle]
    exact exact_idle hs _

end Evaluation

/-! ### Runs -/

variable {cal : RuntimeSemanticCalibration} {s : RuntimeSemanticState}
  {input : RuntimeSemanticInputSnapshot}

variable (cal input s)

/-- Both controllers do what is expected in a step that evaluates. -/
def ControllersSound : Prop :=
  ∀ obs next, evaluated cal s input = some (obs, next) → LoopsSound cal s input obs next

/-- The gate of the lambda controller in a step. -/
def lambdaGate : Bool :=
  (evaluated cal s input).elim false fun result =>
    gateOf input result.2.aeActive result.1.fuelCut result.1.sparkCut

def PartsFit : Prop :=
  (evaluated cal s input).isSome → LambdaFits cal s input (lambdaGate cal s input)

variable {cal input s}

lemma controllersSound_iff (hs : AccsOk s) :
    ControllersSound cal s input ↔ PartsFit cal s input := by
  refine forall_evaluated_iff fun obs next heval => ?_
  have hgate : lambdaGate cal s input = gateOf input next.aeActive obs.fuelCut obs.sparkCut := by
    unfold lambdaGate
    rw [heval]
    rfl
  rw [hgate]
  exact loopsSound_iff hs heval

lemma AccsOk.step (hs : AccsOk s) : AccsOk (carried cal s input) := by
  refine carried_inv hs fun obs next heval => ?_
  have hloops := loops_of_evaluated heval
  obtain ⟨hlambda, hidle⟩ := hloops.bounded hs
  unfold AccsOk
  rw [hloops.lambda_acc, hloops.idle_acc]
  exact ⟨hlambda.inLimits, hidle.inLimits⟩

/-- **The controllers over whole runs.** In every run from the default state, whatever the
calibration: accumulators and outputs keep their limits, a frozen accumulator stays, none winds up
and every part is the exact floor, at every evaluation, exactly if at every evaluation with a
closed lambda loop the parts of the lambda error fit in 32 bits. -/
theorem controllers_sound_iff (cal : RuntimeSemanticCalibration)
    (inputs : List RuntimeSemanticInputSnapshot) :
    Along (carried cal) (ControllersSound cal) {} inputs ↔
      Along (carried cal) (PartsFit cal) {} inputs :=
  along_iff_of_inv (I := AccsOk) (L := fun _ _ => True) (fun _ _ hs _ => controllersSound_iff hs)
    (fun _ _ hs _ _ => hs.step) ⟨⟨by decide, by decide⟩, by decide, by decide⟩ along_true

/-- A target of a hundredth at the largest gains. -/
def steepCalibration : RuntimeSemanticCalibration :=
  { roadCalibration with
    afrTargetTable := ⟨roadCalibration.afrTargetTable.rpmAxis,
      roadCalibration.afrTargetTable.loadAxis, .replicate 16 (.replicate 16 1)⟩
    stoichAfrX100 := 65535
    lambdaKpX1000 := 65535
    lambdaKiX1000 := 65535 }

/-- An engine that runs with its lambda loop closed. -/
def closed : RuntimeSemanticInputSnapshot := { cruising 3000 3000 400 with lambdaValid := true }

/-- A part that is too large comes out negative: the correction goes to the wrong limit. -/
theorem lambdaTerm_truncated :
    validateCalibration steepCalibration = .ok () ∧
      exactTerm (lambdaError steepCalibration closed).toInt steepCalibration.lambdaKpX1000 =
        4294770690 ∧
      (term (lambdaError steepCalibration closed) steepCalibration.lambdaKpX1000).toInt = -196606 ∧
      ((evaluated steepCalibration {} closed).map fun result =>
        result.1.lambdaCorrectionX1000) = some 750 := by
  refine ⟨?_, ?_, ?_, ?_⟩ <;> decide +kernel

end Pipoco.SemLoops
