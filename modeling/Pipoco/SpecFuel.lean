import Pipoco.SemArbiter
import Pipoco.SpecCalibration

/-!
The pulse width of the specification against that of the runtime.

Both multiply the required fuel by the efficiency, the pressure ratio and ten corrections, each
time rounding down. They differ where a product leaves 32 bits: the specification saturates, the
runtime keeps the low bits.
-/

namespace Pipoco.Spec

open Domain SemFuel SemTables

/-! ### The specification -/

variable (pw : UInt32) (cal : ValidatedCalibration)

inductive SyncState
  | unsynced | synced
  deriving DecidableEq, Repr

inductive EngineMode
  | off | cranking | running | shutdown
  deriving DecidableEq, Repr

structure InputSnapshot where
  (rpm mapKpa10 loadKpa10 : UInt16)
  sync : SyncState
  (fuelCut sparkCut : Bool)
  mode : EngineMode
  targetAfrOverrideX100 : Option UInt16
  deriving DecidableEq

structure LogicalState where
  trimRatioX1000 : UInt16 := 1000

structure FuelParts where
  (pwAirUs aePulseUs deadtimeUs : UInt32)
  (cltCorrX1000 iatCorrX1000 baroCorrX1000 vbatCorrX1000 crankingCorrX1000 : UInt16)
  (afterstartCorrX1000 warmupCorrX1000 afrCorrX1000 lambdaCorrX1000 : UInt16)
  deriving DecidableEq

structure TableEvaluation where
  (ve targetAfr : UInt16)
  deriving DecidableEq

/-- The quotient, saturated. -/
def mulDivFloorU32 (value mul div : UInt32) : UInt32 :=
  UInt32.ofNat (min (value.toNat * mul.toNat / div.toNat) 4294967295)

def mulRatioX1000 (value : UInt32) (ratio : UInt16) : UInt32 :=
  mulDivFloorU32 value ratio.toUInt32 1000

variable (input : InputSnapshot)

def clampTargetAfrOverride : Option UInt16 :=
  input.targetAfrOverrideX100.map fun value => clampU16 value 500 3000

def lookupVe : UInt16 := bilerpU16 cal.raw.veTable input.rpm input.loadKpa10

def lookupTargetAfr : UInt16 :=
  match clampTargetAfrOverride input with
  | some value => value
  | none => bilerpU16 cal.raw.afrTargetTable input.rpm input.loadKpa10

def evaluateTables : TableEvaluation := ⟨lookupVe cal input, lookupTargetAfr cal input⟩

def computePwBaseUs (ve : UInt16) : UInt32 :=
  mulDivFloorU32 cal.raw.requiredFuelUs ve.toUInt32 10000

def computePwAirUs (base : UInt32) (map : UInt16) : UInt32 :=
  let prefKpa10 := if cal.raw.prefKpa10 = 0 then 1 else cal.raw.prefKpa10.toUInt32
  mulDivFloorU32 base map.toUInt32 prefKpa10

/-- The factors of a pulse, in the order in which they are applied. -/
def FuelParts.factors (parts : FuelParts) (state : LogicalState) : List UInt16 :=
  [parts.crankingCorrX1000, parts.afterstartCorrX1000, parts.warmupCorrX1000, parts.cltCorrX1000,
    parts.iatCorrX1000, parts.baroCorrX1000, parts.vbatCorrX1000, parts.afrCorrX1000,
    parts.lambdaCorrX1000, state.trimRatioX1000]

def applyPwMax : UInt32 :=
  if pw < 0 then 0 else if pw > cal.raw.pwMaxUs then cal.raw.pwMaxUs else pw

def computePwCorrUs (state : LogicalState) (input : InputSnapshot) (parts : FuelParts) : UInt32 :=
  let pw := (parts.factors state).foldl mulRatioX1000 parts.pwAirUs
  let pw := satAdd32 pw parts.aePulseUs
  let pw := satAdd32 pw parts.deadtimeUs
  if input.fuelCut then 0 else applyPwMax pw cal

/-! ### The inputs carried over -/

variable (input : RuntimeSemanticInputSnapshot)

def engineMode : RuntimeSemanticEngineMode → EngineMode
  | .off => .off
  | .cranking => .cranking
  | .running => .running
  | .shutdown => .shutdown

def specInput : InputSnapshot where
  rpm := input.rpm
  mapKpa10 := input.mapKpa10
  loadKpa10 := input.loadKpa10
  sync := if input.sync matches .locked _ then .synced else .unsynced
  fuelCut := input.fuelCut
  sparkCut := input.sparkCut
  mode := engineMode input.mode
  targetAfrOverrideX100 := input.targetAfrOverrideX100

/-! ### Pulses in unbounded numbers -/

section Pulses

variable (cal : ValidatedCalibration) (input : RuntimeSemanticInputSnapshot)

def exactBase : ℕ := cal.raw.requiredFuelUs.toNat * (lookupVe cal (specInput input)).toNat / 10000

def exactAir : ℕ := exactBase cal input * input.mapKpa10.toNat / cal.raw.prefKpa10.toNat

def exactRatio (pw : ℕ) (ratio : UInt32) : ℕ := pw * ratio.toNat / 1000

/-- Every pulse on the way to the corrected one. -/
def exactPulses (ratios : List UInt32) : List ℕ :=
  exactBase cal input :: ratios.scanl exactRatio (exactAir cal input)

/-- The pulses of the runtime on that way. -/
def runtimePulses (obs : RuntimeSemanticFuelObservations) (ratios : List UInt32) : List UInt32 :=
  obs.pwBaseUs :: ratios.scanl mulRatioX1000Floor obs.pwAirUs

end Pulses

/-! ### Agreement -/

section Agreement

variable (cal : ValidatedCalibration) (input : RuntimeSemanticInputSnapshot)
  (state : RuntimeSemanticState) (obs : RuntimeSemanticFuelObservations)
  (next : RuntimeSemanticState)

/-- The correction factors of a step with the given observations. -/
def ratiosOf : List UInt32 :=
  corrections cal.raw.toRuntime input state.afterstartCycleCount obs.lambdaCorrectionX1000

/-- The specification is given what the runtime corrects with: the same factors, the same pulses to
add, and the cut the runtime has decided on. -/
structure SameParts (parts : FuelParts) (spec : LogicalState) (specIn : InputSnapshot) : Prop where
  air : parts.pwAirUs = computePwAirUs cal (computePwBaseUs cal (lookupVe cal (specInput input)))
    input.mapKpa10
  ae : parts.aePulseUs = next.aePulseUs
  deadtime : parts.deadtimeUs = semanticDeadtimeLookupUs cal.raw.toRuntime.deadtimeTableUs
    input.vbattMv input.baroKpa10
  factors : (parts.factors spec).map UInt16.toUInt32 = ratiosOf cal input state obs
  cut : specIn.fuelCut = (obs.fuelCut || input.fuelCut)

/-- The observations of a step are those of the specification. -/
structure AsSpecified : Prop where
  ve : obs.vePctX100 = (evaluateTables cal (specInput input)).ve
  targetAfr : obs.targetAfrX100 = (evaluateTables cal (specInput input)).targetAfr
  base : obs.pwBaseUs = computePwBaseUs cal (evaluateTables cal (specInput input)).ve
  air : obs.pwAirUs = computePwAirUs cal
    (computePwBaseUs cal (evaluateTables cal (specInput input)).ve) input.mapKpa10
  comparable : ∃ parts spec specIn, SameParts cal input state obs next parts spec specIn
  corrected : ∀ parts spec specIn, SameParts cal input state obs next parts spec specIn →
    obs.pwCorrUs = computePwCorrUs cal spec specIn parts
  le_max : obs.pwCorrUs ≤ cal.raw.pwMaxUs
  cut : (obs.fuelCut || input.fuelCut) = true → obs.pwCorrUs = 0
  /-- No product was truncated: every pulse on the way is the exact one. -/
  exact : (runtimePulses obs (ratiosOf cal input state obs)).map UInt32.toNat =
    exactPulses cal input (ratiosOf cal input state obs)

end Agreement

/-! ### Factors fit their width -/

lemma semanticLerpU16_lt (x0 x1 y0 y1 x : UInt16) :
    (semanticLerpU16 x0 x1 y0 y1 x).toNat < 65536 := by
  by_cases hlt : x0 < x1
  · have hval := exactLerp_u16.val_lerp x hlt (widened_u16 y0) (widened_u16 y1)
    have hmem := (lerp_mem_Icc hlt (widened_u16 y0) (widened_u16 y1) x).2
    rw [← hval] at hmem
    unfold val32 wideLerpU16 at hmem
    rw [UInt16.toUInt16_toUInt32, UInt16.toUInt16_toUInt32] at hmem
    omega
  · unfold semanticLerpU16
    rw [if_pos (UInt16.not_lt.mp hlt), UInt16.toNat_toUInt32]
    exact y0.toNat_lt

lemma semanticBilerpU16_lt (table : RuntimeSemanticTable2dU16) (rpm load : UInt16) :
    (semanticBilerpU16 table rpm load).toNat < 65536 := by
  unfold semanticBilerpU16
  simp only
  split_ifs
  · rw [UInt16.toNat_toUInt32]
    exact UInt16.toNat_lt _
  · exact semanticLerpU16_lt _ _ _ _ _

lemma semanticCurveLookup_lt (curve : RuntimeSemanticCurve16U16) (x : UInt16) :
    (semanticCurveLookup curve x).toNat < 65536 := by
  unfold semanticCurveLookup
  simp only
  split_ifs
  · rw [UInt16.toNat_toUInt32]
    exact UInt16.toNat_lt _
  · exact semanticLerpU16_lt _ _ _ _ _

section Target

variable (cal : ValidatedCalibration) (input : RuntimeSemanticInputSnapshot)

lemma toNat_targetAfrX100 : (targetAfrX100 cal.raw.toRuntime input).toNat =
    (lookupTargetAfr cal (specInput input)).toNat := by
  unfold targetAfrX100 lookupTargetAfr clampTargetAfrOverride
  have hspec : (specInput input).targetAfrOverrideX100 = input.targetAfrOverrideX100 := rfl
  rw [hspec]
  cases input.targetAfrOverrideX100 with
  | some value => exact UInt16.toNat_toUInt32 _
  | none => exact toNat_semanticBilerpU16 cal.afrTarget _ _

lemma lookupTargetAfr_mem : (lookupTargetAfr cal (specInput input)).toNat ∈ Set.Icc 500 3000 := by
  unfold lookupTargetAfr clampTargetAfrOverride
  cases (specInput input).targetAfrOverrideX100 with
  | some value =>
    have hclamp : (clampU16 value 500 3000).toNat = max 500 (min value.toNat 3000) :=
      toNat_clampU16 (by decide) value
    constructor <;> simp only [Option.map_some] <;> omega
  | none =>
    have hmem := cal.afrTarget.bilerp_mem lerpsWithin_u16 (specInput input).rpm
      (specInput input).loadKpa10
    exact ⟨Int.ofNat_le.mp hmem.1, Int.ofNat_le.mp hmem.2⟩

lemma taken_toRuntime : taken cal.raw.toRuntime input = true := by
  have htarget : targetAfrX100 cal.raw.toRuntime input ≠ 0 := by
    intro hzero
    have hnat := toNat_targetAfrX100 cal input
    have hmem := (lookupTargetAfr_mem cal input).1
    rw [hzero, UInt32.toNat_zero] at hnat
    omega
  have hpref : cal.raw.toRuntime.prefKpa10 ≠ 0 := cal.pref_ne_zero
  unfold taken RuntimeSemanticCalibration.accepted
  simp [cal.validate_toRuntime, htarget, hpref]

lemma ratiosOf_lt (state : RuntimeSemanticState) (obs : RuntimeSemanticFuelObservations) :
    ∀ r ∈ ratiosOf cal input state obs, r.toNat < 65536 := by
  have hstoich := cal.stoich_mem.2
  have htarget := (lookupTargetAfr_mem cal input).1
  have hafr : cal.raw.stoichAfrX100.toNat * 1000 / (targetAfrX100 cal.raw.toRuntime input).toNat ≤
      6000 := by
    rw [toNat_targetAfrX100]
    refine Nat.div_le_of_le_mul ?_
    calc cal.raw.stoichAfrX100.toNat * 1000 ≤ 3000 * 1000 := Nat.mul_le_mul_right _ hstoich
      _ = 500 * 6000 := rfl
      _ ≤ _ := Nat.mul_le_mul_right _ htarget
  simp only [ratiosOf, corrections, List.forall_mem_cons, List.not_mem_nil, false_imp_iff,
    implies_true, and_true]
  refine ⟨?_, ?_, semanticCurveLookup_lt _ _, semanticCurveLookup_lt _ _,
    semanticCurveLookup_lt _ _, semanticCurveLookup_lt _ _, semanticCurveLookup_lt _ _, ?_, ?_,
    by decide⟩
  · split_ifs
    · exact semanticCurveLookup_lt _ _
    · decide
  · split_ifs
    · exact semanticBilerpU16_lt _ _ _
    · decide
  · rw [mulDivFloorU64, UInt32.toNat_ofNat']
    exact (Nat.mod_le _ _).trans_lt (Nat.lt_of_le_of_lt hafr (by decide))
  · rw [UInt16.toNat_toUInt32]
    exact UInt16.toNat_lt _

end Target

/-! ### Chains of corrections -/

lemma applyPwMax_eq : applyPwMax pw cal = min pw cal.raw.pwMaxUs := by
  have hneg : ¬ pw < 0 := UInt32.not_lt_zero
  have hmin : min pw cal.raw.pwMaxUs = if pw ≤ cal.raw.pwMaxUs then pw else cal.raw.pwMaxUs := rfl
  unfold applyPwMax
  rw [if_neg hneg, hmin]
  by_cases hmax : pw > cal.raw.pwMaxUs
  · rw [if_pos hmax, if_neg (UInt32.not_le.mpr hmax)]
  · rw [if_neg hmax, if_pos (UInt32.not_lt.mp hmax)]

lemma applyPwMax_le : applyPwMax pw cal ≤ cal.raw.pwMaxUs := by
  unfold applyPwMax
  split_ifs with hneg hmax
  · exact UInt32.zero_le
  · exact UInt32.le_refl _
  · exact UInt32.not_lt.mp hmax

lemma mulDivFloorU32_of_lt {value mul div : UInt32}
    (h : value.toNat * mul.toNat / div.toNat < 2 ^ 32) :
    mulDivFloorU32 value mul div = UInt32.ofNat (value.toNat * mul.toNat / div.toNat) := by
  unfold mulDivFloorU32
  rw [Nat.min_eq_left (by omega)]

variable {pw}

lemma toNat_mulRatioX1000Floor {ratio : UInt32} (h : exactRatio pw.toNat ratio < 2 ^ 32) :
    (mulRatioX1000Floor pw ratio).toNat = exactRatio pw.toNat ratio :=
  UInt32.toNat_ofNat_of_lt' h

lemma mem_scanl_self {α β : Type} (f : β → α → β) (b : β) (l : List α) : b ∈ l.scanl f b := by
  cases l <;> simp

/-- While no exact pulse leaves 32 bits, the pulses of the runtime are the exact ones. -/
lemma scanl_exact {ratios : List UInt32} (h : ∀ e ∈ ratios.scanl exactRatio pw.toNat, e < 2 ^ 32) :
    (ratios.scanl mulRatioX1000Floor pw).map UInt32.toNat = ratios.scanl exactRatio pw.toNat := by
  induction ratios generalizing pw with
  | nil => rfl
  | cons ratio ratios ih =>
    rw [List.scanl_cons] at h ⊢
    have htail := (List.forall_mem_cons.mp h).2
    have hnext := toNat_mulRatioX1000Floor (htail _ (mem_scanl_self _ _ _))
    rw [List.scanl_cons, List.map_cons, ih (by rw [hnext]; exact htail), hnext]

/-- And the specification does not saturate. -/
lemma foldl_mulRatioX1000 {ratios : List UInt16}
    (h : ∀ e ∈ (ratios.map UInt16.toUInt32).scanl exactRatio pw.toNat, e < 2 ^ 32) :
    ratios.foldl mulRatioX1000 pw = (ratios.map UInt16.toUInt32).foldl mulRatioX1000Floor pw := by
  induction ratios generalizing pw with
  | nil => rfl
  | cons ratio ratios ih =>
    rw [List.map_cons, List.scanl_cons] at h
    have htail := (List.forall_mem_cons.mp h).2
    have hlt := htail _ (mem_scanl_self _ _ _)
    have hnext : mulRatioX1000 pw ratio = mulRatioX1000Floor pw ratio.toUInt32 :=
      mulDivFloorU32_of_lt hlt
    rw [List.foldl_cons, List.map_cons, List.foldl_cons, hnext]
    exact ih (by rw [toNat_mulRatioX1000Floor hlt]; exact htail)

/-! ### One evaluation -/

variable (state : RuntimeSemanticState)

section Evaluation

variable {cal : ValidatedCalibration} {input : RuntimeSemanticInputSnapshot}
  {state next : RuntimeSemanticState} {obs : RuntimeSemanticFuelObservations}

structure Pulses (cal : ValidatedCalibration) (input : RuntimeSemanticInputSnapshot)
    (state : RuntimeSemanticState) (obs : RuntimeSemanticFuelObservations)
    (next : RuntimeSemanticState) : Prop where
  ve : obs.vePctX100 =
    (semanticBilerpU16 (tableU16 cal.raw.veTable) input.rpm input.loadKpa10).toUInt16
  targetAfr : obs.targetAfrX100 = (targetAfrX100 cal.raw.toRuntime input).toUInt16
  base : obs.pwBaseUs = UInt32.ofNat (cal.raw.requiredFuelUs.toNat *
    (semanticBilerpU16 (tableU16 cal.raw.veTable) input.rpm input.loadKpa10).toNat / 10000)
  air : obs.pwAirUs =
    UInt32.ofNat (obs.pwBaseUs.toNat * input.mapKpa10.toNat / cal.raw.prefKpa10.toNat)
  corrected : obs.pwCorrUs = if obs.fuelCut || input.fuelCut then 0 else
    min (satAdd32 (satAdd32 ((ratiosOf cal input state obs).foldl mulRatioX1000Floor obs.pwAirUs)
      next.aePulseUs) (semanticDeadtimeLookupUs cal.raw.toRuntime.deadtimeTableUs input.vbattMv
      input.baroKpa10)) cal.raw.pwMaxUs

lemma pulses_of_evaluated (h : evaluated cal.raw.toRuntime state input = some (obs, next)) :
    Pulses cal input state obs next := by
  obtain ⟨cut, -, hpair⟩ := evaluated_cases h
  have hbase := congrArg (fun result => result.1.pwBaseUs) hpair
  have hair := congrArg (fun result => result.1.pwAirUs) hpair
  have hlambda := congrArg (fun result => result.1.lambdaCorrectionX1000) hpair
  have hpulse := congrArg (fun result => result.2.aePulseUs) hpair
  refine ⟨congrArg (fun result => result.1.vePctX100) hpair,
    congrArg (fun result => result.1.targetAfrX100) hpair, hbase, ?_, ?_⟩
  · exact hair.trans (by rw [hbase]; rfl)
  · refine (congrArg (fun result => result.1.pwCorrUs) hpair).trans ?_
    unfold ratiosOf
    rw [hlambda, hair, hpulse]
    rfl

variable (h : Pulses cal input state obs next)
include h

lemma Pulses.base_eq : obs.pwBaseUs = UInt32.ofNat (exactBase cal input) := by
  rw [h.base, toNat_semanticBilerpU16 cal.ve]
  rfl

lemma Pulses.ve_eq : obs.vePctX100 = lookupVe cal (specInput input) := by
  apply UInt16.toNat_inj.mp
  rw [h.ve, UInt32.toNat_toUInt16, toNat_semanticBilerpU16 cal.ve]
  exact Nat.mod_eq_of_lt (UInt16.toNat_lt _)

lemma Pulses.targetAfr_eq : obs.targetAfrX100 = lookupTargetAfr cal (specInput input) := by
  apply UInt16.toNat_inj.mp
  rw [h.targetAfr, UInt32.toNat_toUInt16, toNat_targetAfrX100]
  exact Nat.mod_eq_of_lt (UInt16.toNat_lt _)

lemma Pulses.le_max : obs.pwCorrUs ≤ cal.raw.pwMaxUs := by
  rw [h.corrected]
  split_ifs
  · exact UInt32.zero_le
  · rw [← applyPwMax_eq]
    exact applyPwMax_le _ cal

lemma Pulses.cut (hcut : (obs.fuelCut || input.fuelCut) = true) : obs.pwCorrUs = 0 := by
  rw [h.corrected, if_pos hcut]

omit h in
/-- The factors of the runtime are factors of the specification. -/
lemma exists_sameParts :
    ∃ parts spec specIn, SameParts cal input state obs next parts spec specIn := by
  have hwide : ((ratiosOf cal input state obs).map UInt32.toUInt16).map UInt16.toUInt32 =
      ratiosOf cal input state obs := by
    rw [List.map_map]
    refine (List.map_congr_left fun r hr => ?_).trans (List.map_id _)
    apply UInt32.toNat_inj.mp
    exact Nat.mod_eq_of_lt (ratiosOf_lt cal input state obs r hr)
  let ratio := fun i => ((ratiosOf cal input state obs).getD i 0).toUInt16
  refine ⟨⟨_, next.aePulseUs, _, ratio 3, ratio 4, ratio 5, ratio 6, ratio 0, ratio 1, ratio 2,
    ratio 7, ratio 8⟩, ⟨ratio 9⟩, { specInput input with fuelCut := obs.fuelCut || input.fuelCut },
    rfl, rfl, rfl, hwide, rfl⟩

/-- **A step agrees with the specification exactly if no pulse on the way leaves 32 bits.** -/
lemma Pulses.asSpecified_iff : AsSpecified cal input state obs next ↔
    ∀ pw ∈ exactPulses cal input (ratiosOf cal input state obs), pw < 2 ^ 32 := by
  constructor
  · intro hspec pw hpw
    rw [← hspec.exact] at hpw
    obtain ⟨pw, -, rfl⟩ := List.mem_map.mp hpw
    exact pw.toNat_lt
  · -- no product wraps in the runtime, and none saturates in the specification
    intro hfits
    obtain ⟨hbase, hchain⟩ := List.forall_mem_cons.mp hfits
    have hair := hchain _ (mem_scanl_self _ _ _)
    have hbase32 : obs.pwBaseUs.toNat = exactBase cal input := by
      rw [h.base_eq]
      exact UInt32.toNat_ofNat_of_lt' hbase
    have hair32 : obs.pwAirUs.toNat = exactAir cal input := by
      rw [h.air, hbase32]
      exact UInt32.toNat_ofNat_of_lt' hair
    rw [← hair32] at hchain
    have hspecBase : computePwBaseUs cal (lookupVe cal (specInput input)) = obs.pwBaseUs := by
      have hlt : cal.raw.requiredFuelUs.toNat *
          (lookupVe cal (specInput input)).toUInt32.toNat / (10000 : UInt32).toNat < 2 ^ 32 := hbase
      exact (mulDivFloorU32_of_lt hlt).trans h.base_eq.symm
    have hspecAir : computePwAirUs cal obs.pwBaseUs input.mapKpa10 = obs.pwAirUs := by
      unfold computePwAirUs
      rw [if_neg cal.pref_ne_zero, h.air]
      have hlt : obs.pwBaseUs.toNat * input.mapKpa10.toUInt32.toNat /
          cal.raw.prefKpa10.toUInt32.toNat < 2 ^ 32 := by
        rw [hbase32]
        exact hair
      exact mulDivFloorU32_of_lt hlt
    refine ⟨h.ve_eq, h.targetAfr_eq, hspecBase.symm, ?_, exists_sameParts, ?_, h.le_max, h.cut, ?_⟩
    · exact (hspecAir.symm.trans (congrArg (fun base => computePwAirUs cal base _) hspecBase.symm))
    · intro parts spec specIn hparts
      unfold computePwCorrUs
      rw [hparts.cut, hparts.ae, hparts.deadtime, hparts.air, hspecBase, hspecAir,
        foldl_mulRatioX1000 (by rw [hparts.factors]; exact hchain), hparts.factors, h.corrected]
      simp only [applyPwMax_eq]
    · unfold runtimePulses exactPulses
      rw [List.map_cons, scanl_exact hchain, hbase32, hair32]

end Evaluation

/-- The correction factors of the step; none if it does not return. -/
def stepRatios : List UInt32 :=
  (evaluated cal.raw.toRuntime state input).elim [] fun result => ratiosOf cal input state result.1

/-- Every exact pulse of the step fits in 32 bits. -/
def PulsesFit : Prop := ∀ pw ∈ exactPulses cal input (stepRatios cal input state), pw < 2 ^ 32

/-- **The runtime computes the pulse width of the specification exactly if it returns and no product
on the way leaves 32 bits.** -/
theorem evaluate_asSpecified_iff (cal : ValidatedCalibration)
    (input : RuntimeSemanticInputSnapshot) (state : RuntimeSemanticState) :
    (∃ obs next, runtimeSemanticEvaluateFuelWithState cal.raw.toRuntime input state =
        some (.ok (obs, next)) ∧ AsSpecified cal input state obs next) ↔
      ¬ Divides cal.raw.toRuntime input state ∧ PulsesFit cal input state := by
  have hreturns := evaluated_isSome_iff (s := state) (taken_toRuntime cal input)
  simp only [← evaluated_eq_some_iff]
  constructor
  · rintro ⟨obs, next, heval, hspec⟩
    refine ⟨hreturns.mp (by rw [heval]; rfl), ?_⟩
    unfold PulsesFit stepRatios
    rw [heval]
    exact (pulses_of_evaluated heval).asSpecified_iff.mp hspec
  · rintro ⟨hdivides, hfit⟩
    obtain ⟨⟨obs, next⟩, heval⟩ := Option.isSome_iff_exists.mp (hreturns.mpr hdivides)
    unfold PulsesFit stepRatios at hfit
    rw [heval] at hfit
    exact ⟨obs, next, heval, (pulses_of_evaluated heval).asSpecified_iff.mpr hfit⟩

/-! ### A product that leaves 32 bits -/

def flatRaw (requiredFuelUs : UInt32) (ve : UInt16) : Calibration :=
  let axis : Axis16 := ⟨2, .ofFn fun i => if i.val = 1 then 10000 else 0⟩
  let table (value : UInt16) : Table2D16 UInt16 := ⟨axis, axis, .replicate 16 (.replicate 16 value)⟩
  let curve (value : UInt16) : Curve16 := ⟨axis, .replicate 16 value⟩
  let signed : SignedCurve16 := ⟨axis, .replicate 16 0⟩
  { veTable := table ve
    afrTargetTable := table 1470
    sparkAdvanceTableDeg10 := ⟨axis, axis, .replicate 16 (.replicate 16 150)⟩
    dwellTableUs := ⟨axis, axis, .replicate 16 (.replicate 16 2500)⟩
    injectionTargetTableDeg10 := table 360
    deadtimeTableUs := table 500
    crankingCurve := curve 1000
    afterstartTable := table 1000
    afterstartWindowCycles := 0
    warmupCurve := curve 1000
    aeTpsThresholdCurve := curve 20000
    aeMapThresholdCurve := curve 20000
    aeShotCurveUs := curve 0
    aeDecayStepsCurve := curve 0
    aeDecayRatioCurveX1000 := curve 500
    dfcoEntryRpm := 2000
    dfcoExitRpm := 1500
    dfcoEntryTpsX100 := 100
    dfcoExitTpsX100 := 200
    dfcoEntryMapKpa10 := 400
    dfcoDelayCycles := 3
    softRevRpm := 6500
    hardRevRpm := 7000
    revHysteresisRpm := 200
    softRetardMaxDeg10 := 50
    launchRpmLimit := 4000
    launchCutCycles := 2
    flatShiftRpmMin := 4500
    flatShiftCutCycles := 2
    knockThresholdX100 := 200
    knockRetardStepDeg10 := 20
    knockRetardMaxDeg10 := 100
    knockRecoveryStepDeg10 := 10
    knockRecoveryDelayCycles := 2
    tpsAdcMinCounts := 100
    tpsAdcMaxCounts := 4000
    idleTargetRpm := 850
    idleBaseDutyX1000 := 300
    idleKpX1000 := 0
    idleKiX1000 := 0
    idleTimingRpmMax := 1500
    idleTimingTpsMaxX100 := 100
    idleAdvanceCurveDeg10 := signed
    idleTimingMinTrimDeg10 := -50
    idleTimingMaxTrimDeg10 := 50
    cltTimingCorrCurveDeg10 := signed
    iatTimingCorrCurveDeg10 := signed
    lambdaKpX1000 := 0
    lambdaKiX1000 := 0
    o2WidebandAfrMinX100 := 1000
    o2WidebandAfrMaxX100 := 2000
    o2NarrowbandThresholdCounts := 2000
    o2NarrowbandHysteresisCounts := 100
    o2NarrowbandRichAfrX100 := 1300
    o2NarrowbandLeanAfrX100 := 1600
    cltCorrCurve := curve 1000
    iatCorrCurve := curve 1000
    baroCorrCurve := curve 1000
    vbatCorrCurve := curve 1000
    requiredFuelUs := requiredFuelUs
    prefKpa10 := 1000
    stoichAfrX100 := 1470
    pwMaxUs := 20000
    injectionAngleMode := .endOfInjection
    cylinderPhaseDeg10 := ⟨4, .ofFn fun i => UInt16.ofNat (1800 * (i.val % 4))⟩ }

lemma flatRaw_large_accepted : validateCalibration (flatRaw 1431655766 30000) = .ok () := by
  decide +kernel

/-- Three times the required fuel is two more than 32 bits hold. -/
def largeFuel : ValidatedCalibration := ⟨flatRaw 1431655766 30000, flatRaw_large_accepted⟩

/-- The runtime opens the injector for its dead time and two microseconds; the specification asks
for the longest pulse. -/
theorem pwBaseUs_truncated :
    ((evaluated largeFuel.raw.toRuntime {} (cruising 3000 500 1000)).map fun result =>
        (result.1.pwBaseUs, result.1.pwCorrUs)) = some (2, 502) ∧
      (evaluateTables largeFuel (specInput (cruising 3000 500 1000))).ve = 30000 ∧
      computePwBaseUs largeFuel 30000 = 4294967295 ∧
      computePwCorrUs largeFuel {} (specInput (cruising 3000 500 1000))
        ⟨computePwAirUs largeFuel 4294967295 1000, 0, 500, 1000, 1000, 1000, 1000, 1000, 1000, 1000,
          1000, 1000⟩ = 20000 := by
  refine ⟨?_, ?_, ?_, ?_⟩ <;> decide +kernel

end Pipoco.Spec
