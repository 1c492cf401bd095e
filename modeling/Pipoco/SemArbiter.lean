import Pipoco.Runs
import Pipoco.SemFuel

/-!
What one evaluation does to the carried state.

An evaluation that succeeds runs the enrichment, the arbiter and the controllers, in this order,
and they share the state without meeting: each writes fields of its own. The arbiter answers on
one of eight paths, which are named here once, with what each asks of the state and what it
leaves; the later files argue by these cases.
-/

namespace Pipoco.SemFuel

open Domain Runs

/-! ### Runs -/

variable (cal : RuntimeSemanticCalibration) (s : RuntimeSemanticState)
  (input : RuntimeSemanticInputSnapshot)

def evaluated : Option (RuntimeSemanticFuelObservations × RuntimeSemanticState) :=
  match runtimeSemanticEvaluateFuelWithState cal input s with
  | some (.ok result) => some result
  | _ => none

variable {cal input} in
lemma evaluated_eq_some_iff {state : RuntimeSemanticState}
    {result : RuntimeSemanticFuelObservations × RuntimeSemanticState} :
    evaluated cal state input = some result ↔
      runtimeSemanticEvaluateFuelWithState cal input state = some (.ok result) := by
  unfold evaluated
  cases runtimeSemanticEvaluateFuelWithState cal input state with
  | none => simp
  | some e => cases e <;> simp

def carried : RuntimeSemanticState := (evaluated cal s input).elim s Prod.snd

/-- The evaluator with something else carried along, which is renewed when it succeeds. -/
def carriedWith {γ : Type} (cal : RuntimeSemanticCalibration)
    (renew : RuntimeSemanticState → γ → RuntimeSemanticInputSnapshot → RuntimeSemanticState → γ)
    (w : RuntimeSemanticState × γ) (input : RuntimeSemanticInputSnapshot) :
    RuntimeSemanticState × γ :=
  (evaluated cal w.1 input).elim w fun result => (result.2, renew w.1 w.2 input result.2)

section carriedWith

variable {γ : Type} {cal : RuntimeSemanticCalibration}
  {renew : RuntimeSemanticState → γ → RuntimeSemanticInputSnapshot → RuntimeSemanticState → γ}

lemma fst_carriedWith (w : RuntimeSemanticState × γ) (input : RuntimeSemanticInputSnapshot) :
    (carriedWith cal renew w input).1 = carried cal w.1 input := by
  unfold carriedWith carried
  cases evaluated cal w.1 input <;> rfl

variable {input : RuntimeSemanticInputSnapshot} {s : RuntimeSemanticState}

/-- What holds before a step and after an evaluation that succeeds holds after the step. -/
lemma carriedWith_inv {I : RuntimeSemanticState × γ → Prop} {w : RuntimeSemanticState × γ}
    (hw : I w) (h : ∀ obs next, evaluated cal w.1 input = some (obs, next) →
      I (next, renew w.1 w.2 input next)) : I (carriedWith cal renew w input) := by
  unfold carriedWith
  cases heval : evaluated cal w.1 input with
  | none => exact hw
  | some result => exact h result.1 result.2 heval

lemma carried_inv {I : RuntimeSemanticState → Prop} (hs : I s)
    (h : ∀ obs next, evaluated cal s input = some (obs, next) → I next) :
    I (carried cal s input) := by
  unfold carried
  cases heval : evaluated cal s input with
  | none => exact hs
  | some result => exact h result.1 result.2 heval

/-- A property of the evaluations that succeed, and the condition for it. -/
lemma forall_evaluated_iff {C : Prop}
    {P : RuntimeSemanticFuelObservations → RuntimeSemanticState → Prop}
    (h : ∀ obs next, evaluated cal s input = some (obs, next) → (P obs next ↔ C)) :
    (∀ obs next, evaluated cal s input = some (obs, next) → P obs next) ↔
      ((evaluated cal s input).isSome → C) := by
  constructor
  · intro hall hsome
    obtain ⟨⟨obs, next⟩, heval⟩ := Option.isSome_iff_exists.mp hsome
    exact (h obs next heval).mp (hall obs next heval)
  · intro hc obs next heval
    exact (h obs next heval).mpr (hc (by rw [heval]; rfl))

end carriedWith

/-! ### Fields that stay -/

variable {cal : RuntimeSemanticCalibration} {input : RuntimeSemanticInputSnapshot}
  {s : RuntimeSemanticState}

variable (cal s input)

lemma evaluateAe_frame : ∃ pulse remaining active, evaluateAe cal input s =
      { s with aePulseUs := pulse, aeDecayStepsRemaining := remaining, aeActive := active } := by
  unfold evaluateAe
  simp only
  split_ifs <;> exact ⟨_, _, _, rfl⟩

lemma evaluateDfco_frame : ∃ active counter, evaluateDfco cal input s =
      { s with dfcoActive := active, dfcoQualifyCounter := counter } := by
  unfold evaluateDfco
  split_ifs <;> exact ⟨_, _, rfl⟩

lemma evaluateKnock_frame : ∃ retard counter, evaluateKnock cal input s =
      { s with knockRetardDeg10 := retard, knockRecoveryCounter := counter } := by
  unfold evaluateKnock
  simp only
  split_ifs <;> exact ⟨_, _, rfl⟩

/-! ### The paths of the arbiter -/

variable {cut : RuntimeSemanticState} {fuel : Bool} {result : RuntimeSemanticState × Bool × Bool}
  {spark : Bool}

def direct : Bool := input.directFuelCutRequest || input.directSparkCutRequest

/-- The safety latch is held after it has looked at the input. -/
def safetyHeld : Bool := (latchSafety input s).safetyLatched

def hardLimited (active : Bool) : Bool :=
  latchWithHysteresis active input.rpm cal.hardRevRpm cal.revHysteresisRpm

def softLimited (active : Bool) : Bool :=
  latchWithHysteresis active input.rpm cal.softRevRpm cal.revHysteresisRpm

def launchEngaged : Bool := input.launchArmed && input.rpm ≥ cal.launchRpmLimit

def flatShiftEngaged : Bool := input.flatShiftArmed && input.rpm ≥ cal.flatShiftRpmMin

def launchPhase : Option Bool :=
  cutPhase (launchEngaged cal input) cal.launchCutCycles s.launchCutCycleCount

def flatShiftPhase : Option Bool :=
  cutPhase (flatShiftEngaged cal input) cal.flatShiftCutCycles s.flatShiftCutCycleCount

/-- The state the arbiter works on once the requests, the latch and the hard limit let it pass. -/
def passed : RuntimeSemanticState :=
  { s with
    launchActive := false
    flatShiftActive := false
    safetyLatched := false
    revHardActive := false }

/-- No request, no latch and no hard limit cuts. -/
@[mk_iff]
structure Passes (cal : RuntimeSemanticCalibration) (input : RuntimeSemanticInputSnapshot)
    (s : RuntimeSemanticState) : Prop where
  direct : direct input = false
  safety : safetyHeld input s = false
  hard : hardLimited cal input s.revHardActive = false

instance : Decidable (Passes cal input s) := decidable_of_iff' _ (passes_iff cal input s)

/-- Nor does a cycle cut, so the deceleration cut is looked at. -/
@[mk_iff]
structure PassesCycles (cal : RuntimeSemanticCalibration) (input : RuntimeSemanticInputSnapshot)
    (s : RuntimeSemanticState) : Prop extends Passes cal input s where
  launch : launchPhase cal input s = some false
  flatShift : flatShiftPhase cal input s = some false

instance : Decidable (PassesCycles cal input s) :=
  decidable_of_iff' _ (passesCycles_iff cal input s)

/-- The deceleration cut is a matter of running engines. -/
def dfcoStage : RuntimeSemanticState :=
  if input.mode = .running then evaluateDfco cal input s else s

variable {cal s input}

/-- The paths of the arbiter, with the state and the cuts of fuel and spark they end in. -/
inductive Arbitrated (cal : RuntimeSemanticCalibration) (input : RuntimeSemanticInputSnapshot)
    (s : RuntimeSemanticState) : RuntimeSemanticState → Bool → Bool → Prop
  | direct (hd : direct input = true) :
      Arbitrated cal input s { s with launchActive := false, flatShiftActive := false }
        input.directFuelCutRequest input.directSparkCutRequest
  | safety (hd : SemFuel.direct input = false) (hl : safetyHeld input s = true) :
      Arbitrated cal input s
        { s with launchActive := false, flatShiftActive := false, safetyLatched := true } true true
  | hard (hd : SemFuel.direct input = false) (hl : safetyHeld input s = false)
      (hh : hardLimited cal input s.revHardActive = true) :
      Arbitrated cal input s { passed s with revHardActive := true } true true
  | launch (hpass : Passes cal input s) (hphase : launchPhase cal input s = some true) :
      Arbitrated cal input s { passed s with launchActive := true } true true
  | flatShift (hpass : Passes cal input s) (hlaunch : launchPhase cal input s = some false)
      (hphase : flatShiftPhase cal input s = some true) :
      Arbitrated cal input s { passed s with flatShiftActive := true } true true
  | dfco (hpass : PassesCycles cal input s) (hmode : input.mode = .running)
      (hactive : (evaluateDfco cal input (passed s)).dfcoActive = true) :
      Arbitrated cal input s (dfcoStage cal input (passed s)) true false
  | soft (hpass : PassesCycles cal input s)
      (hdfco : ¬ (input.mode = .running ∧ (evaluateDfco cal input (passed s)).dfcoActive = true))
      (hsoft : softLimited cal input s.revSoftActive = true) :
      Arbitrated cal input s { dfcoStage cal input (passed s) with revSoftActive := true }
        false true
  | noCut (hpass : PassesCycles cal input s)
      (hdfco : ¬ (input.mode = .running ∧ (evaluateDfco cal input (passed s)).dfcoActive = true))
      (hsoft : softLimited cal input s.revSoftActive = false) :
      Arbitrated cal input s
        (evaluateKnock cal input { dfcoStage cal input (passed s) with revSoftActive := false })
        false false

lemma latchWithHysteresis_hard (active : Bool) :
    latchWithHysteresis active input.rpm cal.hardRevRpm cal.revHysteresisRpm =
      hardLimited cal input active := rfl

lemma cutPhase_launch : cutPhase (input.launchArmed && input.rpm ≥ cal.launchRpmLimit)
    cal.launchCutCycles s.launchCutCycleCount = launchPhase cal input s := rfl

lemma cutPhase_flatShift : cutPhase (input.flatShiftArmed && input.rpm ≥ cal.flatShiftRpmMin)
    cal.flatShiftCutCycles s.flatShiftCutCycleCount = flatShiftPhase cal input s := rfl

variable (s input) in
lemma latchSafety_eq : latchSafety input s = { s with safetyLatched := safetyHeld input s } := by
  unfold safetyHeld latchSafety
  cases hs : s.safetyLatched <;> simp only [Bool.false_eq_true, if_true, if_false] <;> split_ifs <;>
    rfl

lemma safetyHeld_congr {t : RuntimeSemanticState} (h : t.safetyLatched = s.safetyLatched) :
    safetyHeld input t = safetyHeld input s := by
  simp only [safetyHeld, latchSafety, h]
  split_ifs <;> first | rfl | exact h

lemma safetyHeld_cleared : safetyHeld input { s with
    launchActive := false, flatShiftActive := false } = safetyHeld input s := safetyHeld_congr rfl

variable (cal s input) in
lemma dfcoStage_frame : ∃ active counter, dfcoStage cal input s =
      { s with dfcoActive := active, dfcoQualifyCounter := counter } := by
  unfold dfcoStage
  split_ifs
  · exact evaluateDfco_frame cal input s
  · exact ⟨_, _, rfl⟩

lemma arbitrated_stages (hpass : PassesCycles cal input s)
    (h : (if (input.mode = .running && (dfcoStage cal input (passed s)).dfcoActive) = true then
        some (dfcoStage cal input (passed s), true, false)
      else if softLimited cal input (dfcoStage cal input (passed s)).revSoftActive = true then
        some ({ dfcoStage cal input (passed s) with
          revSoftActive := softLimited cal input (dfcoStage cal input (passed s)).revSoftActive },
          false, true)
      else some (evaluateKnock cal input { dfcoStage cal input (passed s) with
          revSoftActive := softLimited cal input (dfcoStage cal input (passed s)).revSoftActive },
          false, false)) = some result) :
    Arbitrated cal input s result.1 result.2.1 result.2.2 := by
  have hrev : (dfcoStage cal input (passed s)).revSoftActive = s.revSoftActive := by
    obtain ⟨active, counter, hframe⟩ := dfcoStage_frame cal input (passed s)
    rw [hframe]
    rfl
  have hstage : input.mode = .running →
      dfcoStage cal input (passed s) = evaluateDfco cal input (passed s) := fun hm => by
    rw [dfcoStage, if_pos hm]
  rw [hrev] at h
  by_cases hdfco : input.mode = .running ∧ (evaluateDfco cal input (passed s)).dfcoActive = true
  · rw [if_pos (by simp [hdfco.1, hstage hdfco.1, hdfco.2])] at h
    cases h
    exact .dfco hpass hdfco.1 hdfco.2
  · have hnot : ¬ (input.mode = .running && (dfcoStage cal input (passed s)).dfcoActive) = true := by
      intro hand
      simp only [Bool.and_eq_true, decide_eq_true_eq] at hand
      exact hdfco ⟨hand.1, hstage hand.1 ▸ hand.2⟩
    rw [if_neg hnot] at h
    cases hsoft : softLimited cal input s.revSoftActive with
    | true =>
      simp only [hsoft, if_true] at h
      cases h
      exact .soft hpass hdfco hsoft
    | false =>
      simp only [hsoft, Bool.false_eq_true, if_false] at h
      cases h
      exact .noCut hpass hdfco hsoft

lemma arbitrated_limiters (hd : direct input = false) (hl : safetyHeld input s = false)
    (h : evaluateLimiters cal input { s with
      launchActive := false, flatShiftActive := false, safetyLatched := false } = some result) :
    Arbitrated cal input s result.1 result.2.1 result.2.2 := by
  simp only [evaluateLimiters, latchWithHysteresis_hard, cutPhase_launch, cutPhase_flatShift] at h
  cases hh : hardLimited cal input s.revHardActive with
  | true =>
    simp only [hh, if_true] at h
    cases h
    exact .hard hd hl hh
  | false =>
    have hpass : Passes cal input s := ⟨hd, hl, hh⟩
    simp only [hh, Bool.false_eq_true, if_false] at h
    rcases hp : launchPhase cal input s with _ | _ | _
    · simp [hp] at h
    · rcases hq : flatShiftPhase cal input s with _ | _ | _ <;> simp only [hp, hq] at h
      · cases h
      · exact arbitrated_stages ⟨hpass, hp, hq⟩ h
      · cases h
        exact .flatShift hpass hp hq
    · simp only [hp] at h
      cases h
      exact .launch hpass hp

/-- **The paths of the arbiter.** -/
theorem arbitrated (h : evaluateCutArbitration cal input s = some result) :
    Arbitrated cal input s result.1 result.2.1 result.2.2 := by
  have hdirect : (input.directFuelCutRequest || input.directSparkCutRequest) = direct input := rfl
  simp only [evaluateCutArbitration, hdirect, latchSafety_eq, safetyHeld_cleared] at h
  cases hd : direct input with
  | true =>
    simp only [hd, if_true] at h
    cases h
    exact .direct hd
  | false =>
    simp only [hd, Bool.false_eq_true, if_false] at h
    cases hl : safetyHeld input s with
    | true =>
      simp only [hl, if_true] at h
      cases h
      exact .safety hd hl
    | false =>
      simp only [hl, Bool.false_eq_true, if_false] at h
      exact arbitrated_limiters hd hl h

/-- What cuts before the deceleration cut is looked at leaves its fields, and those of the stages
after it. -/
lemma Arbitrated.early (h : Arbitrated cal input s cut fuel spark)
    (hearly : ¬ PassesCycles cal input s) :
    ∃ launch flat safety hard, cut = { s with
      launchActive := launch, flatShiftActive := flat, safetyLatched := safety,
      revHardActive := hard } := by
  cases h with
  | direct _ | safety _ _ | hard _ _ _ | launch _ _ | flatShift _ _ _ => exact ⟨_, _, _, _, rfl⟩
  | dfco hpass _ _ | soft hpass _ _ | noCut hpass _ _ => exact absurd hpass hearly

lemma Arbitrated.staged (h : Arbitrated cal input s cut fuel spark)
    (hpass : PassesCycles cal input s) :
    ((input.mode = .running ∧ (evaluateDfco cal input (passed s)).dfcoActive = true) ∧
      cut = dfcoStage cal input (passed s)) ∨
    ¬ (input.mode = .running ∧ (evaluateDfco cal input (passed s)).dfcoActive = true) ∧
      (softLimited cal input s.revSoftActive = true ∧
        cut = { dfcoStage cal input (passed s) with revSoftActive := true } ∨
      softLimited cal input s.revSoftActive = false ∧
        cut = evaluateKnock cal input
          { dfcoStage cal input (passed s) with revSoftActive := false }) := by
  cases h with
  | direct hd => exact nomatch hpass.direct.symm.trans hd
  | safety _ hl => exact nomatch hpass.safety.symm.trans hl
  | hard _ _ hh => exact nomatch hpass.hard.symm.trans hh
  | launch _ hphase => exact nomatch hpass.launch.symm.trans hphase
  | flatShift _ _ hphase => exact nomatch hpass.flatShift.symm.trans hphase
  | dfco _ hmode hactive => exact .inl ⟨⟨hmode, hactive⟩, rfl⟩
  | soft _ hdfco hsoft => exact .inr ⟨hdfco, .inl ⟨hsoft, rfl⟩⟩
  | noCut _ hdfco hsoft => exact .inr ⟨hdfco, .inr ⟨hsoft, rfl⟩⟩

/-! ### An evaluation that succeeds -/

variable {obs : RuntimeSemanticFuelObservations} {next : RuntimeSemanticState}

/-- **One evaluation.** The arbiter works on the state the enrichment leaves, and the controllers
leave what the arbiter wrote. -/
theorem evaluated_cases (h : evaluated cal s input = some (obs, next)) : ∃ cut,
      Arbitrated cal input (evaluateAe cal input s) cut obs.fuelCut obs.sparkCut ∧
      (obs, next) = completeEvaluation cal input s (evaluateAe cal input s) cut obs.fuelCut
        obs.sparkCut := by
  unfold evaluated runtimeSemanticEvaluateFuelWithState at h
  split at h
  · rename_i result hresult
    split at hresult
    · simp at hresult
    · split_ifs at hresult
      · simp at hresult
      · simp at hresult
      · obtain ⟨cut, hcut, hok⟩ := Option.map_eq_some_iff.mp hresult
        have hpair : completeEvaluation cal input s (evaluateAe cal input s) cut.1 cut.2.1 cut.2.2 =
          (obs, next) := (Except.ok.inj hok).trans (Option.some.inj h)
        have hfuel : obs.fuelCut = cut.2.1 := (congrArg (fun r => r.1.fuelCut) hpair).symm
        have hspark : obs.sparkCut = cut.2.2 := (congrArg (fun r => r.1.sparkCut) hpair).symm
        rw [hfuel, hspark]
        exact ⟨cut.1, arbitrated hcut, hpair.symm⟩
  · simp at h

lemma evaluated_state (h : evaluated cal s input = some (obs, next)) : ∃ cut count lambda idle,
      Arbitrated cal input (evaluateAe cal input s) cut obs.fuelCut obs.sparkCut ∧
      next = { cut with
        afterstartCycleCount := count, lambdaIntegratorAcc := lambda, idleIntegratorAcc := idle } := by
  obtain ⟨cut, hcut, hpair⟩ := evaluated_cases h
  exact ⟨cut, _, _, _, hcut, congrArg Prod.snd hpair⟩

lemma safetyHeld_evaluateAe : safetyHeld input (evaluateAe cal input s) = safetyHeld input s := by
  obtain ⟨pulse, remaining, active, h⟩ := evaluateAe_frame cal input s
  exact safetyHeld_congr (by rw [h])

lemma arbitrated_frame (h : Arbitrated cal input s cut fuel spark) :
    ∃ launch flat safety hard soft dfco qualify retard recovery, cut = { s with
      launchActive := launch, flatShiftActive := flat, safetyLatched := safety,
      revHardActive := hard, revSoftActive := soft, dfcoActive := dfco,
      dfcoQualifyCounter := qualify, knockRetardDeg10 := retard,
      knockRecoveryCounter := recovery } := by
  obtain ⟨dfco, qualify, hdfco⟩ := dfcoStage_frame cal input (passed s)
  cases h with
  | direct _ | safety _ _ | hard _ _ _ | launch _ _ | flatShift _ _ _ =>
    exact ⟨_, _, _, _, _, _, _, _, _, rfl⟩
  | dfco _ _ _ | soft _ _ _ =>
    rw [hdfco]
    exact ⟨_, _, _, _, _, _, _, _, _, rfl⟩
  | noCut _ _ _ =>
    obtain ⟨retard, recovery, hknock⟩ := evaluateKnock_frame cal input
      { dfcoStage cal input (passed s) with revSoftActive := false }
    rw [hknock, hdfco]
    exact ⟨_, _, _, _, _, _, _, _, _, rfl⟩

lemma evaluated_frame (h : evaluated cal s input = some (obs, next)) :
    next.launchCutCycleCount = s.launchCutCycleCount ∧
      next.flatShiftCutCycleCount = s.flatShiftCutCycleCount ∧
      next.lastValidLoadKpa10 = s.lastValidLoadKpa10 ∧
      next.lastValidMapKpa10 = s.lastValidMapKpa10 ∧
      next.aeActive = (evaluateAe cal input s).aeActive ∧
      next.aePulseUs = (evaluateAe cal input s).aePulseUs ∧
      next.aeDecayStepsRemaining = (evaluateAe cal input s).aeDecayStepsRemaining := by
  obtain ⟨cut, count, lambda, idle, hcut, rfl⟩ := evaluated_state h
  obtain ⟨launch, flat, safety, hard, soft, dfco, qualify, retard, recovery, rfl⟩ :=
    arbitrated_frame hcut
  obtain ⟨pulse, remaining, active, hae⟩ := evaluateAe_frame cal input s
  rw [hae]
  exact ⟨rfl, rfl, rfl, rfl, rfl, rfl, rfl⟩

section enrichment

lemma revHardActive_evaluateAe : (evaluateAe cal input s).revHardActive = s.revHardActive := by
  obtain ⟨pulse, remaining, active, h⟩ := evaluateAe_frame cal input s
  rw [h]

lemma launchPhase_evaluateAe :
    launchPhase cal input (evaluateAe cal input s) = launchPhase cal input s := by
  obtain ⟨pulse, remaining, active, h⟩ := evaluateAe_frame cal input s
  rw [h]
  rfl

lemma flatShiftPhase_evaluateAe :
    flatShiftPhase cal input (evaluateAe cal input s) = flatShiftPhase cal input s := by
  obtain ⟨pulse, remaining, active, h⟩ := evaluateAe_frame cal input s
  rw [h]
  rfl

/-- What the arbiter asks is not touched by the enrichment before it. -/
lemma passes_evaluateAe_iff : Passes cal input (evaluateAe cal input s) ↔ Passes cal input s := by
  rw [passes_iff, passes_iff, safetyHeld_evaluateAe, revHardActive_evaluateAe]

lemma passesCycles_evaluateAe_iff :
    PassesCycles cal input (evaluateAe cal input s) ↔ PassesCycles cal input s := by
  rw [passesCycles_iff, passesCycles_iff, passes_evaluateAe_iff, launchPhase_evaluateAe,
    flatShiftPhase_evaluateAe]

end enrichment

/-! ### When an evaluation divides by zero -/

variable (cal s input) in
/-- A cycle cut is reached whose count plus one is zero. -/
def Divides : Prop :=
  Passes cal input s ∧ (launchPhase cal input s = none ∨
    launchPhase cal input s = some false ∧ flatShiftPhase cal input s = none)

lemma divides_evaluateAe_iff :
    Divides cal input (evaluateAe cal input s) ↔ Divides cal input s := by
  unfold Divides
  rw [passes_evaluateAe_iff, launchPhase_evaluateAe, flatShiftPhase_evaluateAe]

lemma evaluateLimiters_eq_none_iff (hd : direct input = false) (hl : safetyHeld input s = false) :
    evaluateLimiters cal input { s with
      launchActive := false, flatShiftActive := false, safetyLatched := false } = none ↔
      Divides cal input s := by
  simp only [evaluateLimiters, latchWithHysteresis_hard, cutPhase_launch, cutPhase_flatShift]
  by_cases hh : hardLimited cal input s.revHardActive = true
  · have hnot : ¬ Divides cal input s := fun h => Bool.false_ne_true (h.1.hard.symm.trans hh)
    simp [hh, hnot]
  · have hpass : Passes cal input s := ⟨hd, hl, Bool.eq_false_iff.mpr hh⟩
    simp only [hh, Divides, hpass, true_and]
    rcases launchPhase cal input s with _ | _ | _ <;>
      rcases flatShiftPhase cal input s with _ | _ | _ <;> simp
    split_ifs <;> simp

lemma evaluateCutArbitration_eq_none_iff :
    evaluateCutArbitration cal input s = none ↔ Divides cal input s := by
  have hdirect : (input.directFuelCutRequest || input.directSparkCutRequest) = direct input := rfl
  simp only [evaluateCutArbitration, hdirect, latchSafety_eq, safetyHeld_cleared]
  cases hd : direct input with
  | true =>
    have hnot : ¬ Divides cal input s := fun h => Bool.false_ne_true (h.1.direct.symm.trans hd)
    simp [hnot]
  | false =>
    cases hl : safetyHeld input s with
    | true =>
      have hnot : ¬ Divides cal input s := fun h => Bool.false_ne_true (h.1.safety.symm.trans hl)
      simp [hnot]
    | false => exact evaluateLimiters_eq_none_iff hd hl

variable (cal input) in
/-- The evaluator takes the input: the calibration is accepted and there is a target. -/
def taken : Bool := cal.accepted && targetAfrX100 cal input ≠ 0

lemma evaluate_eq_none_iff :
    runtimeSemanticEvaluateFuelWithState cal input s = none ↔
      taken cal input = true ∧ Divides cal input s := by
  unfold runtimeSemanticEvaluateFuelWithState taken RuntimeSemanticCalibration.accepted
  cases hval : validateCalibration cal with
  | error e => simp
  | ok _ =>
    by_cases hafr : targetAfrX100 cal input = 0
    · simp [hafr]
    by_cases hpref : cal.prefKpa10 = 0
    · simp [hafr, hpref]
    simp only [hafr, hpref, if_false, Option.map_eq_none_iff, evaluateCutArbitration_eq_none_iff,
      divides_evaluateAe_iff]
    simp [hafr, hpref]

/-- An input that is taken is evaluated, unless the evaluator divides by zero. -/
lemma evaluated_isSome_iff (htaken : taken cal input = true) :
    (evaluated cal s input).isSome ↔ ¬ Divides cal input s := by
  have hnone : runtimeSemanticEvaluateFuelWithState cal input s = none ↔
    taken cal input = true ∧ Divides cal input s := evaluate_eq_none_iff
  unfold evaluated
  cases heval : runtimeSemanticEvaluateFuelWithState cal input s with
  | none => simpa using (hnone.mp heval).2
  | some e =>
    have hdivides : ¬ Divides cal input s := fun h => nomatch heval.symm.trans (hnone.mpr ⟨htaken, h⟩)
    rcases evaluate_cases heval with ⟨hrefused, -⟩ | ⟨-, cut, obs, next, -, rfl, -⟩
    · exact nomatch hrefused.symm.trans htaken
    · simpa using hdivides

/-! ### When both channels are cut -/

variable (cal s input) in
/-- What cuts fuel and spark together: both requests, or without any request the latch, the hard
limit or a cycle cut. -/
def CutsBoth : Prop :=
  if direct input then input.directFuelCutRequest = true ∧ input.directSparkCutRequest = true
  else safetyHeld input s = true ∨ hardLimited cal input s.revHardActive = true ∨
    launchPhase cal input s = some true ∨
    launchPhase cal input s = some false ∧ flatShiftPhase cal input s = some true
  deriving Decidable

lemma cutsBoth_evaluateAe_iff :
    CutsBoth cal input (evaluateAe cal input s) ↔ CutsBoth cal input s := by
  unfold CutsBoth
  rw [safetyHeld_evaluateAe, revHardActive_evaluateAe, launchPhase_evaluateAe,
    flatShiftPhase_evaluateAe]

lemma PassesCycles.not_cutsBoth (h : PassesCycles cal input s) : ¬ CutsBoth cal input s := by
  simp [CutsBoth, h.direct, h.safety, h.hard, h.launch, h.flatShift]

lemma Arbitrated.cutsBoth_iff (h : Arbitrated cal input s cut fuel spark) :
    fuel = true ∧ spark = true ↔ CutsBoth cal input s := by
  cases h with
  | direct hd => simp [CutsBoth, hd]
  | safety hd hl => simp [CutsBoth, hd, hl]
  | hard hd _ hh => simp [CutsBoth, hd, hh]
  | launch hpass hphase => simp [CutsBoth, hpass.direct, hphase]
  | flatShift hpass hlaunch hphase => simp [CutsBoth, hpass.direct, hlaunch, hphase]
  | dfco hpass _ _ | soft hpass _ _ | noCut hpass _ _ => simp [hpass.not_cutsBoth]

lemma CutsBoth.not_divides (h : CutsBoth cal input s) : ¬ Divides cal input s := by
  rintro ⟨hpass, hdivides⟩
  simp only [CutsBoth, hpass.direct, hpass.safety, hpass.hard, Bool.false_eq_true, if_false,
    false_or] at h
  rcases hdivides with hlaunch | ⟨hlaunch, hflat⟩
  · simp [hlaunch] at h
  · simp [hlaunch, hflat] at h

/-! ### A concrete calibration -/

/-- The flat calibration with limits a road engine could have. -/
def roadCalibration : RuntimeSemanticCalibration :=
  { flatCalibration with
    aeTpsThresholdCurve := flatCurve 500
    aeMapThresholdCurve := flatCurve 500
    aeShotCurveUs := flatCurve 800
    aeDecayStepsCurve := flatCurve 2
    aeDecayRatioCurveX1000 := flatCurve 500
    dfcoEntryRpm := 2000
    dfcoExitRpm := 1500
    dfcoEntryTpsX100 := 100
    dfcoExitTpsX100 := 200
    dfcoEntryMapKpa10 := 400
    dfcoDelayCycles := 3
    softRevRpm := 5500
    hardRevRpm := 6000
    revHysteresisRpm := 200
    softRetardMaxDeg10 := 50
    launchRpmLimit := 4000
    launchCutCycles := 2
    flatShiftRpmMin := 4500
    flatShiftCutCycles := 2
    knockThresholdX100 := 200
    knockRetardStepDeg10 := 20
    knockRetardMaxDeg10 := 100
    knockRecoveryStepDeg10 := 10
    knockRecoveryDelayCycles := 2 }

/-- A running engine at the given speed, throttle and manifold pressure. -/
def cruising (rpm : Rpm) (tpsX100 : UInt16) (mapKpa10 : Kpa10) : RuntimeSemanticInputSnapshot where
  tUs := 0
  rpm := rpm
  mapKpa10 := mapKpa10
  loadKpa10 := mapKpa10
  tpsX100 := tpsX100
  cltC10 := 850
  iatC10 := 250
  baroKpa10 := 1000
  vbattMv := 14000
  lambdaValid := false
  lambdaMeasured := 100
  requestedOpenLoop := false
  knockIntensityX100 := 0
  launchArmed := false
  flatShiftArmed := false
  sync := .locked true
  fuelCut := false
  sparkCut := false
  directFuelCutRequest := false
  directSparkCutRequest := false
  safetyLatchRequest := false
  mode := .running
  targetAfrOverrideX100 := none

end Pipoco.SemFuel
