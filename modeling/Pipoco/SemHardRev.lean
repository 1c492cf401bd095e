import Pipoco.SemArbiter

/-!
The hard rev limit over whole runs.

The limit is a latch on the engine speed: it sets at the limit and releases a hysteresis below.
It is meant to follow the speed alone, so this file carries along the latch that the speeds of a
run give by themselves, and compares the arbiter's with it.
-/

namespace Pipoco.SemHardRev

open Domain Runs SemFuel

variable {cal : RuntimeSemanticCalibration} {input : RuntimeSemanticInputSnapshot}
  {s next : RuntimeSemanticState} {obs : RuntimeSemanticFuelObservations}

variable (cal) in
def limitHeld (held : Bool) (input : RuntimeSemanticInputSnapshot) : Bool :=
  if held then cal.hardRevRpm.toNat - cal.revHysteresisRpm.toNat < input.rpm.toNat
  else cal.hardRevRpm.toNat ≤ input.rpm.toNat

lemma hardLimited_eq (held : Bool) : hardLimited cal input held = limitHeld cal held input := by
  cases held with
  | true =>
    simp only [hardLimited, latchWithHysteresis, limitHeld, if_true, gt_iff_lt,
      UInt16.lt_iff_toNat_lt, toNat_satSub16]
  | false =>
    simp only [hardLimited, latchWithHysteresis, limitHeld, Bool.false_eq_true, if_false, ge_iff_le,
      UInt16.le_iff_toNat_le]

/-! ### One evaluation -/

/-- What an evaluation does to the latch, with its cuts. -/
inductive HardStep (cal : RuntimeSemanticCalibration) (input : RuntimeSemanticInputSnapshot)
    (s : RuntimeSemanticState) (held fuel spark : Bool) : Prop
  | direct (hd : direct input = true) (hheld : held = s.revHardActive)
      (hfuel : fuel = input.directFuelCutRequest) (hspark : spark = input.directSparkCutRequest)
  | safety (hd : SemFuel.direct input = false) (hl : safetyHeld input s = true)
      (hheld : held = s.revHardActive) (hfuel : fuel = true) (hspark : spark = true)
  | renewed (hd : SemFuel.direct input = false) (hl : safetyHeld input s = false)
      (hheld : held = hardLimited cal input s.revHardActive)
      (hcut : held = true → fuel = true ∧ spark = true)

lemma hardStep_arbitrated {cut : RuntimeSemanticState} {fuel spark : Bool}
    (h : Arbitrated cal input s cut fuel spark) :
    HardStep cal input s cut.revHardActive fuel spark := by
  -- below the hard limit the latch is open and stays so
  have hopen (hpass : Passes cal input s) {held fuel spark : Bool} (hheld : held = false) :
      HardStep cal input s held fuel spark :=
    .renewed hpass.direct hpass.safety (hheld.trans hpass.hard.symm)
      fun htrue => absurd (hheld.symm.trans htrue) Bool.false_ne_true
  have hstage : (dfcoStage cal input (passed s)).revHardActive = false := by
    obtain ⟨active, counter, hframe⟩ := dfcoStage_frame cal input (passed s)
    rw [hframe]
    rfl
  cases h with
  | direct hd => exact .direct hd rfl rfl rfl
  | safety hd hl => exact .safety hd hl rfl rfl rfl
  | hard hd hl hh => exact .renewed hd hl hh.symm fun _ => ⟨rfl, rfl⟩
  | launch hpass _ | flatShift hpass _ _ => exact hopen hpass rfl
  | dfco hpass _ _ | soft hpass _ _ => exact hopen hpass.toPasses hstage
  | noCut hpass _ _ =>
    obtain ⟨retard, counter, hknock⟩ := evaluateKnock_frame cal input
      { dfcoStage cal input (passed s) with revSoftActive := false }
    rw [hknock]
    exact hopen hpass.toPasses hstage

lemma hardStep_evaluated (h : evaluated cal s input = some (obs, next)) :
    HardStep cal input s next.revHardActive obs.fuelCut obs.sparkCut := by
  obtain ⟨cut, count, lambda, idle, hcut, rfl⟩ := evaluated_state h
  have hheld : safetyHeld input (evaluateAe cal input s) = safetyHeld input s :=
    safetyHeld_evaluateAe
  have hhard : (evaluateAe cal input s).revHardActive = s.revHardActive := revHardActive_evaluateAe
  cases hardStep_arbitrated hcut with
  | direct hd hsame hfuel hspark => exact .direct hd (hsame.trans hhard) hfuel hspark
  | safety hd hl hsame hfuel hspark =>
    exact .safety hd (hheld ▸ hl) (hsame.trans hhard) hfuel hspark
  | renewed hd hl hsame hboth => exact .renewed hd (hheld ▸ hl) (hhard ▸ hsame) hboth

/-! ### Runs -/

variable (cal)

def withLimit :
    RuntimeSemanticState × Bool → RuntimeSemanticInputSnapshot → RuntimeSemanticState × Bool :=
  carriedWith cal fun _ held input _ => limitHeld cal held input

/-- The evaluation leaves the latch of the speeds, and while that is set it cuts fuel and
spark. -/
def CutsAtLimit (w : RuntimeSemanticState × Bool) (input : RuntimeSemanticInputSnapshot) : Prop :=
  ∀ obs next, evaluated cal w.1 input = some (obs, next) →
    next.revHardActive = limitHeld cal w.2 input ∧
      (limitHeld cal w.2 input = true → obs.fuelCut = true ∧ obs.sparkCut = true)

/-- An evaluation with a direct request or with the safety latch held does not change the limit,
and a direct request while it is held names both channels. -/
def Undisturbed (w : RuntimeSemanticState × Bool) (input : RuntimeSemanticInputSnapshot) : Prop :=
  (evaluated cal w.1 input).isSome →
    (direct input = true ∨ safetyHeld input w.1 = true → limitHeld cal w.2 input = w.2) ∧
      (direct input = true → limitHeld cal w.2 input = true →
        input.directFuelCutRequest = true ∧ input.directSparkCutRequest = true)

variable {cal}

lemma cutsAtLimit_iff {w : RuntimeSemanticState × Bool} (hw : w.1.revHardActive = w.2) :
    CutsAtLimit cal w input ↔ Undisturbed cal w input := by
  refine forall_evaluated_iff fun obs next heval => ?_
  cases hardStep_evaluated heval with
  | direct hd hheld hfuel hspark =>
    rw [hheld, hw, hfuel, hspark]
    simp only [hd, true_or, forall_const, eq_comm]
  | safety hd hl hheld hfuel hspark =>
    rw [hheld, hw, hfuel, hspark]
    simp only [hd, hl, or_true, forall_const, and_self, implies_true, Bool.false_eq_true,
      false_implies, and_true, eq_comm]
  | renewed hd hl hheld hboth =>
    rw [hw, hardLimited_eq] at hheld
    simp only [hd, hl, Bool.false_eq_true, or_self, false_implies, and_self, iff_true]
    exact ⟨hheld, fun hlimit => hboth (hheld.trans hlimit)⟩

/-- **The hard rev limit.** From any state, every evaluation of a run leaves the latch that the
speeds of the run give by themselves, and cuts fuel and spark while it is set, exactly when every
evaluation is undisturbed. -/
theorem hard_limit_iff (cal : RuntimeSemanticCalibration) (s : RuntimeSemanticState)
    (inputs : List RuntimeSemanticInputSnapshot) :
    Along (withLimit cal) (CutsAtLimit cal) (s, s.revHardActive) inputs ↔
      Along (withLimit cal) (Undisturbed cal) (s, s.revHardActive) inputs := by
  refine along_iff_of_inv (I := fun w => w.1.revHardActive = w.2) (L := fun _ _ => True)
    (fun w input hw _ => cutsAtLimit_iff hw) ?_ rfl along_true
  intro w input hw _ hcuts
  exact carriedWith_inv (I := fun w => w.1.revHardActive = w.2) hw
    fun obs next heval => (hcuts obs next heval).1

def overspeed : RuntimeSemanticInputSnapshot := cruising 6100 5000 900

/-- The first evaluation above the limit cuts both channels. In the second a direct request for the
fuel alone leaves the spark on, with the limit held. -/
theorem direct_request_spares_spark :
    let request := { overspeed with directFuelCutRequest := true }
    ((evaluated roadCalibration {} overspeed).map fun result =>
        (result.1.fuelCut, result.1.sparkCut)) = some (true, true) ∧
      limitHeld roadCalibration (limitHeld roadCalibration false overspeed) request = true ∧
      ((evaluated roadCalibration (carried roadCalibration {} overspeed) request).map
        fun result => (result.1.fuelCut, result.1.sparkCut)) = some (true, false) := by
  decide +kernel

end Pipoco.SemHardRev
