import Pipoco.EngineArms
import Pipoco.Runs

/-!
When the runtime returns.

Three spots of a step can stop the firmware: the trim limits and the dwell limits are clamped
between bounds that must not cross, and a cycle cut counts modulo its length plus one, which must
not wrap to zero. A runtime whose configuration is in order returns from every operation, and its
steps leave the configuration as it is.
-/

namespace Pipoco.Engine

open Domain SemFuel Control Runs

namespace EngineRuntime

/-- The configuration is in order. -/
structure Proper (r : EngineRuntime) : Prop where
  lambda : r.planners.lambdaConfig.minTrimX100 ≤ r.planners.lambdaConfig.maxTrimX100
  dwell : r.planners.dwellConfig.minDwellUs ≤ r.planners.dwellConfig.maxDwellUs
  cycles : ∀ semantic ∈ r.planners.fuelStrategy.semantic, semantic.1.cyclesProper

lemma proper_new : EngineRuntime.new.Proper where
  lambda := by decide
  dwell := by decide
  cycles := fun _ h => nomatch h

variable {r r' : EngineRuntime} {input : FuelInputSnapshot} {request : Bool} {intent : FuelIntent}

/-! ### The fuel intent -/

lemma computeFuelIntent_isSome (h : r.Proper) (input : FuelInputSnapshot) (request : Bool) :
    (r.computeFuelIntent input request).isSome := by
  have hcycles := h.cycles
  unfold computeFuelIntent
  split
  · rfl
  all_goals
    rename_i cal state hstrategy
    rw [hstrategy] at hcycles
    have heval := evaluate_isSome (hcycles (cal, state) rfl)
  · rw [evaluateSemantic, Option.isSome_map]
    exact heval _ _
  · rw [evaluateSemantic, Option.isSome_map]
    exact heval _ _
  · split_ifs
    · rfl
    · rw [evaluateSemantic, Option.isSome_map]
      exact heval _ _

/-- The planners after a fuel intent: at most the state of the strategy is replaced. -/
def OnlyStrategyState (p p' : ControlPlannerState) : Prop :=
  ∃ strategy, p' = { p with fuelStrategy := strategy } ∧
    strategy.semantic.map Prod.fst = p.fuelStrategy.semantic.map Prod.fst

lemma planners_evaluateSemantic {mk : RuntimeSemanticState → RuntimeFuelStrategy}
    {cal : RuntimeSemanticCalibration} {state : RuntimeSemanticState}
    {semanticInput : RuntimeSemanticInputSnapshot}
    (hmk : ∀ next, (mk next).semantic = some (cal, next))
    (hsem : r.planners.fuelStrategy.semantic = some (cal, state))
    (h : r.evaluateSemantic mk cal state input semanticInput = some (r', intent)) :
    OnlyStrategyState r.planners r'.planners := by
  obtain ⟨e, -, heq⟩ := Option.map_eq_some_iff.mp h
  cases e with
  | error err =>
    cases heq
    exact ⟨_, rfl, rfl⟩
  | ok out =>
    cases heq
    refine ⟨mk out.2, rfl, ?_⟩
    rw [hmk, hsem]
    rfl

lemma planners_computeFuelIntent (h : r.computeFuelIntent input request = some (r', intent)) :
    OnlyStrategyState r.planners r'.planners := by
  unfold computeFuelIntent at h
  split at h
  · cases h
    exact ⟨_, rfl, rfl⟩
  all_goals
    rename_i cal state hstrategy
    have hsem : r.planners.fuelStrategy.semantic = some (cal, state) := by rw [hstrategy]; rfl
  · exact planners_evaluateSemantic (fun _ => rfl) hsem h
  · exact planners_evaluateSemantic (fun _ => rfl) hsem h
  · split_ifs at h
    · cases h
      exact ⟨_, rfl, rfl⟩
    · exact planners_evaluateSemantic (fun _ => rfl) hsem h

/-! ### The step -/

variable {validated : ValidatedInputs}

/-- No planner of the step meets limits that cross. -/
structure PlannersAnswer (p : ControlPlannerState) (loadKpa10 : Kpa10) (inputs : ControlInputs) :
    Prop where
  lambda : (p.lambda.delayed inputs.lambda p.lambdaConfig).disableReason inputs.lambda
    p.lambdaConfig loadKpa10 = .none → p.lambdaConfig.minTrimX100 ≤ p.lambdaConfig.maxTrimX100
  dwell : p.dwellConfig.rpmTrimStart < inputs.ignition.rpm →
    inputs.ignition.rpm < p.dwellConfig.rpmTrimEnd →
    p.dwellConfig.minDwellUs ≤ p.dwellConfig.maxDwellUs

lemma ignitionPlannerPlan_isSome_iff {i : IgnitionInputs} {c : DwellConfig} :
    (ignitionPlannerPlan i c).isSome ↔
      (c.rpmTrimStart < i.rpm → i.rpm < c.rpmTrimEnd → c.minDwellUs ≤ c.maxDwellUs) := by
  unfold ignitionPlannerPlan
  rw [Option.isSome_map]
  exact DwellConfig.computeDwellUs_isSome_iff i.rpm

/-- **When a plan is composed**: the strategy returns an intent and the planners answer. -/
lemma composeControl_isSome_iff {inputs : ControlInputs} {launch flat latch : Bool} :
    (r.composeControl validated inputs launch flat latch).isSome ↔
      (({ r with knockIntensityX100 := inputs.knockIntensityX100 } :
        EngineRuntime).computeFuelIntent (r.fuelInputSnapshot validated inputs launch flat)
          latch).isSome ∧ PlannersAnswer r.planners validated.loadKpa10 inputs := by
  constructor
  · intro h
    obtain ⟨out, hout⟩ := Option.isSome_iff_exists.mp h
    simp only [composeControl, Option.bind_eq_bind, Option.bind_eq_some_iff] at hout
    obtain ⟨⟨fuelled, intent⟩, hfuel, trim, htrim, ignition, hign, -⟩ := hout
    obtain ⟨strategy, hplanners, -⟩ := planners_computeFuelIntent hfuel
    simp only [hplanners] at htrim hign
    exact ⟨Option.isSome_iff_exists.mpr ⟨_, hfuel⟩,
      (LambdaTrimPlanner.update_isSome_iff _ _ _ _ _).mp (Option.isSome_iff_exists.mpr ⟨_, htrim⟩),
      ignitionPlannerPlan_isSome_iff.mp (Option.isSome_iff_exists.mpr ⟨_, hign⟩)⟩
  · rintro ⟨hsome, hlambda, hdwell⟩
    obtain ⟨⟨fuelled, intent⟩, hfuel⟩ := Option.isSome_iff_exists.mp hsome
    obtain ⟨strategy, hplanners, -⟩ := planners_computeFuelIntent hfuel
    obtain ⟨ignition, hign⟩ :=
      Option.isSome_iff_exists.mp (ignitionPlannerPlan_isSome_iff.mpr hdwell)
    have htrim := fun freeze cut => Option.isSome_iff_exists.mp
      ((r.planners.lambda.update_isSome_iff _ _ freeze cut).mpr hlambda)
    rw [Option.isSome_iff_ne_none]
    intro hnone
    simp only [composeControl, Option.bind_eq_bind, Option.bind_eq_none_iff] at hnone
    -- the planners answer one after another
    have hstuck := hnone _ hfuel
    simp only [hplanners] at hstuck
    obtain ⟨trim, htrim⟩ := htrim _ _
    exact absurd (hstuck _ htrim _ hign) (by simp)

lemma composeControl_isSome (h : r.Proper) (validated : ValidatedInputs) (inputs : ControlInputs)
    (launch flat latch : Bool) : (r.composeControl validated inputs launch flat latch).isSome := by
  have hnoted : Proper { r with knockIntensityX100 := inputs.knockIntensityX100 } :=
    ⟨h.lambda, h.dwell, h.cycles⟩
  exact composeControl_isSome_iff.mpr
    ⟨computeFuelIntent_isSome hnoted _ _, fun _ => h.lambda, fun _ _ => h.dwell⟩

lemma Proper.composeControl {inputs : ControlInputs} {launch flat latch : Bool} {plan : ControlPlan}
    (hr : r.Proper) (h : r.composeControl validated inputs launch flat latch = some (r', plan)) :
    r'.Proper := by
  simp only [EngineRuntime.composeControl, Option.bind_eq_bind, Option.bind_eq_some_iff,
    Option.pure_def, Option.some.injEq] at h
  obtain ⟨⟨fuelled, intent⟩, hfuel, ⟨planner, lambda⟩, -, ignition, -, heq⟩ := h
  cases heq
  obtain ⟨strategy, hplanners, hcal⟩ := planners_computeFuelIntent hfuel
  refine ⟨?_, ?_, ?_⟩ <;> simp only [hplanners]
  · exact hr.lambda
  · exact hr.dwell
  · intro semantic hsem
    rw [hsem] at hcal
    obtain ⟨semantic', hsem', heq⟩ := Option.map_eq_some_iff.mp hcal.symm
    exact heq ▸ hr.cycles semantic' hsem'

/-- **Every operation returns** from a runtime whose configuration is in order. -/
theorem apply_isSome (h : r.Proper) (op : RuntimeOp) : (r.apply op).isSome := by
  rw [apply_eq]
  split
  · rename_i start frame inputs hframe
    obtain ⟨engine, faults, fuel, spark, snapshot, htaken⟩ := takeFrame_frameOf hframe
    have hproper : (start.takeFrame frame).Proper := by
      rw [htaken]
      exact ⟨h.lambda, h.dwell, h.cycles⟩
    rw [Option.isSome_map, stepWithValidated, Option.isSome_map]
    exact composeControl_isSome hproper _ _ _ _ _
  · rfl

lemma Proper.step {op : RuntimeOp} {result : StepResult} (h : r.Proper)
    (happ : r.apply op = some (r', some result)) : r'.Proper := by
  obtain ⟨start, frame, inputs, hframe, hstep⟩ := apply_step happ
  obtain ⟨engine, faults, fuel, spark, snapshot, htaken⟩ := takeFrame_frameOf hframe
  obtain ⟨⟨composed, control⟩, hplan, heq⟩ := Option.map_eq_some_iff.mp hstep
  cases heq
  have hproper : (start.takeFrame frame).Proper := by
    rw [htaken]
    exact ⟨h.lambda, h.dwell, h.cycles⟩
  have hcomposed := hproper.composeControl hplan
  exact ⟨hcomposed.lambda, hcomposed.dwell, hcomposed.cycles⟩

def IsStep (r : EngineRuntime) (op : RuntimeOp) : Prop := (r.frameOf op).isSome

/-- **A run of steps never stops the firmware** if the configuration is in order at its start. -/
theorem steps_return (h : r.Proper) {ops : List RuntimeOp} (hops : Along advance IsStep r ops) :
    Along advance (fun r op => (r.apply op).isSome) r ops := by
  refine along_of_inv (I := Proper) (fun _ op hp _ => apply_isSome hp op) ?_ h hops
  intro r op hp hstep
  obtain ⟨⟨start, frame, inputs⟩, hframe⟩ := Option.isSome_iff_exists.mp hstep
  obtain ⟨⟨r', res⟩, happ⟩ := Option.isSome_iff_exists.mp (apply_isSome hp op)
  obtain ⟨result, rfl⟩ := result_of_frame hframe happ
  rw [advance, happ]
  exact hp.step happ

/-- A new runtime takes its first two steps. -/
theorem steps_return_new :
    Along advance (fun r op => (r.apply op).isSome) new
      (.replicate 2 (.step ⟨1000, 1000, 500, 0, true, true, false, false, false⟩
        (.sparkOnly 1000 ⟨100, 0, 0, 0, false, 1000⟩))) :=
  steps_return proper_new ⟨rfl, rfl, trivial⟩

end EngineRuntime

end Pipoco.Engine
