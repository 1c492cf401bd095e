import Pipoco.EngineLatch
import Pipoco.EngineReturn
import Pipoco.SemArbiter

/-!
What a step reports in shutdown.

A critical fault or a safety cut puts a step into shutdown and the legacy flags then say that both
channels are cut. The plan and the snapshot have their cuts from the fuel strategy instead. The
direct table looks at the operating mode; the semantic strategies are told the phase of the engine
and not its mode, so they cut only if something else does.
-/

namespace Pipoco.Engine

open Domain SchedState SemFuel Control

/-! ### Fuel intents -/

/-- The strategy cuts both channels on its own: the direct table always does in shutdown, and a
semantic one if it is not evaluated or its arbiter cuts both. -/
def RuntimeFuelStrategy.CutsAlone (strategy : RuntimeFuelStrategy) (input : FuelInputSnapshot)
    (request : Bool) : Prop :=
  ∀ semantic ∈ strategy.semantic, strategy.evaluates input request = true →
    CutsBoth semantic.1 (strategy.semanticInput input request) semantic.2

namespace EngineRuntime

variable {r r' : EngineRuntime} {input : FuelInputSnapshot} {request : Bool} {intent : FuelIntent}
  {cal : RuntimeSemanticCalibration} {state : RuntimeSemanticState}

lemma isSome_of_cutsAlone
    (h : r.planners.fuelStrategy.CutsAlone input request) :
    (r.computeFuelIntent input request).isSome := by
  cases hsem : r.planners.fuelStrategy.semantic with
  | none =>
    obtain ⟨model, heq⟩ := computeFuelIntent_of_direct hsem
    rw [heq]
    rfl
  | some semantic =>
    obtain ⟨cal, state⟩ := semantic
    rw [computeFuelIntent_of_semantic hsem]
    split_ifs with hvalid
    · rw [evaluateSemantic, Option.isSome_map, Option.isSome_iff_ne_none]
      intro hnone
      obtain ⟨htaken, hdivides⟩ := evaluate_eq_none_iff.mp hnone
      refine (h _ hsem ?_).not_divides hdivides
      rw [RuntimeFuelStrategy.evaluates, hsem, hvalid]
      exact htaken
    · rfl

lemma cuts_computeFuelIntent (hmode : r.engine.mode = .shutdown)
    (h : r.computeFuelIntent input request = some (r', intent)) :
    intent.fuelCut = true ∧ intent.sparkCut = true ↔
      r.planners.fuelStrategy.CutsAlone input request := by
  unfold RuntimeFuelStrategy.CutsAlone
  cases hsem : r.planners.fuelStrategy.semantic with
  | none =>
    obtain ⟨model, heq⟩ := computeFuelIntent_of_direct hsem
    cases h.symm.trans heq
    -- the direct table looks at the operating mode itself
    have hdirect : (r.applyDirectRuntimeFlags input.mode request).engine.mode = .shutdown := hmode
    simp [directFuelIntent, hdirect]
  | some semantic =>
    obtain ⟨cal, state⟩ := semantic
    -- a semantic strategy is not told the mode, so it plays no part
    simp only [Option.mem_some_iff, forall_eq']
    rcases computeFuelIntent_cases hsem h with
      ⟨hno, hf, hs, -⟩ | ⟨hev, cut, next, hcut, hf, hs, -, -⟩
    · simp [hno, hf, hs]
    · rw [hf, hs, (arbitrated hcut).cutsBoth_iff, cutsBoth_evaluateAe_iff]
      exact ⟨fun hboth _ => hboth, fun hboth => hboth hev⟩

lemma pulseWidth_computeFuelIntent (h : r.computeFuelIntent input request = some (r', intent))
    (hcut : intent.fuelCut = true) : intent.pulseWidthUs = 0 := by
  cases hsem : r.planners.fuelStrategy.semantic with
  | none =>
    obtain ⟨model, heq⟩ := computeFuelIntent_of_direct hsem
    cases h.symm.trans heq
    exact if_pos hcut
  | some semantic =>
    obtain ⟨cal, state⟩ := semantic
    rw [computeFuelIntent_of_semantic hsem] at h
    split_ifs at h
    · obtain ⟨e, heval, heq⟩ := Option.map_eq_some_iff.mp h
      cases e with
      | error err =>
        cases heq
        rfl
      | ok out =>
        obtain ⟨obs, next⟩ := out
        cases heq
        obtain ⟨cut, -, hpair⟩ := evaluated_cases (evaluated_eq_some_iff.mpr heval)
        have hfuel : obs.fuelCut = true := hcut
        have hpulse : obs.pwCorrUs = 0 := by
          refine (congrArg (fun result => result.1.pwCorrUs) hpair).trans (if_pos ?_)
          rw [hfuel, Bool.true_or]
        show narrow obs.pwCorrUs = 0
        rw [hpulse]
        rfl
    · cases h
      rfl

/-! ### The plan -/

variable {validated : ValidatedInputs} {inputs : ControlInputs} {launch flat latch : Bool}
  {plan : ControlPlan}

lemma enrichedFuel_composeControl
    (h : r.composeControl validated inputs launch flat latch = some (r', plan))
    (hcut : plan.fuelCut = true) : plan.enrichedFuel = 0 := by
  obtain ⟨fuelled, intent, hfuel, hsame, -, -, -, -, hzero⟩ := composeControl_eq_some h
  exact hzero (pulseWidth_computeFuelIntent hfuel (hsame ▸ hcut))

/-! ### Steps -/

end EngineRuntime

/-- The fault puts a step into shutdown. -/
def FaultState.shutsDown (faults : FaultState) : Bool :=
  faults.severity = .critical || faults.fault = .safetyCut

/-- The step is in shutdown and says so: in its plan, and in the snapshot as in the legacy flags. -/
structure ShutdownReported (r' : EngineRuntime) (result : StepResult) : Prop where
  operatingMode : result.operatingMode = .shutdown
  fuelCut : result.control.fuelCut = true
  sparkCut : result.control.sparkCut = true
  enrichedFuel : result.control.enrichedFuel = 0
  snapshot : (r'.runtimeSnapshot.fuelCut, r'.runtimeSnapshot.sparkCut) = r'.legacyCutFlags

namespace EngineRuntime

variable (r : EngineRuntime) (op : RuntimeOp)

/-- A step of the operation that a fault puts into shutdown returns and says so. -/
def ReportsShutdown : Prop :=
  ∀ f ∈ r.frameOf op, f.1.faults.shutsDown = true →
    ∃ r' result, r.apply op = some (r', some result) ∧ ShutdownReported r' result

/-- In such a step the planners answer, and the strategy cuts both channels on its own. -/
def CutsInShutdown : Prop :=
  ∀ f ∈ r.frameOf op, f.1.faults.shutsDown = true →
    PlannersAnswer r.planners f.2.1.validated.loadKpa10 f.2.2 ∧
    r.planners.fuelStrategy.CutsAlone ((f.1.takeFrame f.2.1).fuelInputSnapshot f.2.1.validated
      f.2.2 f.2.1.launchArmed f.2.1.flatShiftArmed) f.2.1.safetyLatchRequest

variable {op : RuntimeOp} {start : EngineRuntime} {frame : StepFrame} {result : StepResult}

/-- Nothing but the fault puts a step into shutdown. -/
lemma mode_takeFrame_iff :
    (start.takeFrame frame).engine.mode = .shutdown ↔ start.faults.shutsDown = true := by
  obtain ⟨engine, htake⟩ := setEngineTimeAuthorityInner_eq { start with
    engine := { start.engine with
      rpm := frame.validated.rpm
      angleX10 := frame.validated.angleX10
      loadKpa10 := frame.validated.loadKpa10 } } frame.authority
  simp only [takeFrame, htake, deriveOperatingMode]
  unfold FaultState.shutsDown
  split_ifs with hfault <;> simp [hfault]

lemma snapshot_stepWithValidated (h : start.stepWithValidated frame inputs = some (r', result)) :
    r'.runtimeSnapshot.fuelCut = result.control.fuelCut ∧
      r'.runtimeSnapshot.sparkCut = result.control.sparkCut := by
  obtain ⟨⟨composed, control⟩, -, heq⟩ := Option.map_eq_some_iff.mp h
  cases heq
  exact ⟨rfl, rfl⟩

/-- A step in shutdown that cuts both channels says so everywhere. -/
lemma shutdownReported_of_cut (h : start.stepWithValidated frame inputs = some (r', result))
    (hfault : start.faults.shutsDown = true)
    (hcut : result.control.fuelCut = true ∧ result.control.sparkCut = true) :
    ShutdownReported r' result := by
  obtain ⟨composed, hplan, -, hoperating, hsame, -⟩ := stepWithValidated_eq_some h
  obtain ⟨hfuel, hspark⟩ := snapshot_stepWithValidated h
  have hmode : (start.takeFrame frame).engine.mode = .shutdown := mode_takeFrame_iff.mpr hfault
  have hflags : r'.legacyCutFlags = (true, true) := by
    have hafter : r'.engine.mode = .shutdown := (congrArg EngineState.mode hsame.engine).trans hmode
    simp [legacyCutFlags, hafter]
  refine ⟨hoperating.trans hmode, hcut.1, hcut.2, enrichedFuel_composeControl hplan hcut.1, ?_⟩
  rw [hfuel, hspark, hcut.1, hcut.2, hflags]

/-- The cuts of a step in shutdown are those the strategy makes on its own. -/
lemma cuts_stepWithValidated (h : start.stepWithValidated frame inputs = some (r', result))
    (hfault : start.faults.shutsDown = true) :
    result.control.fuelCut = true ∧ result.control.sparkCut = true ↔
      (start.takeFrame frame).planners.fuelStrategy.CutsAlone
        ((start.takeFrame frame).fuelInputSnapshot frame.validated inputs frame.launchArmed
          frame.flatShiftArmed) frame.safetyLatchRequest := by
  obtain ⟨composed, hplan, -⟩ := stepWithValidated_eq_some h
  obtain ⟨fuelled, intent, hintent, hfuel, hspark, -⟩ := composeControl_eq_some hplan
  rw [hfuel, hspark]
  have hmode : (start.takeFrame frame).engine.mode = .shutdown := mode_takeFrame_iff.mpr hfault
  exact (cuts_computeFuelIntent (by exact hmode) hintent).trans Iff.rfl

lemma stepWithValidated_isSome_iff : (start.stepWithValidated frame inputs).isSome ↔
    ((start.takeFrame frame).composeControl frame.validated inputs frame.launchArmed
      frame.flatShiftArmed frame.safetyLatchRequest).isSome := by
  rw [stepWithValidated, Option.isSome_map]

/-- **Shutdown over one step**, whatever the strategy: it is reported exactly if the planners
answer and the strategy cuts both channels on its own. -/
theorem shutdown_reported_iff (r : EngineRuntime) (op : RuntimeOp) :
    r.ReportsShutdown op ↔ r.CutsInShutdown op := by
  refine forall_congr' fun f => forall₂_congr fun hframe hfault => ?_
  obtain ⟨start, frame, inputs⟩ := f
  obtain ⟨engine, faults, fuel, spark, snapshot, htaken⟩ := takeFrame_frameOf hframe
  have hplanners : r.planners = (start.takeFrame frame).planners := by rw [htaken]
  rw [apply_eq, hframe, hplanners]
  constructor
  · rintro ⟨r', result, happ, hreported⟩
    obtain ⟨⟨r'', result'⟩, hstep, heq⟩ := Option.map_eq_some_iff.mp happ
    obtain ⟨rfl, hresult⟩ := Prod.mk.inj heq
    cases hresult
    have hsome := stepWithValidated_isSome_iff.mp (Option.isSome_iff_exists.mpr ⟨_, hstep⟩)
    exact ⟨(composeControl_isSome_iff.mp hsome).2,
      (cuts_stepWithValidated hstep hfault).mp ⟨hreported.fuelCut, hreported.sparkCut⟩⟩
  · rintro ⟨hanswer, hcuts⟩
    have hsome : ((start.takeFrame frame).composeControl frame.validated inputs frame.launchArmed
        frame.flatShiftArmed frame.safetyLatchRequest).isSome :=
      composeControl_isSome_iff.mpr ⟨isSome_of_cutsAlone hcuts, hanswer⟩
    obtain ⟨⟨r', result⟩, hstep⟩ :=
      Option.isSome_iff_exists.mp (stepWithValidated_isSome_iff.mpr hsome)
    refine ⟨r', result, Option.map_eq_some_iff.mpr ⟨_, hstep, rfl⟩, ?_⟩
    exact shutdownReported_of_cut hstep hfault ((cuts_stepWithValidated hstep hfault).mpr hcuts)

/-- What a step reports about its cuts: in the plan, in the snapshot and in the legacy flags. -/
def cutReport (op : RuntimeOp) :
    Option (Option (ControlMode × Bool × Bool × PulseWidthUs) × (Bool × Bool) × (Bool × Bool)) :=
  (r.apply op).map fun (r', result) =>
    (result.map fun result => (result.operatingMode, result.control.fuelCut,
        result.control.sparkCut, result.control.enrichedFuel),
      (r'.runtimeSnapshot.fuelCut, r'.runtimeSnapshot.sparkCut), r'.legacyCutFlags)

/-- The report of a step at a thousand revolutions under a safety cut. -/
def safetyCutReport :=
  (r.setFaultState .safetyCut .critical .safetyShutdown).cutReport (latchStep 1000 false true)

/-- The direct table reports the shutdown; the others report a pulse of 4.5 ms and no cut. -/
theorem shutdown_unreported :
    safetyCutReport flatRuntime =
        some (some (.shutdown, true, true, 0), (true, true), (true, true)) ∧
      safetyCutReport (semanticRuntime .speedDensityVe) =
        some (some (.shutdown, false, false, 4500), (false, false), (true, true)) ∧
      safetyCutReport (semanticRuntime .alphaN) =
        some (some (.shutdown, false, false, 4500), (false, false), (true, true)) ∧
      safetyCutReport (semanticRuntime .maf) =
        some (some (.shutdown, false, false, 4500), (false, false), (true, true)) := by
  refine ⟨?_, ?_, ?_, ?_⟩ <;> decide +kernel

end EngineRuntime

end Pipoco.Engine
