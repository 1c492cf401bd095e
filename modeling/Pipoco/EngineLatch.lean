import Pipoco.EngineArms
import Pipoco.Runs

/-!
The safety latch over a run.

A request for the latch is to cut both channels until a step finds the engine off without one. The
direct table keeps the latch in the runtime and always does. The semantic strategies keep it in
their own state, which a step writes only when its evaluation succeeds, and the arbiter answers a
direct cut request before it looks at the latch: a latch can be missed, and a latched channel can
be released, by what else the step carries.
-/

namespace Pipoco.Engine

open Domain SchedState SemFuel Control Runs

/-! ### One evaluation -/

namespace RuntimeFuelStrategy

variable (strategy : RuntimeFuelStrategy) (input : FuelInputSnapshot) (request : Bool)

/-- What a semantic strategy is evaluated on. -/
def semanticInput : RuntimeSemanticInputSnapshot :=
  match strategy with
  | .alphaN _ _ => EngineRuntime.semanticInputForStrategy input .tps request
  | .maf _ _ =>
    { EngineRuntime.semanticInputForStrategy input .map request with loadKpa10 := input.mafX100 }
  | _ => EngineRuntime.semanticInputForStrategy input .map request

def signalValid : Bool :=
  match strategy with
  | .maf _ _ => input.mafValid
  | _ => true

/-- The step reaches the arbiter: the signal is valid, the calibration accepted and the target not
zero. -/
def evaluates : Bool :=
  strategy.signalValid input && strategy.semantic.any fun (cal, _) =>
    cal.accepted && targetAfrX100 cal (strategy.semanticInput input request) ≠ 0

def withState : RuntimeFuelStrategy → RuntimeSemanticState → RuntimeFuelStrategy
  | .directPulseWidthTable model, _ => .directPulseWidthTable model
  | .speedDensityVe cal _, state => .speedDensityVe cal state
  | .alphaN cal _, state => .alphaN cal state
  | .maf cal _, state => .maf cal state

end RuntimeFuelStrategy

namespace EngineRuntime

variable {r r' : EngineRuntime} {input : FuelInputSnapshot} {request : Bool} {intent : FuelIntent}
  {cal : RuntimeSemanticCalibration} {state : RuntimeSemanticState}

lemma evaluateSemantic_cases {mk : RuntimeSemanticState → RuntimeFuelStrategy}
    {semanticInput : RuntimeSemanticInputSnapshot}
    (h : r.evaluateSemantic mk cal state input semanticInput = some (r', intent)) :
    ((cal.accepted && targetAfrX100 cal semanticInput ≠ 0) = false ∧ intent.fuelCut ∧
      intent.sparkCut ∧ r'.planners.fuelStrategy = r.planners.fuelStrategy) ∨
    ((cal.accepted && targetAfrX100 cal semanticInput ≠ 0) = true ∧ ∃ cut next,
      evaluateCutArbitration cal semanticInput (evaluateAe cal semanticInput state) = some cut ∧
      intent.fuelCut = cut.2.1 ∧ intent.sparkCut = cut.2.2 ∧
      next.safetyLatched = cut.1.safetyLatched ∧ r'.planners.fuelStrategy = mk next) := by
  obtain ⟨e, he, heq⟩ := Option.map_eq_some_iff.mp h
  rcases evaluate_cases he with ⟨hno, err, rfl⟩ | ⟨hok, cut, obs, next, hcut, rfl, hf, hs, hl⟩
  · cases heq
    exact .inl ⟨hno, rfl, rfl, rfl⟩
  · cases heq
    exact .inr ⟨hok, cut, next, hcut, hf, hs, hl, rfl⟩

lemma computeFuelIntent_of_direct (hsem : r.planners.fuelStrategy.semantic = none) :
    ∃ model, r.computeFuelIntent input request =
      some (r.applyDirectRuntimeFlags input.mode request,
        (r.applyDirectRuntimeFlags input.mode request).directFuelIntent model input) := by
  unfold computeFuelIntent
  split <;> rename_i hstrategy <;> rw [hstrategy] at hsem
  · exact ⟨_, rfl⟩
  all_goals exact nomatch hsem

/-- The three semantic strategies in one: only the load and the signal differ. -/
lemma computeFuelIntent_of_semantic
    (hsem : r.planners.fuelStrategy.semantic = some (cal, state)) :
    r.computeFuelIntent input request =
      if r.planners.fuelStrategy.signalValid input then
        r.evaluateSemantic r.planners.fuelStrategy.withState cal state input
          (r.planners.fuelStrategy.semanticInput input request)
      else some (r.clearSemanticRuntimeFlags, r.semanticFuelCutIntent) := by
  unfold computeFuelIntent
  split <;> rename_i hstrategy <;> rw [hstrategy] at hsem ⊢ <;> cases hsem
  · rfl
  · rfl
  · cases hvalid : input.mafValid with
    | false => simp [RuntimeFuelStrategy.signalValid, hvalid]
    | true =>
      simp only [RuntimeFuelStrategy.signalValid, hvalid, Bool.not_true, Bool.false_eq_true,
        if_false, if_true]
      rfl

lemma semantic_withState {strategy : RuntimeFuelStrategy} (hsem : strategy.semantic =
    some (cal, state)) (next : RuntimeSemanticState) :
    (strategy.withState next).semantic = some (cal, next) := by
  cases strategy <;> cases hsem <;> rfl

/-- **One fuel intent of a semantic strategy.** Without an evaluation both channels are cut and the
strategy is as before; otherwise cuts and latch are those of the arbiter. -/
lemma computeFuelIntent_cases (hsem : r.planners.fuelStrategy.semantic = some (cal, state))
    (h : r.computeFuelIntent input request = some (r', intent)) :
    (r.planners.fuelStrategy.evaluates input request = false ∧ intent.fuelCut ∧ intent.sparkCut ∧
      r'.planners.fuelStrategy.semantic = some (cal, state)) ∨
    (r.planners.fuelStrategy.evaluates input request = true ∧ ∃ cut next,
      evaluateCutArbitration cal (r.planners.fuelStrategy.semanticInput input request)
        (evaluateAe cal (r.planners.fuelStrategy.semanticInput input request) state) = some cut ∧
      intent.fuelCut = cut.2.1 ∧ intent.sparkCut = cut.2.2 ∧
      next.safetyLatched = cut.1.safetyLatched ∧
      r'.planners.fuelStrategy.semantic = some (cal, next)) := by
  rw [computeFuelIntent_of_semantic hsem] at h
  rw [RuntimeFuelStrategy.evaluates, hsem, Option.any_some]
  split_ifs at h with hvalid
  · rw [hvalid, Bool.true_and]
    rcases evaluateSemantic_cases h with
      ⟨hno, hf, hs, hst⟩ | ⟨hok, cut, next, hcut, hf, hs, hl, hst⟩
    · exact .inl ⟨hno, hf, hs, hst ▸ hsem⟩
    · exact .inr ⟨hok, cut, next, hcut, hf, hs, hl, hst ▸ semantic_withState hsem next⟩
  · cases h
    rw [Bool.eq_false_iff.mpr hvalid, Bool.false_and]
    exact .inl ⟨rfl, rfl, rfl, hsem⟩

/-! ### The latch over one step -/

variable (strategy : RuntimeFuelStrategy)

/-- The latch is held where the strategy keeps it. A calibration that is never accepted needs none:
every step cuts. -/
def LatchHeld (r : EngineRuntime) : Prop :=
  match r.planners.fuelStrategy.semantic with
  | none => r.safetyLatched
  | some (cal, state) => cal.accepted → state.safetyLatched

/-- Nothing else in the step keeps the latch from being set, or from cutting: a step that owes the
cut and is evaluated carries no direct request for one channel alone, and a step that sets the
latch is evaluated and carries no direct request. -/
def Undisturbed (input : FuelInputSnapshot) (request owes : Bool) : Prop :=
  ∀ semantic ∈ strategy.semantic, semantic.1.accepted →
    (owes → strategy.evaluates input request → input.fuelCutRequest = input.sparkCutRequest) ∧
    (request → semantic.2.safetyLatched = false → strategy.evaluates input request ∧
      input.fuelCutRequest = false ∧ input.sparkCutRequest = false)

instance (input : FuelInputSnapshot) (request owes : Bool) :
    Decidable (Undisturbed strategy input request owes) :=
  inferInstanceAs (Decidable (∀ semantic ∈ strategy.semantic, _ → (_ → _ → _) ∧ (_ → _ → _)))

lemma semanticInput_requests (input : FuelInputSnapshot) (request : Bool) :
    (strategy.semanticInput input request).directFuelCutRequest = input.fuelCutRequest ∧
      (strategy.semanticInput input request).directSparkCutRequest = input.sparkCutRequest ∧
      (strategy.semanticInput input request).safetyLatchRequest = request ∧
      ((strategy.semanticInput input request).mode = .off ↔ input.mode = .off) := by
  have hmode : (semanticInputForStrategy input .map request).mode = .off ↔ input.mode = .off := by
    unfold semanticInputForStrategy
    cases input.mode <;> simp
  cases strategy <;> exact ⟨rfl, rfl, rfl, hmode⟩

variable {strategy} in
lemma evaluates_accepted (hsem : strategy.semantic = some (cal, state))
    (h : strategy.evaluates input request) : cal.accepted := by
  simp only [RuntimeFuelStrategy.evaluates, hsem, Option.any_some, Bool.and_eq_true] at h
  exact h.2.1

lemma latch_of_evaluated (hsem : r.planners.fuelStrategy.semantic = some (cal, state))
    (hev : r.planners.fuelStrategy.evaluates input request)
    (howes : request ∨ state.safetyLatched ∧ input.mode ≠ .off)
    (hund : Undisturbed r.planners.fuelStrategy input request true)
    {cut : RuntimeSemanticState × Bool × Bool}
    (hcut : evaluateCutArbitration cal (r.planners.fuelStrategy.semanticInput input request)
      (evaluateAe cal (r.planners.fuelStrategy.semanticInput input request) state) = some cut) :
    cut.2 = (true, true) ∧ cut.1.safetyLatched := by
  obtain ⟨hfuel, hspark, hreq, hmode⟩ :=
    semanticInput_requests r.planners.fuelStrategy input request
  obtain ⟨hone, hfirst⟩ := hund _ hsem (evaluates_accepted hsem hev)
  have heq := hone rfl hev
  cases hdirect : input.sparkCutRequest with
  | false =>
    -- no direct request: the latch is looked at
    refine evaluateCutArbitration_of_latch (by rw [hfuel, hspark, heq, hdirect]; rfl) ?_ hcut
    rw [hreq, safetyLatched_evaluateAe]
    exact howes.imp_right fun h => ⟨h.1, fun hoff => h.2 (hmode.mp hoff)⟩
  | true =>
    -- both channels are requested, and the latch was set before
    obtain ⟨hcuts, hkept⟩ := evaluateCutArbitration_of_direct
      (by rw [hfuel, hspark, heq, hdirect]; rfl) hcut
    rw [hfuel, hspark, heq, hdirect] at hcuts
    refine ⟨hcuts, ?_⟩
    rw [hkept, safetyLatched_evaluateAe]
    rcases howes with hrequest | hlatched
    · by_contra hnot
      obtain ⟨-, hf, -⟩ := hfirst hrequest (Bool.eq_false_iff.mpr hnot)
      rw [heq, hdirect] at hf
      cases hf
    · exact hlatched.1

/-- The direct table cuts both channels whenever the latch is set, and keeps it until it is
released. -/
lemma latch_of_direct (hsem : r.planners.fuelStrategy.semantic = none)
    (h : r.computeFuelIntent input request = some (r', intent))
    (howes : request ∨ r.safetyLatched ∧ input.mode ≠ .off) :
    intent.fuelCut ∧ intent.sparkCut ∧ r'.LatchHeld := by
  obtain ⟨model, heq⟩ := computeFuelIntent_of_direct hsem
  cases h.symm.trans heq
  have hlatched : (r.applyDirectRuntimeFlags input.mode request).safetyLatched = true := by
    unfold applyDirectRuntimeFlags
    rcases howes with hrequest | ⟨hlatched, hmode⟩
    · simp [hrequest]
    · simp [hlatched, hmode]
  have hheld : (r.applyDirectRuntimeFlags input.mode request).LatchHeld := by
    unfold LatchHeld
    rw [show (r.applyDirectRuntimeFlags input.mode request).planners = r.planners from rfl, hsem]
    exact hlatched
  exact ⟨by simp [directFuelIntent, hlatched], by simp [directFuelIntent, hlatched], hheld⟩

/-- **The latch over one fuel intent.** An undisturbed step that sets the latch, or finds it held
with the engine not off, cuts both channels and holds it afterwards. -/
lemma latch_computeFuelIntent (h : r.computeFuelIntent input request = some (r', intent))
    (howes : request ∨ r.LatchHeld ∧ input.mode ≠ .off)
    (hund : Undisturbed r.planners.fuelStrategy input request true) :
    intent.fuelCut ∧ intent.sparkCut ∧ r'.LatchHeld := by
  cases hsem : r.planners.fuelStrategy.semantic with
  | none =>
    simp only [LatchHeld, hsem] at howes
    exact latch_of_direct hsem h howes
  | some semantic =>
    obtain ⟨cal, state⟩ := semantic
    simp only [LatchHeld, hsem] at howes
    rcases computeFuelIntent_cases hsem h with
      ⟨hno, hf, hs, hst⟩ | ⟨hev, cut, next, hcut, hf, hs, hl, hst⟩
    · refine ⟨hf, hs, ?_⟩
      simp only [LatchHeld, hst]
      intro hacc
      rcases howes with hrequest | hlatched
      · by_contra hnot
        have := ((hund _ hsem hacc).2 hrequest (Bool.eq_false_iff.mpr hnot)).1
        rw [hno] at this
        cases this
      · exact hlatched.1 hacc
    · have hacc := evaluates_accepted hsem hev
      obtain ⟨hcuts, hlatched⟩ := latch_of_evaluated hsem hev
        (howes.imp_right fun h => ⟨h.1 hacc, h.2⟩) hund hcut
      rw [hf, hs, hcuts]
      refine ⟨rfl, rfl, ?_⟩
      simp only [LatchHeld, hst]
      exact fun _ => hl.trans hlatched

/-- A step that cuts both channels and leaves the latch held is undisturbed. -/
lemma undisturbed_of_latch (h : r.computeFuelIntent input request = some (r', intent))
    (hf : intent.fuelCut) (hs : intent.sparkCut) (hheld : r'.LatchHeld) :
    Undisturbed r.planners.fuelStrategy input request true := by
  rintro ⟨cal, state⟩ hsem hacc
  obtain ⟨hfuel, hspark, -, -⟩ := semanticInput_requests r.planners.fuelStrategy input request
  rcases computeFuelIntent_cases hsem h with
    ⟨hno, -, -, hst⟩ | ⟨hev, cut, next, hcut, hcf, hcs, hl, hst⟩
  · -- not evaluated: the strategy is as before, so it was latched
    simp only [LatchHeld, hst] at hheld
    refine ⟨fun _ hev => absurd (hev.symm.trans hno) Bool.true_eq_false.mp, fun _ hnot => ?_⟩
    exact absurd ((hheld hacc).symm.trans hnot) Bool.true_eq_false.mp
  · simp only [LatchHeld, hst] at hheld
    cases hd : input.fuelCutRequest || input.sparkCutRequest with
    | false =>
      obtain ⟨hf', hs'⟩ := Bool.or_eq_false_iff.mp hd
      exact ⟨fun _ _ => hf'.trans hs'.symm, fun _ _ => ⟨hev, hf', hs'⟩⟩
    | true =>
      -- a direct request is answered as it stands
      obtain ⟨hcuts, hkept⟩ := evaluateCutArbitration_of_direct
        (by rw [hfuel, hspark]; exact hd) hcut
      rw [hfuel, hspark] at hcuts
      rw [hcf, hcuts] at hf
      rw [hcs, hcuts] at hs
      refine ⟨fun _ _ => hf.trans hs.symm, fun _ hnot => ?_⟩
      have hlatched := hheld hacc
      rw [hl, hkept, safetyLatched_evaluateAe, hnot] at hlatched
      cases hlatched

end EngineRuntime

/-! ### Watched runs -/

def latchRequest : RuntimeOp → Bool
  | .step inputs _ => inputs.safetyLatchRequest
  | .stepWithAuthority inputs _ => inputs.safetyLatchRequest
  | .stepWithDifferentialInput input _ => input.safetyLatchRequest
  | _ => false

/-- A runtime, and whether a request for the latch has been made and not yet released by a step
with the engine off. -/
structure LatchWatch where
  runtime : EngineRuntime
  owed : Bool

namespace LatchWatch

variable (w : LatchWatch) (op : RuntimeOp)

def owes (phase : EnginePhase) : Bool := latchRequest op || w.owed && phase ≠ .off

def step : LatchWatch :=
  match w.runtime.apply op with
  | none => w
  | some (r', none) => ⟨r', w.owed⟩
  | some (r', some _) => ⟨r', w.owes op r'.engine.phase⟩

/-- A step that owes the cut reports both channels cut. -/
def Cuts : Prop :=
  ∀ out ∈ w.runtime.apply op, ∀ result ∈ out.2, w.owes op out.1.engine.phase →
    result.control.fuelCut ∧ result.control.sparkCut
  deriving Decidable

/-- It also leaves the latch held. -/
def Kept : Prop :=
  ∀ out ∈ w.runtime.apply op, ∀ result ∈ out.2, w.owes op out.1.engine.phase →
    result.control.fuelCut ∧ result.control.sparkCut ∧ out.1.LatchHeld

/-- The fuel strategy is not replaced. -/
def SameStrategy (_ : LatchWatch) (op : RuntimeOp) : Prop :=
  match op with
  | .configureRuntimeFuelModel _ => False
  | _ => True

/-- The operation is no step, or one that is undisturbed. -/
def Undisturbed : Prop :=
  ∀ f ∈ w.runtime.frameOf op,
    EngineRuntime.Undisturbed w.runtime.planners.fuelStrategy
      ((f.1.takeFrame f.2.1).fuelInputSnapshot f.2.1.validated f.2.2 f.2.1.launchArmed
        f.2.1.flatShiftArmed)
      (latchRequest op) (w.owes op (f.1.takeFrame f.2.1).engine.phase)
  deriving Decidable

instance : Decidable (w.SameStrategy op) := by
  unfold SameStrategy
  split <;> infer_instance

def Inv : Prop := w.owed → w.runtime.LatchHeld

end LatchWatch

namespace EngineRuntime

variable {w : LatchWatch} {op : RuntimeOp} {r r' : EngineRuntime} {start : EngineRuntime}
  {frame : StepFrame} {inputs : ControlInputs} {result : StepResult}

/-- The latch is held in the planners and the flag, and nowhere else. -/
lemma latchHeld_congr (hs : r'.planners.fuelStrategy = r.planners.fuelStrategy)
    (hl : r'.safetyLatched = r.safetyLatched) : r'.LatchHeld ↔ r.LatchHeld := by
  unfold LatchHeld
  rw [hs, hl]

lemma frame_safetyLatchRequest (h : r.frameOf op = some (start, frame, inputs)) :
    frame.safetyLatchRequest = latchRequest op := by
  cases op <;> simp only [frameOf, Option.some.injEq, Prod.mk.injEq, reduceCtorEq] at h
  case step => rw [← h.2.1]; rfl
  case stepWithAuthority => rw [← h.2.1]; rfl
  case stepWithDifferentialInput input control =>
    rw [← h.2.1]
    simp only [stepFrame, differentialStepInputs, latchRequest]
    split <;> rfl

variable (r) in
lemma mode_fuelInputSnapshot (validated : ValidatedInputs) (inputs : ControlInputs)
    (launch flat : Bool) :
    (r.fuelInputSnapshot validated inputs launch flat).mode = .off ↔ r.engine.phase = .off := by
  unfold fuelInputSnapshot
  cases r.engine.phase <;> simp

lemma step_fuelIntent (hframe : r.frameOf op = some (start, frame, inputs))
    (hstep : start.stepWithValidated frame inputs = some (r', result)) :
    ∃ (noted fuelled : EngineRuntime) (intent : FuelIntent),
      noted.computeFuelIntent ((start.takeFrame frame).fuelInputSnapshot
        frame.validated inputs frame.launchArmed frame.flatShiftArmed) (latchRequest op) =
        some (fuelled, intent) ∧
      noted.planners = r.planners ∧ (noted.LatchHeld ↔ r.LatchHeld) ∧
      result.control.fuelCut = intent.fuelCut ∧ result.control.sparkCut = intent.sparkCut ∧
      (r'.LatchHeld ↔ fuelled.LatchHeld) ∧
      r'.engine.phase = (start.takeFrame frame).engine.phase := by
  obtain ⟨engine, faults, fuel, spark, snapshot, htaken⟩ := takeFrame_frameOf hframe
  obtain ⟨composed, hplan, -, -, hsame, hl, hst⟩ := stepWithValidated_eq_some hstep
  obtain ⟨fuelled, intent, hfuel, hf, hs, -, hl', hst', -⟩ := composeControl_eq_some hplan
  rw [frame_safetyLatchRequest hframe] at hfuel
  have hplanners : (start.takeFrame frame).planners = r.planners := by rw [htaken]
  have hflag : (start.takeFrame frame).safetyLatched = r.safetyLatched := by rw [htaken]
  exact ⟨_, fuelled, intent, hfuel, hplanners, latchHeld_congr (congrArg _ hplanners) hflag, hf, hs,
    latchHeld_congr (hst.trans hst') (hl.trans hl'), congrArg EngineState.phase hsame.engine⟩

lemma latch_step (happ : w.runtime.apply op = some (r', some result)) (hinv : w.Inv)
    (hund : w.Undisturbed op) (howes : w.owes op r'.engine.phase) :
    result.control.fuelCut ∧ result.control.sparkCut ∧ r'.LatchHeld := by
  obtain ⟨start, frame, inputs, hframe, hstep⟩ := apply_step happ
  obtain ⟨noted, fuelled, intent, hfuel, hplanners, hheld, hf, hs, hout, hphase⟩ :=
    step_fuelIntent hframe hstep
  rw [hphase] at howes
  have hund' := hund _ hframe
  simp only [howes, ← hplanners] at hund'
  rw [hf, hs, hout]
  refine latch_computeFuelIntent hfuel ?_ hund'
  rw [hheld, Ne, mode_fuelInputSnapshot]
  simp only [LatchWatch.owes, Bool.or_eq_true, Bool.and_eq_true, decide_eq_true_eq] at howes
  exact howes.imp_right fun h => ⟨hinv h.1, h.2⟩

lemma latch_inv_step (hinv : w.Inv) (hop : w.SameStrategy op) (hund : w.Undisturbed op) :
    (w.step op).Inv := by
  unfold LatchWatch.step
  split
  · exact hinv
  · rename_i r' happ
    obtain ⟨-, hl, hst⟩ := configure_eq w.runtime op
    intro howed
    rw [apply_configured happ]
    refine (latchHeld_congr (hst fun strategy h => ?_) hl).mpr (hinv howed)
    rw [h] at hop
    exact hop
  · rename_i r' result happ
    exact fun howes => (latch_step happ hinv hund howes).2.2

lemma kept_iff (hinv : w.Inv) (hret : (w.runtime.apply op).isSome) :
    w.Kept op ↔ w.Undisturbed op := by
  constructor
  · rintro hkept ⟨start, frame, inputs⟩ hframe
    obtain ⟨⟨r', res⟩, happ⟩ := Option.isSome_iff_exists.mp hret
    obtain ⟨result, rfl⟩ := result_of_frame hframe happ
    obtain ⟨start', frame', inputs', hframe', hstep⟩ := apply_step happ
    obtain ⟨rfl, hrest⟩ := Prod.mk.inj (Option.some.inj (hframe'.symm.trans hframe))
    obtain ⟨rfl, rfl⟩ := Prod.mk.inj hrest
    obtain ⟨noted, fuelled, intent, hfuel, hplanners, -, hf, hs, hout, hphase⟩ :=
      step_fuelIntent hframe' hstep
    have hkept' := hkept _ happ result rfl
    simp only [hphase, hf, hs, hout, ← hplanners] at hkept' ⊢
    cases howes : w.owes op (start'.takeFrame frame').engine.phase with
    | true =>
      obtain ⟨hfc, hsc, hheld⟩ := hkept' howes
      exact undisturbed_of_latch hfuel hfc hsc hheld
    | false =>
      -- nothing is owed, so nothing is asked for either
      rw [(Bool.or_eq_false_iff.mp howes).1]
      exact fun _ _ _ => ⟨(nomatch ·), (nomatch ·)⟩
  · rintro hund ⟨r', res⟩ happ result hres howes
    obtain rfl := Option.mem_def.mp hres
    exact latch_step happ hinv hund howes

/-- **The safety latch holds** in every run whose steps are undisturbed and which does not replace
the fuel strategy. For the direct table every step is undisturbed. -/
theorem latch_cuts (r : EngineRuntime) {ops : List RuntimeOp}
    (hop : Along LatchWatch.step LatchWatch.SameStrategy ⟨r, false⟩ ops)
    (hund : Along LatchWatch.step LatchWatch.Undisturbed ⟨r, false⟩ ops) :
    Along LatchWatch.step LatchWatch.Cuts ⟨r, false⟩ ops := by
  have hinv : LatchWatch.Inv ⟨r, false⟩ := fun h => nomatch h
  refine along_of_inv (I := LatchWatch.Inv) ?_ ?_ hinv (along_and.mpr ⟨hop, hund⟩)
  · rintro w op hi ⟨-, hu⟩ ⟨r', res⟩ happ result hres howes
    obtain rfl := Option.mem_def.mp hres
    obtain ⟨hf, hs, -⟩ := latch_step happ hi hu howes
    exact ⟨hf, hs⟩
  · exact fun w op hi hc => latch_inv_step hi hc.1 hc.2

variable (r) in
/-- **The condition is exact.** In a run whose operations return, the steps that owe the cut all
report it and leave the latch held if and only if they are undisturbed. -/
theorem latch_kept_iff {ops : List RuntimeOp}
    (hop : Along LatchWatch.step LatchWatch.SameStrategy ⟨r, false⟩ ops)
    (hret : Along LatchWatch.step (fun w op => (w.runtime.apply op).isSome) ⟨r, false⟩ ops) :
    Along LatchWatch.step LatchWatch.Kept ⟨r, false⟩ ops ↔
      Along LatchWatch.step LatchWatch.Undisturbed ⟨r, false⟩ ops := by
  have hinv : LatchWatch.Inv ⟨r, false⟩ := fun h => nomatch h
  refine along_iff_of_inv (I := LatchWatch.Inv) ?_ ?_ hinv (along_and.mpr ⟨hop, hret⟩)
  · rintro w op hi ⟨-, hr⟩
    exact kept_iff hi hr
  · rintro w op hi ⟨hc, hr⟩ hk
    exact latch_inv_step hi hc ((kept_iff hi hr).mp hk)

end EngineRuntime

/-! ### Concrete runs -/

/-- A runtime with one of the semantic strategies. -/
def semanticRuntime
    (strategy : RuntimeSemanticCalibration → RuntimeSemanticState → RuntimeFuelStrategy) :
    EngineRuntime :=
  EngineRuntime.new.configure (.configureRuntimeFuelModel (strategy flatCalibration {}))

/-- A step at a thousand revolutions, with or without a request for the latch and a valid air-mass
signal. -/
def latchStep (nowUs : Micros) (request mafValid : Bool) : RuntimeOp :=
  .step ⟨nowUs, 1000, 500, 0, true, true, false, false, request⟩
    { ControlInputs.sparkOnly nowUs ⟨100, 0, 0, 0, false, 1000⟩ with
      fuelSensors := ⟨mafValid, 500, 250, 12000, false, 1010⟩ }

namespace EngineRuntime

/-- With speed density a request for the latch is still served by the next step. -/
theorem latch_cuts_speedDensity :
    Along LatchWatch.step LatchWatch.SameStrategy ⟨semanticRuntime .speedDensityVe, false⟩
        [latchStep 1000 true true, latchStep 11000 false true] ∧
      Along LatchWatch.step LatchWatch.Undisturbed ⟨semanticRuntime .speedDensityVe, false⟩
        [latchStep 1000 true true, latchStep 11000 false true] ∧
      Along LatchWatch.step LatchWatch.Cuts ⟨semanticRuntime .speedDensityVe, false⟩
        [latchStep 1000 true true, latchStep 11000 false true] :=
  ⟨by decide +kernel, by decide +kernel, latch_cuts _ (by decide +kernel) (by decide +kernel)⟩

theorem latch_kept_iff_speedDensity :
    Along LatchWatch.step LatchWatch.Kept ⟨semanticRuntime .speedDensityVe, false⟩
        [latchStep 1000 true true, latchStep 11000 false true] ↔
      Along LatchWatch.step LatchWatch.Undisturbed ⟨semanticRuntime .speedDensityVe, false⟩
        [latchStep 1000 true true, latchStep 11000 false true] :=
  latch_kept_iff _ (by decide +kernel) (by decide +kernel)

/-- A fuel request alone keeps the spark on in the very step that asks for the latch, and a request
made while the air-mass signal is invalid is forgotten when it comes back. -/
theorem latch_released :
    ¬ Along LatchWatch.step LatchWatch.Cuts ⟨semanticRuntime .speedDensityVe, false⟩
        [.setDirectCutRequests true false, latchStep 1000 true true] ∧
      ¬ Along LatchWatch.step LatchWatch.Cuts ⟨semanticRuntime .maf, false⟩
        [latchStep 1000 true false, latchStep 11000 false true] := by
  decide +kernel

end EngineRuntime

end Pipoco.Engine
