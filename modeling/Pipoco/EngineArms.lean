import Pipoco.EngineEmit

/-!
What a step may arm.

A step arms an output only if it is ready to: not in a shutdown, locked, and with the authority the
profile needs; and then only the group that is not cut. The actions of a step are never more than
the batch holds, so the snapshot is published last in every step.
-/

namespace Pipoco.Engine

open Domain SchedState OutProfiles Lowering

def armsInjection : Action → Bool
  | .armScheduler _ _ | .armInjection _ => true
  | _ => false

def armsIgnition : Action → Bool
  | .armScheduler _ _ | .armIgnition _ => true
  | _ => false

def arms (a : Action) : Bool := armsInjection a || armsIgnition a

namespace EngineRuntime

variable {r r' : EngineRuntime} {nowUs : Micros} {control : ControlPlan}

/-! ### The events of a cut group -/

variable {s : SchedulerState} {a : Action}

lemma allowInjection_iff : allowInjection control ↔
    control.fuelCut = false ∧ 0 < control.enrichedFuel := by
  simp [allowInjection]

lemma allowIgnition_iff : allowIgnition control ↔
    control.sparkCut = false ∧ 0 < control.ignition.dwellUs := by
  simp [allowIgnition]

lemma fuelCut_of_mem_plannedEvents {p : TimedInjectionPlan}
    (h : ArmRequest.injection p ∈ r.plannedEvents nowUs control) : control.fuelCut = false := by
  unfold plannedEvents at h
  split at h
  · cases h
  · split_ifs at h <;> simp at h
  · split_ifs at h with hoff
    · cases h
    · simp only [Bool.or_eq_true, not_or] at hoff
      exact Bool.eq_false_iff.mpr hoff.1.2
  · split_ifs at h with hoff hinj hign hign <;> simp at h
    · exact (allowInjection_iff.mp hinj).1
    · exact (allowInjection_iff.mp hinj).1

lemma sparkCut_of_mem_plannedEvents {p : TimedIgnitionPlan}
    (h : ArmRequest.ignition p ∈ r.plannedEvents nowUs control) : control.sparkCut = false := by
  unfold plannedEvents at h
  split at h
  · cases h
  · split_ifs at h with hoff
    · cases h
    · simp only [Bool.or_eq_true, not_or] at hoff
      exact Bool.eq_false_iff.mpr hoff.2
  · split_ifs at h <;> simp at h
  · split_ifs at h with hoff hinj hign hign <;> simp at h
    · exact (allowIgnition_iff.mp hign).1
    · exact (allowIgnition_iff.mp hign).1

lemma mem_eventActions {qs : List ArmRequest} (h : a ∈ eventActions nowUs s qs) (ha : arms a) :
    ∃ q ∈ qs, q.action = a := by
  unfold eventActions at h
  split_ifs at h
  · rw [List.mem_singleton.mp h] at ha
    cases ha
  · exact List.mem_map.mp ((armAll_sublist nowUs s qs).mem h)

/-! ### One step -/

variable {op : RuntimeOp} {result : StepResult} {outputs : List Action}

lemma Emits.ready (h : Emits r nowUs control s outputs) (hmem : a ∈ outputs) (ha : arms a) :
    r.Ready := by
  cases h with
  | legacy h | events h => exact h
  | _ =>
    rw [List.mem_singleton.mp hmem] at ha
    cases ha

lemma Emits.of_shutdown (h : Emits r nowUs control s outputs) (hshut : r.inShutdown) :
    outputs = [.cancelScheduler .safetyShutdown] := by
  have hno : r.inShutdown ≠ false := by rw [hshut]; decide
  cases h with
  | shutdown => rfl
  | syncLoss h | waiting h => exact absurd h hno
  | legacy h | events h => exact absurd h.running hno

lemma Emits.fuelCut (h : Emits r nowUs control s outputs) (hmem : a ∈ outputs)
    (ha : armsInjection a) : control.fuelCut = false := by
  cases h with
  | legacy _ _ hinj hign =>
    rw [List.mem_singleton.mp hmem] at ha
    -- only a group that was allowed was armed
    cases hinj with
    | armed hallow => exact (allowInjection_iff.mp hallow).1
    | _ => cases hign <;> cases ha
  | events =>
    obtain ⟨q, hq, rfl⟩ := mem_eventActions hmem (by simp [arms, ha])
    cases q with
    | injection p => exact fuelCut_of_mem_plannedEvents hq
    | ignition p => cases ha
  | _ =>
    rw [List.mem_singleton.mp hmem] at ha
    cases ha

lemma Emits.sparkCut (h : Emits r nowUs control s outputs) (hmem : a ∈ outputs)
    (ha : armsIgnition a) : control.sparkCut = false := by
  cases h with
  | legacy _ _ hinj hign =>
    rw [List.mem_singleton.mp hmem] at ha
    cases hign with
    | armed hallow => exact (allowIgnition_iff.mp hallow).1
    | _ => cases hinj <;> cases ha
  | events =>
    obtain ⟨q, hq, rfl⟩ := mem_eventActions hmem (by simp [arms, ha])
    cases q with
    | injection p => cases ha
    | ignition p => exact sparkCut_of_mem_plannedEvents hq
  | _ =>
    rw [List.mem_singleton.mp hmem] at ha
    cases ha

lemma arms_housekeeping (h : a ∈ r.housekeeping) : arms a = false := by
  rcases mem_housekeeping h with rfl | rfl | rfl <;> rfl

variable (r) in
lemma getLast?_housekeeping (outputs : List Action) :
    (outputs ++ r.housekeeping).getLast? = some .publishSnapshot := by
  unfold housekeeping
  rw [← List.append_assoc, List.getLast?_concat]

/-- The capacity of the batch does not show as long as it has room for every window. -/
lemma emitOutputs_capacity {n m : ℕ} (hn : maxScheduledWindows < n)
    (hm : maxScheduledWindows < m) :
    (r.emitOutputs (n := n) nowUs control).2.items =
      (r.emitOutputs (n := m) nowUs control).2.items := by
  have hone : ∀ {k}, maxScheduledWindows < k → ∀ a : Action,
      ((FixedBatch.new : ActionBatch k).tryPush a).items = [a] := fun hk a =>
    FixedBatch.items_tryPush_of_lt a (Nat.lt_of_le_of_lt (Nat.zero_le _) hk)
  have hlen := plannedEvents_length_le r nowUs control
  have harm : (r.armOutputs (n := n) nowUs control r.scheduler.onSyncRecovered).2.items =
      (r.armOutputs (n := m) nowUs control r.scheduler.onSyncRecovered).2.items := by
    unfold armOutputs
    split
    · simp only [hone hn, hone hm]
    · rw [(armEvents_eq nowUs _ (Nat.lt_of_le_of_lt hlen hn)).2,
        (armEvents_eq nowUs _ (Nat.lt_of_le_of_lt hlen hm)).2]
  unfold emitOutputs
  split_ifs
  all_goals first | exact harm | simp only [hone hn, hone hm]

lemma emitActions_capacity {n m : ℕ} (hn : runtimeActionCap ≤ n) (hm : runtimeActionCap ≤ m) :
    (r.emitActions (n := n) nowUs control).2.items =
      (r.emitActions (n := m) nowUs control).2.items := by
  have hwin : maxScheduledWindows + 3 < runtimeActionCap := by decide
  have hkeep := r.housekeeping_length_le
  have hroom : ∀ {k}, runtimeActionCap ≤ k →
      (r.emitActions (n := k) nowUs control).2.items =
        (r.emitOutputs (n := k) nowUs control).2.items ++ r.housekeeping := fun {k} hk => by
    have hlen := (emits_emitOutputs r nowUs control
      (show maxScheduledWindows < k by omega)).length_le
    exact FixedBatch.items_foldl_tryPush (by omega)
  rw [hroom hn, hroom hm, emitOutputs_capacity (n := n) (m := m) (by omega) (by omega)]

variable (r) in
/-- What the step of an operation emits from: the runtime with the frame taken over, the time, and
the plan composed for it. -/
def emission (op : RuntimeOp) : Option (EngineRuntime × Micros × ControlPlan) :=
  (r.frameOf op).bind fun (start, frame, inputs) =>
    ((start.takeFrame frame).composeControl frame.validated inputs frame.launchArmed
      frame.flatShiftArmed frame.safetyLatchRequest).map fun (_, plan) =>
        (start.takeFrame frame, frame.nowUs, plan)

lemma apply_step (h : r.apply op = some (r', some result)) :
    ∃ start frame inputs, r.frameOf op = some (start, frame, inputs) ∧
      start.stepWithValidated frame inputs = some (r', result) := by
  rw [apply_eq] at h
  split at h
  · rename_i start frame inputs hframe
    obtain ⟨⟨r₁, result₁⟩, hstep, heq⟩ := Option.map_eq_some_iff.mp h
    obtain ⟨rfl, hres⟩ := Prod.mk.inj heq
    cases hres
    exact ⟨start, frame, inputs, hframe, hstep⟩
  · exact nomatch (Prod.mk.inj (Option.some.inj h)).2

lemma result_of_frame {f : EngineRuntime × StepFrame × ControlInputs} {res : Option StepResult}
    (hframe : r.frameOf op = some f) (h : r.apply op = some (r', res)) :
    ∃ result, res = some result := by
  rw [apply_eq, hframe] at h
  obtain ⟨out, -, heq⟩ := Option.map_eq_some_iff.mp h
  exact ⟨out.2, (Prod.mk.inj heq).2.symm⟩

variable (r)

lemma setEngineTimeAuthorityInner_eq (authority : EngineTimeAuthority) :
    ∃ engine, r.setEngineTimeAuthorityInner authority = { r with engine := engine } := by
  unfold setEngineTimeAuthorityInner
  split <;> exact ⟨_, rfl⟩

lemma applyDecoderObservation_eq (observation : DecoderObservation) :
    ∃ engine snapshot, r.applyDecoderObservation observation =
      { r with engine := engine, runtimeSnapshot := snapshot } := by
  cases observation with
  | trigger trigger =>
    obtain ⟨engine, h⟩ := setEngineTimeAuthorityInner_eq { r with engine := { r.engine with
      rpm := trigger.rpm, angleX10 := trigger.angleX10 } } (deriveEngineTimeAuthority
        r.engine.engineTimeAuthority trigger.synced
        (r.engine.engineTimeAuthority.phase = .camObserved720 ||
          r.engine.engineTimeAuthority.phase = .camValidated720) trigger.rpm)
    exact ⟨engine, _, congrArg refreshSnapshot h⟩
  | cam cam =>
    obtain ⟨engine, h⟩ := setEngineTimeAuthorityInner_eq r (deriveEngineTimeAuthority
      r.engine.engineTimeAuthority r.engine.engineTimeAuthority.hasPrimaryLock cam.camSeen
      r.engine.rpm)
    exact ⟨engine, _, congrArg refreshSnapshot h⟩

lemma configure_eq (op : RuntimeOp) :
    (r.configure op).scheduler = r.scheduler ∧
      (r.configure op).safetyLatched = r.safetyLatched ∧
      ((∀ strategy, op ≠ .configureRuntimeFuelModel strategy) →
        (r.configure op).planners.fuelStrategy = r.planners.fuelStrategy) := by
  cases op with
  | setEngineTimeAuthority authority =>
    obtain ⟨engine, h⟩ := setEngineTimeAuthorityInner_eq r authority
    rw [show r.configure (.setEngineTimeAuthority authority) = refreshSnapshot _ from
      congrArg refreshSnapshot h]
    exact ⟨rfl, rfl, fun _ => rfl⟩
  | trySetEngineTimeAuthority authority =>
    simp only [configure, trySetEngineTimeAuthority]
    split <;> exact ⟨rfl, rfl, fun _ => rfl⟩
  | applyDecoderObservation observation =>
    obtain ⟨engine, snapshot, h⟩ := applyDecoderObservation_eq r observation
    rw [show r.configure (.applyDecoderObservation observation) = _ from h]
    exact ⟨rfl, rfl, fun _ => rfl⟩
  | configureRuntimeFuelModel strategy => exact ⟨rfl, rfl, fun h => absurd rfl (h strategy)⟩
  | _ => exact ⟨rfl, rfl, fun _ => rfl⟩

variable {r}

lemma apply_configured (h : r.apply op = some (r', none)) : r' = r.configure op := by
  rw [apply_eq] at h
  split at h
  · obtain ⟨out, -, heq⟩ := Option.map_eq_some_iff.mp h
    exact nomatch (Prod.mk.inj heq).2
  · exact (Prod.mk.inj (Option.some.inj h)).1.symm

/-- The runtime a step works on differs from the one it is given only in the engine state, the
fault, the direct requests and the snapshot. -/
lemma takeFrame_frameOf {start : EngineRuntime} {frame : StepFrame} {inputs : ControlInputs}
    (h : r.frameOf op = some (start, frame, inputs)) :
    ∃ engine faults fuel spark snapshot, start.takeFrame frame = { r with
      engine := engine
      faults := faults
      directFuelCutRequest := fuel
      directSparkCutRequest := spark
      runtimeSnapshot := snapshot } := by
  obtain ⟨engine, htake⟩ : ∃ engine, start.takeFrame frame = { start with engine := engine } := by
    obtain ⟨engine, h⟩ := setEngineTimeAuthorityInner_eq { start with engine := { start.engine with
      rpm := frame.validated.rpm
      angleX10 := frame.validated.angleX10
      loadKpa10 := frame.validated.loadKpa10 } } frame.authority
    simp only [takeFrame, h]
    exact ⟨_, rfl⟩
  rw [htake]
  cases op <;> simp only [frameOf, Option.some.injEq, Prod.mk.injEq, reduceCtorEq] at h
  case step => obtain ⟨rfl, -⟩ := h; exact ⟨_, _, _, _, _, rfl⟩
  case stepWithAuthority => obtain ⟨rfl, -⟩ := h; exact ⟨_, _, _, _, _, rfl⟩
  case stepWithDifferentialInput input control =>
    obtain ⟨rfl, -⟩ := h
    unfold prepareDifferential
    split <;> exact ⟨_, _, _, _, _, rfl⟩

/-- A step and what it emitted: the outputs at the taken-over frame under the composed plan, and
the housekeeping there. -/
structure Stepped (r : EngineRuntime) (op : RuntimeOp) (r' : EngineRuntime) (result : StepResult)
    (taken : EngineRuntime) (nowUs : Micros) (outputs : List Action) : Prop where
  emission : r.emission op = some (taken, nowUs, result.control)
  emits : Emits taken nowUs result.control r'.scheduler outputs
  actions : result.actions = (taken.emitActions nowUs result.control).2
  items : result.actions.items = outputs ++ taken.housekeeping
  room : result.actions.items.length < runtimeActionCap
  operatingMode : result.operatingMode = taken.engine.mode
  engine : r'.engine = taken.engine
  faults : r'.faults = taken.faults
  outputProfile : r'.outputProfile = taken.outputProfile
  scheduler : taken.scheduler = r.scheduler
  profile : taken.outputProfile = r.outputProfile

lemma apply_stepped (h : r.apply op = some (r', some result)) :
    ∃ taken nowUs outputs, Stepped r op r' result taken nowUs outputs := by
  obtain ⟨start, frame, inputs, hframe, hstep⟩ := apply_step h
  obtain ⟨composed, hplan, hactions, hmode, hsame, -, -⟩ := stepWithValidated_eq_some hstep
  obtain ⟨outputs, hemits, hitems, hroom⟩ := emits_emitActions (start.takeFrame frame)
    frame.nowUs result.control (le_refl runtimeActionCap)
  obtain ⟨engine, faults, fuel, spark, snapshot, htaken⟩ := takeFrame_frameOf hframe
  refine ⟨start.takeFrame frame, frame.nowUs, outputs, ?_, ?_, hactions, ?_, ?_, hmode,
    hsame.engine, hsame.faults, hsame.outputProfile,
    by rw [htaken], by rw [htaken]⟩
  · simp [emission, hframe, hplan]
  · rw [hsame.scheduler]
    exact hemits
  · rw [hactions]
    exact hitems
  · rw [hactions, hitems]
    exact hroom

/-- The housekeeping arms nothing. -/
lemma Stepped.mem_outputs {taken : EngineRuntime} (hs : Stepped r op r' result taken nowUs outputs)
    (hmem : a ∈ result.actions.items) (ha : arms a) : a ∈ outputs := by
  rw [hs.items] at hmem
  rcases List.mem_append.mp hmem with hmem | hmem
  · exact hmem
  · rw [arms_housekeeping hmem] at ha
    cases ha

end EngineRuntime

/-- The guards on what a step arms, and that all of it reaches the caller. -/
structure Guarded (r : EngineRuntime) (op : RuntimeOp) (r' : EngineRuntime)
    (result : StepResult) : Prop where
  fuelCut : result.control.fuelCut → ∀ a ∈ result.actions.items, armsInjection a = false
  sparkCut : result.control.sparkCut → ∀ a ∈ result.actions.items, armsIgnition a = false
  shutdown : result.operatingMode = .shutdown →
    (∀ a ∈ result.actions.items, arms a = false) ∧
      .cancelScheduler .safetyShutdown ∈ result.actions.items
  unlocked : isLocked r'.engine.sync = false → ∀ a ∈ result.actions.items, arms a = false
  unauthorized : outputProfileRequiresFullSequentialAuthority r'.outputProfile →
    runtimeFullSequentialAuthorized r'.engine.engineTimeAuthority = false →
      ∀ a ∈ result.actions.items, arms a = false
  -- a batch of any greater capacity would hold the same actions
  kept : ∀ n, runtimeActionCap ≤ n → ∀ taken nowUs control,
    r.emission op = some (taken, nowUs, control) →
      (taken.emitActions (n := n) nowUs control).2.items = result.actions.items
  room : result.actions.items.length < runtimeActionCap
  last : result.actions.items.getLast? = some .publishSnapshot

/-- **No output is armed against a cut.** This holds in every state of the runtime, whatever the
profile, the fuel strategy and the inputs. -/
theorem step_guarded {r r' : EngineRuntime} {op : RuntimeOp} {result : StepResult}
    (h : r.apply op = some (r', some result)) : Guarded r op r' result := by
  obtain ⟨taken, nowUs, outputs, hs⟩ := EngineRuntime.apply_stepped h
  have hready : ∀ {a}, a ∈ result.actions.items → arms a → taken.Ready := fun hmem ha =>
    hs.emits.ready (hs.mem_outputs hmem ha) ha
  have hshut : result.operatingMode = .shutdown → taken.inShutdown := fun hm => by
    simp [EngineRuntime.inShutdown, ← hs.operatingMode, hm]
  refine ⟨?_, ?_, ?_, ?_, ?_, ?_, ?_, ?_⟩
  · intro hcut a hmem
    refine Bool.eq_false_iff.mpr fun ha => ?_
    have := hs.emits.fuelCut (hs.mem_outputs hmem (by simp [arms, ha])) ha
    exact absurd (hcut.symm.trans this) Bool.true_eq_false.mp
  · intro hcut a hmem
    refine Bool.eq_false_iff.mpr fun ha => ?_
    have := hs.emits.sparkCut (hs.mem_outputs hmem (by simp [arms, ha])) ha
    exact absurd (hcut.symm.trans this) Bool.true_eq_false.mp
  · intro hm
    refine ⟨fun a hmem => Bool.eq_false_iff.mpr fun ha => ?_, ?_⟩
    · exact absurd ((hshut hm).symm.trans (hready hmem ha).running) Bool.true_eq_false.mp
    · rw [hs.items, hs.emits.of_shutdown (hshut hm)]
      exact List.mem_append_left _ (List.mem_singleton_self _)
  · intro hlock a hmem
    refine Bool.eq_false_iff.mpr fun ha => ?_
    rw [hs.engine] at hlock
    exact absurd ((hready hmem ha).locked.symm.trans hlock) Bool.true_eq_false.mp
  · intro hneed hauth a hmem
    refine Bool.eq_false_iff.mpr fun ha => ?_
    have hok := (hready hmem ha).authorized
    rw [hs.outputProfile] at hneed
    rw [hs.engine] at hauth
    rw [EngineRuntime.lacksAuthority, hneed, hauth] at hok
    cases hok
  · intro n hn taken' nowUs' control' hemission'
    obtain ⟨rfl, h'⟩ := Prod.mk.inj (Option.some.inj (hs.emission.symm.trans hemission'))
    cases h'
    rw [hs.actions]
    exact EngineRuntime.emitActions_capacity hn le_rfl
  · exact hs.room
  · rw [hs.items]
    exact taken.getLast?_housekeeping outputs

/-- A runtime whose table holds two milliseconds everywhere. -/
def flatRuntime : EngineRuntime :=
  EngineRuntime.new.configure (.configureRuntimeFuelModel (.directPulseWidthTable
    ⟨.replicate 16 0, .replicate 16 0, .replicate 16 (.replicate 16 2000)⟩))

/-- A step at a thousand revolutions. -/
def steadyStep (nowUs : Micros) (synced : Bool) : RuntimeOp :=
  .step ⟨nowUs, 1000, 500, 0, synced, synced, false, false, false⟩
    (.sparkOnly nowUs ⟨100, 0, 0, 0, false, 1000⟩)

/-- With fuel cut the step still arms the ignition. -/
theorem step_guarded_fuel_cut : ∃ r' result,
    (flatRuntime.setDirectCutRequests true false).apply (steadyStep 1000 true) =
        some (r', some result) ∧
      (result.control.fuelCut ∧ result.actions.items.any armsIgnition) ∧
      Guarded (flatRuntime.setDirectCutRequests true false) (steadyStep 1000 true) r' result := by
  have hrun : ((flatRuntime.setDirectCutRequests true false).apply (steadyStep 1000 true)).any
      (fun out => out.2.any fun result =>
        result.control.fuelCut && result.actions.items.any armsIgnition) = true := by
    decide +kernel
  obtain ⟨⟨r', out⟩, happ, hany⟩ := (Option.any_eq_true ..).mp hrun
  obtain ⟨result, rfl, hres⟩ := (Option.any_eq_true ..).mp hany
  exact ⟨r', result, happ, Bool.and_eq_true_iff.mp hres, step_guarded happ⟩

end Pipoco.Engine
