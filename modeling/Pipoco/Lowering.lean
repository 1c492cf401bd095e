import Pipoco.SchedState

/-!
The actions a runtime step emits, and how they are lowered to the logical output and auxiliary
batches of a board.

Lowering is all or nothing: the room an action needs is checked before anything is pushed, and
an action that does not fit leaves the batches as they were.
-/

namespace Pipoco.Lowering

open Domain SchedState

variable {out aux : ℕ}

def runtimeActionCap : ℕ := 20

def runtimeAuxCommandCap : ℕ := 16

inductive Action
  | armScheduler (injection : TimedInjectionPlan) (ignition : TimedIgnitionPlan)
  | armInjection (injection : TimedInjectionPlan)
  | armIgnition (ignition : TimedIgnitionPlan)
  | cancelScheduler (reason : CancelReason)
  | publishSnapshot
  | persistCalibration
  | applyAux (commands : FixedBatch AuxCommand runtimeAuxCommandCap)
  | idle
  deriving DecidableEq

inductive ActionLoweringError
  | outputBatchFull | auxBatchFull | timingIslandBatchFull
  deriving DecidableEq, Repr

/-- What lowering saw besides outputs. -/
structure ActionLoweringStatus where
  scheduledOutputTransitions : ℕ := 0
  appliedAuxCommands : ℕ := 0
  cancelScheduler : Option CancelReason := none
  persistCalibration : Bool := false
  publishSnapshot : Bool := false
  idleSeen : Bool := false
  deriving DecidableEq

def ActionLoweringStatus.merge (s other : ActionLoweringStatus) : ActionLoweringStatus where
  scheduledOutputTransitions := s.scheduledOutputTransitions + other.scheduledOutputTransitions
  appliedAuxCommands := s.appliedAuxCommands + other.appliedAuxCommands
  cancelScheduler := other.cancelScheduler.or s.cancelScheduler
  persistCalibration := s.persistCalibration || other.persistCalibration
  publishSnapshot := s.publishSnapshot || other.publishSnapshot
  idleSeen := s.idleSeen || other.idleSeen

/-- The `High` at the start and the `Low` at the end of a window. -/
def outputPair (output : EcuOutput) (startAt endAt : Micros) : List OutputTransition :=
  [⟨output, .high, startAt⟩, ⟨output, .low, endAt⟩]

def actionTransitions : Action → List OutputTransition
  | .armScheduler injection ignition =>
    outputPair (.injector injection.plan.output.channel) injection.startAt injection.endAt ++
      outputPair (.ignition ignition.plan.output.channel) ignition.startAt ignition.endAt
  | .armInjection injection =>
    outputPair (.injector injection.plan.output.channel) injection.startAt injection.endAt
  | .armIgnition ignition =>
    outputPair (.ignition ignition.plan.output.channel) ignition.startAt ignition.endAt
  | _ => []

def actionAuxCommands : Action → List AuxCommand
  | .applyAux commands => commands.items
  | _ => []

variable (action : Action)

def actionStatus : ActionLoweringStatus where
  scheduledOutputTransitions := (actionTransitions action).length
  appliedAuxCommands := (actionAuxCommands action).length
  cancelScheduler := match action with
    | .cancelScheduler reason => some reason
    | _ => none
  persistCalibration := action matches .persistCalibration
  publishSnapshot := action matches .publishSnapshot
  idleSeen := action matches .idle

/-- Append to a batch if everything fits. -/
def extend {α : Type} {n : ℕ} (b : FixedBatch α n) (items : List α) : Option (FixedBatch α n) :=
  if h : items.length ≤ n - b.items.length then
    some ⟨b.items ++ items, by have := b.fits; rw [List.length_append]; omega⟩
  else none

def lowerActionToBoardBatches (outputs : FixedBatch OutputTransition out)
    (commands : FixedBatch AuxCommand aux) :
    Except ActionLoweringError
      (FixedBatch OutputTransition out × FixedBatch AuxCommand aux × ActionLoweringStatus) :=
  match extend outputs (actionTransitions action) with
  | none => .error .outputBatchFull
  | some outputs' =>
    match extend commands (actionAuxCommands action) with
    | none => .error .auxBatchFull
    | some commands' => .ok (outputs', commands', actionStatus action)

lemma extend_items {α : Type} {n : ℕ} {b b' : FixedBatch α n} {items : List α}
    (h : extend b items = some b') : b'.items = b.items ++ items := by
  unfold extend at h
  split_ifs at h
  cases h
  rfl

variable {status : ActionLoweringStatus}

lemma lowerActionToBoardBatches_ok {action : Action}
    {outputs outputs' : FixedBatch OutputTransition out}
    {commands commands' : FixedBatch AuxCommand aux}
    (h : lowerActionToBoardBatches action outputs commands = .ok (outputs', commands', status)) :
    outputs'.items = outputs.items ++ actionTransitions action ∧
      commands'.items = commands.items ++ actionAuxCommands action ∧
      status = actionStatus action := by
  unfold lowerActionToBoardBatches at h
  split at h
  · cases h
  · rename_i o ho
    split at h
    · cases h
    · rename_i c hc
      obtain ⟨rfl, rfl, rfl⟩ : o = outputs' ∧ c = commands' ∧ actionStatus action = status := by
        simpa using h
      exact ⟨extend_items ho, extend_items hc, rfl⟩

def actionOutputTransitionCount : Action → ℕ
  | .armScheduler _ _ => 4
  | .armInjection _ | .armIgnition _ => 2
  | _ => 0

def actionAuxCommandCount : Action → ℕ
  | .applyAux commands => commands.len
  | _ => 0

/-- The loop that lowers the actions of a batch one after another and merges what it saw. -/
def lowerEach {out aux : ℕ} : List Action → FixedBatch OutputTransition out →
    FixedBatch AuxCommand aux → ActionLoweringStatus → Except ActionLoweringError
      (FixedBatch OutputTransition out × FixedBatch AuxCommand aux × ActionLoweringStatus)
  | [], outputs, commands, status => .ok (outputs, commands, status)
  | action :: actions, outputs, commands, status =>
    match lowerActionToBoardBatches action outputs commands with
    | .error e => .error e
    | .ok (outputs', commands', status') => lowerEach actions outputs' commands' (status.merge status')

/-- The room for the whole batch is checked first. -/
def lowerActionBatchToBoardBatches (actions : List Action)
    (outputs : FixedBatch OutputTransition out) (commands : FixedBatch AuxCommand aux) :
    Except ActionLoweringError
      (FixedBatch OutputTransition out × FixedBatch AuxCommand aux × ActionLoweringStatus) :=
  let outputTransitionsNeeded := (actions.map actionOutputTransitionCount).sum
  let auxCommandsNeeded := (actions.map actionAuxCommandCount).sum
  if out - outputs.items.length < outputTransitionsNeeded then .error .outputBatchFull
  else if aux - commands.items.length < auxCommandsNeeded then .error .auxBatchFull
  else lowerEach actions outputs commands {}

/-- Batches of a board under construction, with room for `out` transitions and `aux` commands. -/
structure BoardApiBatchExecutor (out aux : ℕ) where
  outputTransitions : FixedBatch OutputTransition out
  auxCommands : FixedBatch AuxCommand aux
  status : ActionLoweringStatus
  deriving DecidableEq

open BoardApiBatchExecutor

namespace BoardApiBatchExecutor

variable {out aux : ℕ} (b : BoardApiBatchExecutor out aux)

def new : BoardApiBatchExecutor out aux := ⟨.new, .new, {}⟩

def execute (action : Action) : BoardApiBatchExecutor out aux × Except ActionLoweringError Unit :=
  match lowerActionToBoardBatches action b.outputTransitions b.auxCommands with
  | .error e => (b, .error e)
  | .ok (outputs, commands, status) => (⟨outputs, commands, b.status.merge status⟩, .ok ())

def executeBatch (actions : List Action) :
    BoardApiBatchExecutor out aux × Except ActionLoweringError Unit :=
  match lowerActionBatchToBoardBatches actions b.outputTransitions b.auxCommands with
  | .error e => (b, .error e)
  | .ok (outputs, commands, status) => (⟨outputs, commands, b.status.merge status⟩, .ok ())

end BoardApiBatchExecutor

/-! ### A lowered batch -/

variable {outputs : FixedBatch OutputTransition out} {commands : FixedBatch AuxCommand aux}
  (before : Option CancelReason)

/-- The reason of the last cancel, or the one there was before. -/
def lastCancel (actions : List Action) : Option CancelReason :=
  actions.foldl (fun reason action => (actionStatus action).cancelScheduler.or reason) before

lemma lastCancel_append (u v : List Action) :
    lastCancel before (u ++ v) = lastCancel (lastCancel before u) v := List.foldl_append ..

variable {actions : List Action}

/-- Lowering a batch appends what its actions ask for and keeps the last cancel. -/
lemma lowerEach_ok {outputs' : FixedBatch OutputTransition out}
    {commands' : FixedBatch AuxCommand aux} {status' : ActionLoweringStatus}
    (h : lowerEach actions outputs commands status = .ok (outputs', commands', status')) :
    outputs'.items = outputs.items ++ actions.flatMap actionTransitions ∧
      status'.cancelScheduler = lastCancel status.cancelScheduler actions := by
  induction actions generalizing outputs commands status with
  | nil =>
    obtain ⟨rfl, -, rfl⟩ : outputs = outputs' ∧ commands = commands' ∧ status = status' := by
      simpa [lowerEach] using h
    simp [lastCancel]
  | cons action actions ih =>
    rw [lowerEach] at h
    rcases hl : lowerActionToBoardBatches action outputs commands with e | ⟨o, c, st⟩
    · rw [hl] at h; cases h
    · rw [hl] at h
      obtain ⟨ho, -, hst⟩ := lowerActionToBoardBatches_ok hl
      obtain ⟨hitems, hcancel⟩ := ih h
      refine ⟨?_, ?_⟩
      · rw [hitems, ho, List.flatMap_cons, List.append_assoc]
      · rw [hcancel, hst]; rfl

variable (status)

lemma lowerEach_of_fits
    (hout : outputs.items.length + (actions.flatMap actionTransitions).length ≤ out)
    (haux : commands.items.length + (actions.flatMap actionAuxCommands).length ≤ aux) :
    ∃ r, lowerEach actions outputs commands status = .ok r := by
  induction actions generalizing outputs commands status with
  | nil => exact ⟨_, rfl⟩
  | cons action actions ih =>
    rw [List.flatMap_cons, List.length_append] at hout haux
    have ho : (actionTransitions action).length ≤ out - outputs.items.length := by omega
    have hc : (actionAuxCommands action).length ≤ aux - commands.items.length := by omega
    have hlower : lowerActionToBoardBatches action outputs commands =
        .ok (⟨outputs.items ++ actionTransitions action, by rw [List.length_append]; omega⟩,
          ⟨commands.items ++ actionAuxCommands action, by rw [List.length_append]; omega⟩,
          actionStatus action) := by
      rw [lowerActionToBoardBatches, extend, extend, dif_pos ho, dif_pos hc]
    rw [lowerEach, hlower]
    refine ih _ ?_ ?_
    · show (outputs.items ++ actionTransitions action).length + _ ≤ out
      rw [List.length_append]; omega
    · show (commands.items ++ actionAuxCommands action).length + _ ≤ aux
      rw [List.length_append]; omega

variable (actions)

lemma sum_actionOutputTransitionCount :
    (actions.map actionOutputTransitionCount).sum = (actions.flatMap actionTransitions).length := by
  rw [List.length_flatMap]
  refine congrArg List.sum (List.map_congr_left fun action _ => ?_)
  cases action <;> rfl

lemma sum_actionAuxCommandCount :
    (actions.map actionAuxCommandCount).sum = (actions.flatMap actionAuxCommands).length := by
  rw [List.length_flatMap]
  refine congrArg List.sum (List.map_congr_left fun action _ => ?_)
  cases action <;> rfl

variable {actions}

lemma BoardApiBatchExecutor.executeBatch_of_fits
    (hout : (actions.flatMap actionTransitions).length ≤ out)
    (haux : (actions.flatMap actionAuxCommands).length ≤ aux) :
    ∃ lowered, (new : BoardApiBatchExecutor out aux).executeBatch actions = (lowered, .ok ()) := by
  obtain ⟨⟨o, c, st⟩, hl⟩ : ∃ r, lowerEach actions (.new : FixedBatch OutputTransition out)
      (.new : FixedBatch AuxCommand aux) {} = .ok r :=
    lowerEach_of_fits {} (by simpa [FixedBatch.new] using hout)
      (by simpa [FixedBatch.new] using haux)
  refine ⟨⟨o, c, ({} : ActionLoweringStatus).merge st⟩, ?_⟩
  have hlower : lowerActionBatchToBoardBatches actions (.new : FixedBatch OutputTransition out)
      (.new : FixedBatch AuxCommand aux) = .ok (o, c, st) := by
    rw [lowerActionBatchToBoardBatches, sum_actionOutputTransitionCount, sum_actionAuxCommandCount]
    rw [if_neg (by simpa [FixedBatch.new] using hout), if_neg (by simpa [FixedBatch.new] using haux)]
    exact hl
  rw [executeBatch, new, hlower]

lemma BoardApiBatchExecutor.executeBatch_ok {lowered : BoardApiBatchExecutor out aux}
    (h : (new : BoardApiBatchExecutor out aux).executeBatch actions = (lowered, .ok ())) :
    lowered.outputTransitions.items = actions.flatMap actionTransitions ∧
      lowered.status.cancelScheduler = lastCancel none actions := by
  unfold executeBatch lowerActionBatchToBoardBatches at h
  simp only at h
  split_ifs at h
  · cases (Prod.mk.inj h).2
  · cases (Prod.mk.inj h).2
  · rcases hl : lowerEach actions (new : BoardApiBatchExecutor out aux
        ).outputTransitions (new : BoardApiBatchExecutor out aux).auxCommands
        {} with e | ⟨o, c, st⟩
    · rw [hl] at h; cases (Prod.mk.inj h).2
    · rw [hl] at h
      cases h
      obtain ⟨hitems, hcancel⟩ := lowerEach_ok hl
      refine ⟨hitems, ?_⟩
      show (st.cancelScheduler.or none) = _
      rw [Option.or_none, hcancel]

end Pipoco.Lowering
