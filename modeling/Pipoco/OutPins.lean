import Pipoco.OutAdapter

/-!
Pins, and the action executor that drives them.

A board hands its pins to the executor as two banks. Drained transitions are applied in order:
first every channel is checked against its bank, then the pins are written one after another
until a write fails. What a call does to the pins is the list of writes it got through; the
writes that the hardware refuses are an input of the model.
-/

namespace Pipoco.OutPins

open Domain SchedState SchedQueue Lowering OutAdapter

/-! ### Pins -/

abbrev Pins := ExclusiveChannel → ScheduledLevel

/-- The numbers of injector and ignition pins of a board. -/
structure PinBanks where
  (injectors ignition : ℕ)

variable (banks : PinBanks) (pins : Pins) (t : ScheduledTransition) (fault : ℕ → Bool)

def drive : Pins := Function.update pins t.output t.level

def driveAll (writes : List ScheduledTransition) : Pins := writes.foldl drive pins

inductive ScheduledOutputPinError
  | setHigh | setLow
  deriving DecidableEq, Repr

inductive TransitionApplyError
  | injectorChannelOutOfRange (channel : ChannelId)
  | ignitionChannelOutOfRange (channel : ChannelId)
  | pinWrite (kind : ScheduledTransitionKind) (channel : ChannelId) (level : ScheduledLevel)
      (error : ScheduledOutputPinError)
  deriving DecidableEq, Repr

def PinBanks.covers : Bool :=
  match t.kind with
  | .injector => t.channel.toNat < banks.injectors
  | .ignition => t.channel.toNat < banks.ignition

def outOfRange : TransitionApplyError :=
  match t.kind with
  | .injector => .injectorChannelOutOfRange t.channel
  | .ignition => .ignitionChannelOutOfRange t.channel

def pinError : ScheduledLevel → ScheduledOutputPinError
  | .high => .setHigh
  | .low => .setLow

def applyTransition (fails : Bool) (t : ScheduledTransition) : Except TransitionApplyError Unit :=
  if !banks.covers t then .error (outOfRange t)
  else if fails then .error (.pinWrite t.kind t.channel t.level (pinError t.level))
  else .ok ()

/-- The second loop: the writes it gets through from position `idx` on, and its result. -/
def applyLoop (banks : PinBanks) (fault : ℕ → Bool) :
    ℕ → List ScheduledTransition → List ScheduledTransition × Except TransitionApplyError ℕ
  | _, [] => ([], .ok 0)
  | idx, t :: rest =>
    match applyTransition banks (fault idx) t with
    | .error e => ([], .error e)
    | .ok _ =>
      let r := applyLoop banks fault (idx + 1) rest
      (t :: r.1, r.2.map (· + 1))

def applyDrainedTransitions (drained : List ScheduledTransition) :
    List ScheduledTransition × Except TransitionApplyError ℕ :=
  match drained.find? fun t => !banks.covers t with
  | some t => ([], .error (outOfRange t))
  | none => applyLoop banks fault 0 drained

/-! ### The executor -/

def actionOutputScratchCap : ℕ := 4

def mapActionLoweringError : ActionLoweringError → ScheduleError
  | .outputBatchFull | .auxBatchFull | .timingIslandBatchFull => .queueFull

structure ScheduledActionExecutor (n : ℕ) where
  scheduler : ScheduledQueueAdapter n

variable {n : ℕ}

def executeActionOnScheduler (scheduler : ScheduledQueueAdapter n) (action : Action) :
    ScheduledQueueAdapter n × Except ScheduleError Unit :=
  match (.new : BoardApiBatchExecutor actionOutputScratchCap runtimeAuxCommandCap).execute
      action with
  | (_, .error e) => (scheduler, .error (mapActionLoweringError e))
  | (lowered, .ok _) => scheduler.applyLowered lowered

/-- The loop of a batch, up to the first action that is refused. -/
def executeEach : ScheduledQueueAdapter n → List Action →
    ScheduledQueueAdapter n × Except ScheduleError Unit
  | scheduler, [] => (scheduler, .ok ())
  | scheduler, action :: actions =>
    match executeActionOnScheduler scheduler action with
    | (scheduler', .error e) => (scheduler', .error e)
    | (scheduler', .ok _) => executeEach scheduler' actions

namespace ScheduledActionExecutor

variable (x : ScheduledActionExecutor n) (now : Micros)

def new : ScheduledActionExecutor n := ⟨.new⟩

def execute (action : Action) : ScheduledActionExecutor n × Except ScheduleError Unit :=
  let r := executeActionOnScheduler x.scheduler action
  (⟨r.1⟩, r.2)

/-- A batch runs on a copy, which is dropped when an action is refused. -/
def executeBatch (actions : List Action) : ScheduledActionExecutor n × Except ScheduleError Unit :=
  match executeEach x.scheduler actions with
  | (_, .error e) => (x, .error e)
  | (scheduler, .ok _) => (⟨scheduler⟩, .ok ())

/-- The drain of a call: through the frontier once a horizon has been accepted, plain before. -/
def drain (m : ℕ) : ScheduledQueueAdapter n × List ScheduledTransition :=
  if x.scheduler.frontier.lastAcceptedHorizonId.isSome then
    x.scheduler.drainDueWithFrontier now m
  else x.scheduler.drainDue now m

/-- The executor after the call, the pin writes of the call, and its result. -/
def drainAndApplyDue (m : ℕ) (banks : PinBanks) (fault : ℕ → Bool) :
    ScheduledActionExecutor n × List ScheduledTransition × Except TransitionApplyError ℕ :=
  let hadLiveFrontier := x.scheduler.hasLiveFrontier
  let (scheduler, out) := x.drain now m
  match applyDrainedTransitions banks fault out with
  | (writes, .ok applied) => (⟨scheduler⟩, writes, .ok applied)
  | (writes, .error e) =>
    (⟨if hadLiveFrontier then scheduler.cancelAllWithReason .boardOutputFault else scheduler⟩,
      writes, .error e)

end ScheduledActionExecutor

/-! ### The homogeneous output bank -/

namespace ScheduledOutputs

variable (banks : PinBanks)

def validateTransition (t : ScheduledTransition) : Except TransitionApplyError Unit :=
  if !banks.covers t then .error (outOfRange t) else .ok ()

/-- The pin of a validated channel is there, so only the write can fail. -/
def applyTransition (fails : Bool) (t : ScheduledTransition) : Except TransitionApplyError Unit :=
  if fails then .error (.pinWrite t.kind t.channel t.level (pinError t.level)) else .ok ()

def validateLoop (banks : PinBanks) : List ScheduledTransition → Except TransitionApplyError Unit
  | [] => .ok ()
  | t :: rest =>
    match validateTransition banks t with
    | .error e => .error e
    | .ok _ => validateLoop banks rest

/-- The second loop: the writes it gets through from position `idx` on, and its result. -/
def applyLoop (fault : ℕ → Bool) :
    ℕ → List ScheduledTransition → List ScheduledTransition × Except TransitionApplyError ℕ
  | _, [] => ([], .ok 0)
  | idx, t :: rest =>
    match applyTransition (fault idx) t with
    | .error e => ([], .error e)
    | .ok _ =>
      let r := applyLoop fault (idx + 1) rest
      (t :: r.1, r.2.map (· + 1))

def applyDrainedTransitions (fault : ℕ → Bool) (drained : List ScheduledTransition) :
    List ScheduledTransition × Except TransitionApplyError ℕ :=
  match validateLoop banks drained with
  | .error e => ([], .error e)
  | .ok _ => applyLoop fault 0 drained

/-- The bank's own call: a plain drain, and nothing is cancelled when a write fails. -/
def drainAndApplyDue (x : ScheduledActionExecutor n) (now : Micros) (m : ℕ) (fault : ℕ → Bool) :
    ScheduledActionExecutor n × List ScheduledTransition × Except TransitionApplyError ℕ :=
  let (scheduler, out) := x.scheduler.drainDue now m
  let (writes, result) := applyDrainedTransitions banks fault out
  (⟨scheduler⟩, writes, result)

end ScheduledOutputs

/-! ### What a call does -/

variable (x : ScheduledActionExecutor n) (now : Micros)

lemma drainAndApplyDue_writes (m : ℕ) (banks : PinBanks) (fault : ℕ → Bool) :
    (x.drainAndApplyDue now m banks fault).2.1 =
      (applyDrainedTransitions banks fault (x.drain now m).2).1 := by
  simp only [ScheduledActionExecutor.drainAndApplyDue]
  split <;> simp_all

/-- After a call the scheduler is drained, or cancelled because a pin could not be driven. -/
lemma drainAndApplyDue_scheduler (m : ℕ) (banks : PinBanks) (fault : ℕ → Bool) :
    (x.drainAndApplyDue now m banks fault).1.scheduler = (x.drain now m).1 ∨
      (x.drainAndApplyDue now m banks fault).1.scheduler =
        (x.drain now m).1.cancelAllWithReason .boardOutputFault := by
  simp only [ScheduledActionExecutor.drainAndApplyDue]
  split
  · exact .inl rfl
  · by_cases hlive : x.scheduler.hasLiveFrontier = true
    · right; simp [hlive]
    · left; simp [hlive]

lemma driveAll_high {pins : Pins} {writes : List ScheduledTransition} {o : ExclusiveChannel}
    (h : pins o = .high) (hw : ∀ t ∈ writes, t.output = o → t.level = .high) :
    driveAll pins writes o = .high := by
  induction writes generalizing pins with
  | nil => exact h
  | cons t writes ih =>
    refine ih ?_ fun u hu => hw u (.tail _ hu)
    by_cases ho : t.output = o
    · subst ho
      rw [drive, Function.update_self, hw t (.head _) rfl]
    · rw [drive, Function.update_of_ne (fun he => ho he.symm), h]

/-! ### Calls without faults -/

variable {out : List ScheduledTransition}

variable {banks fault}

lemma applyLoop_of_ok (hf : ∀ i, fault i = false) (idx : ℕ) (hc : ∀ t ∈ out, banks.covers t = true) :
    applyLoop banks fault idx out = (out, .ok out.length) := by
  induction out generalizing idx with
  | nil => rfl
  | cons t out ih =>
    have ht := hc t (.head _)
    have happly : applyTransition banks (fault idx) t = .ok () := by
      simp [applyTransition, ht, hf idx]
    rw [applyLoop, happly, ih (idx + 1) fun u hu => hc u (.tail _ hu)]
    rfl

lemma applyDrainedTransitions_of_ok (hf : ∀ i, fault i = false)
    (hc : ∀ t ∈ out, banks.covers t = true) :
    applyDrainedTransitions banks fault out = (out, .ok out.length) := by
  have hnone : out.find? (fun t => !banks.covers t) = none := by
    rw [List.find?_eq_none]
    intro t ht
    simp [hc t ht]
  rw [applyDrainedTransitions, hnone]
  exact applyLoop_of_ok hf 0 hc

variable (banks fault)

variable (out)

lemma applyLoop_sublist (idx : ℕ) (out : List ScheduledTransition) :
    (applyLoop banks fault idx out).1.Sublist out := by
  induction out generalizing idx with
  | nil => exact List.Sublist.refl _
  | cons t out ih =>
    rw [applyLoop]
    split
    · exact List.nil_sublist _
    · exact (ih (idx + 1)).cons_cons t

lemma writes_sublist : (applyDrainedTransitions banks fault out).1.Sublist out := by
  unfold applyDrainedTransitions
  split
  · exact List.nil_sublist _
  · exact applyLoop_sublist banks fault 0 out

/-! ### Both ways of applying are the same -/

namespace ScheduledOutputs

variable (banks : PinBanks) (fault : ℕ → Bool) (out : List ScheduledTransition)

lemma validateLoop_eq :
    validateLoop banks out =
      match out.find? fun t => !banks.covers t with
      | some t => .error (outOfRange t)
      | none => .ok () := by
  induction out with
  | nil => rfl
  | cons t out ih =>
    by_cases hc : banks.covers t
    · rw [validateLoop, List.find?_cons_of_neg (by simp [hc]), ← ih]
      simp [validateTransition, hc]
    · rw [validateLoop, List.find?_cons_of_pos (by simp [hc])]
      simp [validateTransition, hc]

variable {out} in
lemma applyLoop_eq (idx : ℕ) (hc : ∀ t ∈ out, banks.covers t = true) :
    applyLoop fault idx out = OutPins.applyLoop banks fault idx out := by
  induction out generalizing idx with
  | nil => rfl
  | cons t out ih =>
    have ht := hc t (.head _)
    have happly : OutPins.applyTransition banks (fault idx) t = applyTransition (fault idx) t := by
      simp [OutPins.applyTransition, applyTransition, ht]
    rw [applyLoop, OutPins.applyLoop, happly, ih (idx + 1) fun u hu => hc u (.tail _ hu)]

/-- The bank applies drained transitions as the executor does. -/
lemma applyDrainedTransitions_eq :
    applyDrainedTransitions banks fault out = OutPins.applyDrainedTransitions banks fault out := by
  rw [applyDrainedTransitions, OutPins.applyDrainedTransitions, validateLoop_eq]
  rcases hfind : out.find? fun t => !banks.covers t with _ | t
  · have hc : ∀ t ∈ out, banks.covers t = true := by
      intro t ht
      simpa using List.find?_eq_none.mp hfind t ht
    exact applyLoop_eq banks fault 0 hc
  · rfl

end ScheduledOutputs

end Pipoco.OutPins
