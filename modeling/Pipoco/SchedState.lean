import Pipoco.Domain
import Pipoco.Slots

/-!
The ownership state of the scheduler: which output groups are armed, which windows are
reserved on which output, and the live horizon of the frontier.

An operation that can be refused returns the state together with its result. The state a
refusal leaves behind is part of the model.
-/

namespace Pipoco.SchedState

open Domain Slots

/-! ### Outputs, plans and transitions -/

inductive OutputGroup
  | injector | ignition | idle | fan
  deriving DecidableEq, Repr

def OutputGroup.mask : OutputGroup → BitVec 8
  | .injector => 1
  | .ignition => 2
  | .idle => 4
  | .fan => 8

/-- An output channel, keyed by its group. -/
structure ExclusiveChannel where
  group : OutputGroup
  channel : ChannelId
  deriving DecidableEq, Repr

structure InjectionPlan where
  output : ExclusiveChannel
  pulseWidth : PulseWidthUs
  deriving DecidableEq, Repr

structure IgnitionPlan where
  output : ExclusiveChannel
  dwell : DwellUs
  advance : Degrees10
  deriving DecidableEq

structure TimedInjectionPlan where
  plan : InjectionPlan
  (startAt endAt : Micros)
  deriving DecidableEq

structure TimedIgnitionPlan where
  plan : IgnitionPlan
  (startAt endAt : Micros)
  deriving DecidableEq

inductive ScheduleError
  | suspended | staleDeadline | impossibleDeadline | conflictingChannel | invalidChannel
  | queueFull
  deriving DecidableEq, Repr

inductive ScheduledTransitionKind
  | injector | ignition
  deriving DecidableEq, Repr

inductive ScheduledLevel
  | low | high
  deriving DecidableEq, Repr

/-- A pin-level transition planned for a time. -/
structure ScheduledTransition where
  atUs : Micros
  kind : ScheduledTransitionKind
  channel : ChannelId
  level : ScheduledLevel
  deriving DecidableEq, Repr

def ScheduledTransitionKind.group : ScheduledTransitionKind → OutputGroup
  | .injector => .injector
  | .ignition => .ignition

def ScheduledTransition.output (t : ScheduledTransition) : ExclusiveChannel :=
  ⟨t.kind.group, t.channel⟩

/-! ### Windows -/

def fullEcuMaxCylinders : ℕ := 8

abbrev maxScheduledWindows : ℕ := fullEcuMaxCylinders * 2

/-- A reserved half-open window of an output. -/
structure ScheduledWindow where
  output : ExclusiveChannel
  (startAt endAt : Micros)
  deriving DecidableEq, Repr

def channelBitWidth : ChannelId := 128

def channelBit (channel : ChannelId) : Except ScheduleError (BitVec 128) :=
  if channel ≥ channelBitWidth then .error .invalidChannel
  else .ok (1#128 <<< channel.toNat)

def windowsOverlap (candidateStart candidateEnd existingStart existingEnd : Micros) : Bool :=
  candidateStart < existingEnd && existingStart < candidateEnd

/-! ### The state -/

inductive SchedulerMode
  | idle | armed | suspended
  deriving DecidableEq, Repr

structure SchedulerState where
  mode : SchedulerMode
  activeGroups : BitVec 8
  reservedChannels : OutputGroup → BitVec 128
  scheduledWindows : Table ScheduledWindow maxScheduledWindows
  lastAcceptedHorizonId : Option TimingIslandHorizonSequenceId
  (lastAcceptedHorizonStartUs lastAcceptedHorizonEndUs : Option Micros)
  activeHorizonId : Option TimingIslandHorizonSequenceId
  (horizonStartUs horizonEndUs heartbeatDeadlineUs : Option Micros)
  activePermitMask : SafetyPermitMask
  activeStopReason : TimingIslandStopReason
  (injectionCount ignitionCount : UInt8)
  (lastInjectionStart lastInjectionEnd lastIgnitionStart lastIgnitionEnd : Option Micros)

namespace SchedulerState

variable (s : SchedulerState)

def new : SchedulerState where
  mode := .idle
  activeGroups := 0
  reservedChannels := fun _ => 0
  scheduledWindows := Table.empty maxScheduledWindows
  lastAcceptedHorizonId := none
  lastAcceptedHorizonStartUs := none
  lastAcceptedHorizonEndUs := none
  activeHorizonId := none
  horizonStartUs := none
  horizonEndUs := none
  heartbeatDeadlineUs := none
  activePermitMask := .none
  activeStopReason := .none
  injectionCount := 0
  ignitionCount := 0
  lastInjectionStart := none
  lastInjectionEnd := none
  lastIgnitionStart := none
  lastIgnitionEnd := none

def isArmed : Bool := s.activeGroups ≠ 0

def windows : List ScheduledWindow := s.scheduledWindows.items

def armGroup (group : OutputGroup) : SchedulerState :=
  { s with activeGroups := s.activeGroups ||| group.mask, mode := .armed }

/-- One pass of the loop that collects the reserved channels of each group. -/
def reserveBit (reserved : OutputGroup → BitVec 128) (w : ScheduledWindow) :
    OutputGroup → BitVec 128 :=
  match channelBit w.output.channel with
  | .error _ => reserved
  | .ok bit => Function.update reserved w.output.group (reserved w.output.group ||| bit)

def refreshReservedChannels : SchedulerState :=
  { s with reservedChannels := s.windows.foldl reserveBit fun _ => 0 }

def refreshCounts : SchedulerState :=
  { s with
    injectionCount := UInt8.ofNat (s.reservedChannels .injector).cpop.toNat
    ignitionCount := UInt8.ofNat (s.reservedChannels .ignition).cpop.toNat }

def refreshModeFromGroups : SchedulerState :=
  if s.activeGroups = 0 ∧ s.mode ≠ .suspended then { s with mode := .idle }
  else if s.activeGroups ≠ 0 ∧ s.mode ≠ .suspended then { s with mode := .armed }
  else s

def syncScheduledGroup (group : OutputGroup) : SchedulerState :=
  if s.reservedChannels group = 0 then
    { s with activeGroups := s.activeGroups &&& ~~~group.mask }
  else { s with activeGroups := s.activeGroups ||| group.mask }

def reserveWindow (output : ExclusiveChannel) (startAt endAt : Micros) :
    SchedulerState × Except ScheduleError Unit :=
  if endAt ≤ startAt then (s, .error .impossibleDeadline)
  else
    match channelBit output.channel with
    | .error e => (s, .error e)
    | .ok _ =>
      if s.windows.any fun w =>
          w.output = output && windowsOverlap startAt endAt w.startAt w.endAt then
        (s, .error .conflictingChannel)
      else
        match s.scheduledWindows.put ⟨output, startAt, endAt⟩ with
        | none => (s, .error .queueFull)
        | some table =>
          let stored := { s with scheduledWindows := table }
          (((stored.armGroup output.group).refreshReservedChannels).refreshCounts, .ok ())

def cancelGroup (group : OutputGroup) : SchedulerState :=
  let groups := s.activeGroups &&& ~~~group.mask
  let cleared := { s with
    scheduledWindows := s.scheduledWindows.cancel fun w => w.output.group = group
    reservedChannels := Function.update s.reservedChannels group 0
    activeGroups := groups
    mode := if groups = 0 ∧ s.mode ≠ SchedulerMode.suspended then .idle else s.mode }
  cleared.refreshCounts

def clearScheduledOwnership : SchedulerState :=
  let cleared := { s with
    scheduledWindows := Table.empty maxScheduledWindows
    reservedChannels := fun _ => 0
    activeGroups := 0 }
  cleared.refreshCounts.refreshModeFromGroups

def clearLiveFrontierState (stopReason : TimingIslandStopReason) : SchedulerState :=
  { s with
    activeHorizonId := none
    horizonStartUs := none
    horizonEndUs := none
    heartbeatDeadlineUs := none
    activePermitMask := .none
    activeStopReason := stopReason }

def cancelAll : SchedulerState := s.clearScheduledOwnership.clearLiveFrontierState .permitDenied

def suspend : SchedulerState :=
  { s.clearScheduledOwnership with mode := .suspended }

def onSyncLoss : SchedulerState := (s.clearLiveFrontierState .syncLost).suspend

def onSyncRecovered : SchedulerState := if s.mode = .suspended then { s with mode := .idle } else s

def onGeometryCommit : SchedulerState := (s.cancelGroup .injector).cancelGroup .ignition

def onHardSafetyShutdown : SchedulerState := (s.clearLiveFrontierState .timingFault).suspend

/-! ### The horizon -/

variable (now : Micros)

def commitHorizon (horizonId : TimingIslandHorizonSequenceId)
    (horizonStartUs horizonEndUs heartbeatDeadlineUs : Micros) (permitMask : SafetyPermitMask) :
    SchedulerState × Bool :=
  if horizonEndUs ≤ horizonStartUs then (s, false)
  -- the difference cannot wrap here: the end is after the start
  else if horizonEndUs - horizonStartUs > maxHorizonUs then (s, false)
  else if s.lastAcceptedHorizonId.any fun last => horizonId ≤ last then (s, false)
  else
    ({ s with
        lastAcceptedHorizonId := some horizonId
        lastAcceptedHorizonStartUs := some horizonStartUs
        lastAcceptedHorizonEndUs := some horizonEndUs
        activeHorizonId := some horizonId
        horizonStartUs := some horizonStartUs
        horizonEndUs := some horizonEndUs
        heartbeatDeadlineUs := some heartbeatDeadlineUs
        activePermitMask := permitMask
        activeStopReason := .none }, true)

def noteHeartbeat : SchedulerState :=
  if s.activeHorizonId.isSome then
    { s with heartbeatDeadlineUs := some (satAdd32 now heartbeatExpiryUs) }
  else s

def expireHeartbeat : SchedulerState × Bool :=
  match s.heartbeatDeadlineUs with
  | none => (s, false)
  | some deadline =>
    if now ≤ deadline then (s, false)
    else
      ({ s with
          activePermitMask := .none
          activeStopReason :=
            if s.activeStopReason = .none then .heartbeatExpired else s.activeStopReason }, true)

def expireHorizon : SchedulerState × Bool :=
  match s.horizonEndUs with
  | none => (s, false)
  | some endUs =>
    if now ≤ endUs then (s, false)
    else
      (s.clearLiveFrontierState
        (if s.activeStopReason = .none then .horizonExpired else s.activeStopReason), true)

def expireFrontier : SchedulerState := ((s.expireHeartbeat now).1.expireHorizon now).1

/-! ### Plans -/

def ensureSchedulable : Except ScheduleError Unit :=
  if s.mode = .suspended then .error .suspended else .ok ()

def convertDeadline (startAt endAt : Micros) : Except ScheduleError (Micros × Micros) :=
  if startAt ≤ now then .error .staleDeadline
  else if endAt < startAt then .error .staleDeadline
  else if endAt = startAt then .error .impossibleDeadline
  else .ok (startAt, endAt)

/-- What both kinds of plan do before they note their own last window: the mode is checked,
then the deadline, then the window is reserved. -/
def scheduleWindow (startAt endAt : Micros) (output : ExclusiveChannel) :
    SchedulerState × Except ScheduleError Unit :=
  match s.ensureSchedulable with
  | .error e => (s, .error e)
  | .ok _ =>
    match convertDeadline now startAt endAt with
    | .error e => (s, .error e)
    | .ok timed => s.reserveWindow output timed.1 timed.2

def scheduleInjection (startAt endAt : Micros) (plan : InjectionPlan) :
    SchedulerState × Except ScheduleError TimedInjectionPlan :=
  match s.scheduleWindow now startAt endAt plan.output with
  | (s', .error e) => (s', .error e)
  | (s', .ok _) =>
    ({ s' with lastInjectionStart := some startAt, lastInjectionEnd := some endAt },
      .ok ⟨plan, startAt, endAt⟩)

def scheduleIgnition (startAt endAt : Micros) (plan : IgnitionPlan) :
    SchedulerState × Except ScheduleError TimedIgnitionPlan :=
  match s.scheduleWindow now startAt endAt plan.output with
  | (s', .error e) => (s', .error e)
  | (s', .ok _) =>
    ({ s' with lastIgnitionStart := some startAt, lastIgnitionEnd := some endAt },
      .ok ⟨plan, startAt, endAt⟩)

/-! ### Drained transitions -/

variable (t : ScheduledTransition)

/-- A window that a drained `Low` closes. -/
def closedBy (w : ScheduledWindow) : Bool := w.output = t.output && w.endAt = t.atUs

def noteDrainedTransition : SchedulerState :=
  if t.level ≠ .low then s
  else if s.windows.any (closedBy t) then
    let released := { s with scheduledWindows := s.scheduledWindows.release (closedBy t) }
    let reserved := released.refreshReservedChannels
    let synced := (reserved.syncScheduledGroup .injector).syncScheduledGroup .ignition
    synced.refreshCounts.refreshModeFromGroups
  else s

/-! ### What the operations do to the windows -/

section windows

variable (s : SchedulerState) (g : OutputGroup) (now : Micros)

@[simp] lemma windows_new : new.windows = [] := items_empty

@[simp] lemma windows_refreshReservedChannels : s.refreshReservedChannels.windows = s.windows := rfl

@[simp] lemma windows_refreshCounts : s.refreshCounts.windows = s.windows := rfl

@[simp] lemma windows_refreshModeFromGroups : s.refreshModeFromGroups.windows = s.windows := by
  unfold refreshModeFromGroups; split_ifs <;> rfl

@[simp] lemma windows_syncScheduledGroup : (s.syncScheduledGroup g).windows = s.windows := by
  unfold syncScheduledGroup; split_ifs <;> rfl

@[simp] lemma windows_cancelGroup :
    (s.cancelGroup g).windows = s.windows.filter fun w => !decide (w.output.group = g) :=
  items_cancel _ _

@[simp] lemma windows_clearScheduledOwnership : s.clearScheduledOwnership.windows = [] := by
  rw [clearScheduledOwnership, windows_refreshModeFromGroups]
  exact items_empty

@[simp] lemma windows_clearLiveFrontierState (r : TimingIslandStopReason) :
    (s.clearLiveFrontierState r).windows = s.windows := rfl

@[simp] lemma windows_suspend : s.suspend.windows = [] := windows_clearScheduledOwnership s

@[simp] lemma windows_onSyncLoss : s.onSyncLoss.windows = [] := by simp [onSyncLoss]

@[simp] lemma windows_onHardSafetyShutdown : s.onHardSafetyShutdown.windows = [] := by
  simp [onHardSafetyShutdown]

@[simp] lemma windows_onSyncRecovered : s.onSyncRecovered.windows = s.windows := by
  unfold onSyncRecovered; split_ifs <;> rfl

@[simp] lemma windows_commitHorizon (i : TimingIslandHorizonSequenceId) (a b d : Micros)
    (m : SafetyPermitMask) : (s.commitHorizon i a b d m).1.windows = s.windows := by
  unfold commitHorizon; split_ifs <;> rfl

@[simp] lemma windows_noteHeartbeat : (s.noteHeartbeat now).windows = s.windows := by
  unfold noteHeartbeat; split_ifs <;> rfl

@[simp] lemma windows_expireHeartbeat : (s.expireHeartbeat now).1.windows = s.windows := by
  unfold expireHeartbeat
  split
  · rfl
  · split_ifs <;> rfl

@[simp] lemma windows_expireHorizon : (s.expireHorizon now).1.windows = s.windows := by
  unfold expireHorizon
  split
  · rfl
  · split_ifs <;> rfl

@[simp] lemma windows_expireFrontier :
    (s.expireFrontier now).windows = s.windows := by simp [expireFrontier]

lemma windows_noteDrainedTransition (t : ScheduledTransition) :
    (s.noteDrainedTransition t).windows =
      if t.level = .low then s.windows.eraseP (closedBy t) else s.windows := by
  unfold noteDrainedTransition
  by_cases hl : t.level = .low
  · by_cases hany : s.windows.any (closedBy t)
    · simp only [hl, hany, ne_eq, not_true, if_true, if_false, windows_refreshModeFromGroups,
        windows_refreshCounts, windows_syncScheduledGroup, windows_refreshReservedChannels]
      exact items_release _ _
    · simp only [hl, hany, ne_eq, not_true, if_true, if_false, Bool.false_eq_true]
      rw [List.eraseP_of_forall_not]
      intro w hw hc
      exact hany (List.any_eq_true.mpr ⟨w, hw, hc⟩)
  · simp [hl]

end windows

/-! ### The mode -/

section mode

variable (s : SchedulerState) (g : OutputGroup) (now : Micros)

@[simp] lemma mode_refreshModeFromGroups : s.refreshModeFromGroups.mode =
    if s.mode = .suspended then .suspended else if s.activeGroups = 0 then .idle else .armed := by
  unfold refreshModeFromGroups
  split_ifs <;> simp_all

@[simp] lemma mode_syncScheduledGroup : (s.syncScheduledGroup g).mode = s.mode := by
  unfold syncScheduledGroup; split_ifs <;> rfl

@[simp] lemma mode_clearScheduledOwnership : s.clearScheduledOwnership.mode =
    if s.mode = .suspended then .suspended else .idle := by
  simp [clearScheduledOwnership, refreshCounts]

@[simp] lemma mode_clearLiveFrontierState (r : TimingIslandStopReason) :
    (s.clearLiveFrontierState r).mode = s.mode := rfl

@[simp] lemma mode_suspend : s.suspend.mode = .suspended := rfl

@[simp] lemma mode_commitHorizon (i : TimingIslandHorizonSequenceId) (a b d : Micros)
    (m : SafetyPermitMask) : (s.commitHorizon i a b d m).1.mode = s.mode := by
  unfold commitHorizon; split_ifs <;> rfl

@[simp] lemma mode_noteHeartbeat : (s.noteHeartbeat now).mode = s.mode := by
  unfold noteHeartbeat; split_ifs <;> rfl

@[simp] lemma mode_expireHeartbeat : (s.expireHeartbeat now).1.mode = s.mode := by
  unfold expireHeartbeat
  split
  · rfl
  · split_ifs <;> rfl

@[simp] lemma mode_expireHorizon : (s.expireHorizon now).1.mode = s.mode := by
  unfold expireHorizon
  split
  · rfl
  · split_ifs <;> rfl

@[simp] lemma mode_expireFrontier : (s.expireFrontier now).mode = s.mode := by
  simp [expireFrontier]

lemma mode_noteDrainedTransition_suspended (t : ScheduledTransition) (h : s.mode = .suspended) :
    (s.noteDrainedTransition t).mode = .suspended := by
  unfold noteDrainedTransition
  split_ifs
  · exact h
  · simp [refreshCounts, refreshReservedChannels, h]
  · exact h

lemma mode_cancelGroup_suspended (h : s.mode = .suspended) :
    (s.cancelGroup g).mode = .suspended := by
  simp [cancelGroup, refreshCounts, h]

end mode

/-! ### The horizon is kept -/

/-- The part of the state that the frontier gate reads. -/
structure HorizonView where
  (lastAcceptedHorizonId activeHorizonId : Option TimingIslandHorizonSequenceId)
  (horizonEndUs heartbeatDeadlineUs : Option Micros)
  activePermitMask : SafetyPermitMask
  activeStopReason : TimingIslandStopReason
  deriving DecidableEq

def horizon : HorizonView where
  lastAcceptedHorizonId := s.lastAcceptedHorizonId
  activeHorizonId := s.activeHorizonId
  horizonEndUs := s.horizonEndUs
  heartbeatDeadlineUs := s.heartbeatDeadlineUs
  activePermitMask := s.activePermitMask
  activeStopReason := s.activeStopReason

section horizon

variable (s : SchedulerState)

@[simp] lemma horizon_refreshCounts : s.refreshCounts.horizon = s.horizon := rfl

@[simp] lemma horizon_refreshReservedChannels : s.refreshReservedChannels.horizon = s.horizon := rfl

@[simp] lemma horizon_refreshModeFromGroups : s.refreshModeFromGroups.horizon = s.horizon := by
  unfold refreshModeFromGroups; split_ifs <;> rfl

@[simp] lemma horizon_syncScheduledGroup (g : OutputGroup) :
    (s.syncScheduledGroup g).horizon = s.horizon := by
  unfold syncScheduledGroup; split_ifs <;> rfl

@[simp] lemma horizon_clearScheduledOwnership : s.clearScheduledOwnership.horizon = s.horizon := by
  rw [clearScheduledOwnership, horizon_refreshModeFromGroups]; rfl

@[simp] lemma horizon_noteDrainedTransition (t : ScheduledTransition) :
    (s.noteDrainedTransition t).horizon = s.horizon := by
  unfold noteDrainedTransition
  split_ifs
  · rfl
  · simp only [horizon_refreshModeFromGroups, horizon_refreshCounts, horizon_syncScheduledGroup,
      horizon_refreshReservedChannels]
    rfl
  · rfl

end horizon

end SchedulerState

/-! ### Reservations -/

/-- Two windows do not overlap on one output. They may touch. -/
def Apart (v w : ScheduledWindow) : Prop :=
  v.output = w.output → v.endAt ≤ w.startAt ∨ w.endAt ≤ v.startAt
  deriving Decidable

lemma Apart.symm {v w : ScheduledWindow} (h : Apart v w) : Apart w v := fun he => (h he.symm).symm

lemma windowsOverlap_eq_false {a b c d : Micros} :
    windowsOverlap a b c d = false ↔ d ≤ a ∨ b ≤ c := by
  simp only [windowsOverlap, Bool.and_eq_false_iff, decide_eq_false_iff_not, UInt32.not_lt]

/-- A window that can be owned at all: it is not empty and its channel has a bit. -/
def WellFormed (w : ScheduledWindow) : Prop := w.startAt < w.endAt ∧ w.output.channel < 128
  deriving Decidable

namespace SchedulerState

variable (s : SchedulerState) (table : Table ScheduledWindow maxScheduledWindows)

/-- The scheduler as it is after a window has been stored. -/
def stored (group : OutputGroup) : SchedulerState :=
  ((({ s with scheduledWindows := table } : SchedulerState).armGroup
    group).refreshReservedChannels).refreshCounts

@[simp] lemma windows_stored (group : OutputGroup) :
    (s.stored table group).windows = table.items := rfl

@[simp] lemma horizon_stored (group : OutputGroup) :
    (s.stored table group).horizon = s.horizon := rfl

/-- **A reservation either stores the window or changes nothing.** It is stored exactly when
the window is well formed, apart from every reserved window, and a slot is free. -/
theorem reserveWindow_cases (output : ExclusiveChannel) (startAt endAt : Micros) :
    (∃ table, s.scheduledWindows.put ⟨output, startAt, endAt⟩ = some table ∧
      WellFormed ⟨output, startAt, endAt⟩ ∧
      (∀ w ∈ s.windows, Apart ⟨output, startAt, endAt⟩ w) ∧
      s.reserveWindow output startAt endAt = (s.stored table output.group, .ok ())) ∨
    ((¬ WellFormed ⟨output, startAt, endAt⟩ ∨
        (∃ w ∈ s.windows, ¬ Apart ⟨output, startAt, endAt⟩ w) ∨
        s.windows.length = maxScheduledWindows) ∧
      ∃ e, s.reserveWindow output startAt endAt = (s, .error e)) := by
  unfold reserveWindow
  by_cases h1 : endAt ≤ startAt
  · right
    exact ⟨.inl fun h => absurd h.1 (UInt32.not_lt.mpr h1), _, by rw [if_pos h1]⟩
  rw [if_neg h1]
  by_cases h2 : output.channel ≥ channelBitWidth
  · right
    refine ⟨.inl fun h => absurd h.2 (UInt8.not_lt.mpr h2), .invalidChannel, ?_⟩
    simp [channelBit, h2]
  have hc : channelBit output.channel = .ok (1#128 <<< output.channel.toNat) := by
    rw [channelBit, if_neg h2]
  rw [hc]
  have hwf : WellFormed ⟨output, startAt, endAt⟩ := ⟨UInt32.not_le.mp h1, UInt8.not_le.mp h2⟩
  by_cases h3 : s.windows.any fun w =>
      w.output = output && windowsOverlap startAt endAt w.startAt w.endAt
  · right
    obtain ⟨w, hw, hov⟩ := List.any_eq_true.mp h3
    simp only [Bool.and_eq_true, decide_eq_true_eq] at hov
    refine ⟨.inr (.inl ⟨w, hw, fun ha => ?_⟩), .conflictingChannel, by simp only [if_pos h3]⟩
    have := windowsOverlap_eq_false.mpr (ha hov.1.symm).symm
    rw [hov.2] at this
    cases this
  · have hap : ∀ w ∈ s.windows, Apart ⟨output, startAt, endAt⟩ w := by
      intro w hw ho
      refine (windowsOverlap_eq_false.mp ?_).symm
      by_contra hov
      refine h3 (List.any_eq_true.mpr ⟨w, hw, ?_⟩)
      simp only [Bool.not_eq_false] at hov
      simp [← ho, hov]
    simp only [if_neg h3]
    rcases hput : s.scheduledWindows.put ⟨output, startAt, endAt⟩ with _ | table
    · right
      exact ⟨.inr (.inr ((put_none_iff _ _).mp hput)), .queueFull, rfl⟩
    · left
      exact ⟨table, rfl, hwf, hap, rfl⟩

end SchedulerState

end Pipoco.SchedState
