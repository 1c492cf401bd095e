import Pipoco.EngineStep

/-!
What a step emits.

A step either cancels, or waits, or arms. The five ways are spelled out once, without the fixed
capacity of the batch, and the batch of the source is shown to hold just those actions followed by
the housekeeping: at most sixteen windows are armed in a step and three actions follow, so nothing
is ever dropped.
-/

namespace Pipoco.Engine

open Domain SchedState Slots OutProfiles Lowering EngineRuntime FixedBatch

/-! ### One event -/

variable (nowUs : Micros) (s : SchedulerState)

namespace ArmRequest

def window : ArmRequest → ScheduledWindow
  | .injection p => ⟨p.plan.output, p.startAt, p.endAt⟩
  | .ignition p => ⟨p.plan.output, p.startAt, p.endAt⟩

def action : ArmRequest → Action
  | .injection p => .armInjection p
  | .ignition p => .armIgnition p

end ArmRequest

@[mk_iff]
structure Acceptable (nowUs : Micros) (s : SchedulerState) (w : ScheduledWindow) : Prop where
  running : s.mode ≠ .suspended
  future : nowUs < w.startAt
  wellFormed : WellFormed w
  apart : ∀ v ∈ s.windows, Apart w v
  room : s.windows.length < maxScheduledWindows

/-- Scheduling a window: it is stored if it is acceptable, and nothing changes otherwise. -/
lemma scheduleWindow_cases (w : ScheduledWindow) :
    (Acceptable nowUs s w ∧ ∃ table, s.scheduledWindows.put w = some table ∧
      s.scheduleWindow nowUs w.startAt w.endAt w.output = (s.stored table w.output.group, .ok ())) ∨
    (¬ Acceptable nowUs s w ∧
      ∃ e, s.scheduleWindow nowUs w.startAt w.endAt w.output = (s, .error e)) := by
  unfold SchedulerState.scheduleWindow SchedulerState.ensureSchedulable
  by_cases hm : s.mode = .suspended
  · exact .inr ⟨fun h => h.running hm, .suspended, by simp [hm]⟩
  simp only [hm, if_false]
  unfold SchedulerState.convertDeadline
  by_cases hnow : w.startAt ≤ nowUs
  · exact .inr ⟨fun h => absurd h.future (UInt32.not_lt.mpr hnow), .staleDeadline, by simp [hnow]⟩
  by_cases hlt : w.endAt < w.startAt
  · exact .inr ⟨fun h => UInt32.lt_asymm hlt h.wellFormed.1, .staleDeadline, by simp [hnow, hlt]⟩
  by_cases heq : w.endAt = w.startAt
  · refine .inr ⟨fun h => ?_, .impossibleDeadline, by simp [hnow, heq]⟩
    exact UInt32.lt_irrefl _ (heq ▸ h.wellFormed.1)
  simp only [hnow, hlt, heq, if_false]
  rcases s.reserveWindow_cases w.output w.startAt w.endAt with
    ⟨table, hput, hwf, hap, hres⟩ | ⟨hbad, e, hres⟩
  · refine .inl ⟨⟨hm, UInt32.not_le.mp hnow, hwf, hap, ?_⟩, table, hput, hres⟩
    refine lt_of_le_of_ne (items_length_le s.scheduledWindows) fun hfull => ?_
    rw [(put_none_iff _ _).mpr hfull] at hput
    cases hput
  · refine .inr ⟨fun h => ?_, e, hres⟩
    rcases hbad with hwf | ⟨v, hv, hap⟩ | hfull
    · exact hwf h.wellFormed
    · exact hap (h.apart v hv)
    · exact absurd h.room (by rw [hfull]; exact Nat.lt_irrefl _)

structure Armed (s : SchedulerState) (w : ScheduledWindow) (s' : SchedulerState) : Prop where
  mode : s'.mode = .armed
  groups : s'.activeGroups = s.activeGroups ||| w.output.group.mask
  windows : s'.windows.Perm (w :: s.windows)

def armOne : ArmRequest → SchedulerState × List Action
  | .injection p =>
    match s.scheduleInjection nowUs p.startAt p.endAt p.plan with
    | (s', .ok injection) => (s', [.armInjection injection])
    | (s', .error _) => (s', [])
  | .ignition p =>
    match s.scheduleIgnition nowUs p.startAt p.endAt p.plan with
    | (s', .ok ignition) => (s', [.armIgnition ignition])
    | (s', .error _) => (s', [])

/-- **One event.** An acceptable window is armed and reported; for any other nothing happens. -/
lemma armOne_cases (q : ArmRequest) :
    (Acceptable nowUs s q.window ∧ (armOne nowUs s q).2 = [q.action] ∧
      Armed s q.window (armOne nowUs s q).1) ∨
    (¬ Acceptable nowUs s q.window ∧ armOne nowUs s q = (s, [])) := by
  rcases scheduleWindow_cases nowUs s q.window with ⟨ha, table, hput, hres⟩ | ⟨hn, e, hres⟩
  · refine .inl ⟨ha, ?_⟩
    cases q with
    | injection p | ignition p =>
      change s.scheduleWindow nowUs p.startAt p.endAt p.plan.output = _ at hres
      simp only [armOne, SchedulerState.scheduleInjection, SchedulerState.scheduleIgnition, hres]
      exact ⟨rfl, rfl, rfl, items_put hput⟩
  · refine .inr ⟨hn, ?_⟩
    cases q with
    | injection p | ignition p =>
      change s.scheduleWindow nowUs p.startAt p.endAt p.plan.output = _ at hres
      simp only [armOne, SchedulerState.scheduleInjection, SchedulerState.scheduleIgnition, hres]

/-! ### All events -/

variable (qs : List ArmRequest)

/-- The events of a step one after another, with their actions in a list. -/
def armAll (nowUs : Micros) : SchedulerState → List ArmRequest → SchedulerState × List Action
  | s, [] => (s, [])
  | s, q :: qs =>
    let first := armOne nowUs s q
    let rest := armAll nowUs first.1 qs
    (rest.1, first.2 ++ rest.2)

/-- Whatever is armed was asked for, in the same order. -/
lemma armAll_sublist : (armAll nowUs s qs).2.Sublist (qs.map ArmRequest.action) := by
  induction qs generalizing s with
  | nil => exact List.Sublist.slnil
  | cons q qs ih =>
    rw [armAll, List.map_cons]
    rcases armOne_cases nowUs s q with ⟨-, hq, -⟩ | ⟨-, hq⟩
    · rw [hq]
      exact (ih _).cons_cons _
    · rw [hq]
      exact (ih _).cons _

section batch

variable {n : ℕ} (nowUs : Micros) {b : ActionBatch n} (s : SchedulerState) (q : ArmRequest)

lemma armEvent_eq (h : b.items.length < n) :
    (armEvent nowUs (s, b) q).1 = (armOne nowUs s q).1 ∧
      (armEvent nowUs (s, b) q).2.items = b.items ++ (armOne nowUs s q).2 := by
  cases q with
  | injection p =>
    simp only [armEvent, armOne]
    rcases s.scheduleInjection nowUs p.startAt p.endAt p.plan with ⟨s', e | injection⟩
    · exact ⟨rfl, (List.append_nil _).symm⟩
    · exact ⟨rfl, items_tryPush_of_lt _ h⟩
  | ignition p =>
    simp only [armEvent, armOne]
    rcases s.scheduleIgnition nowUs p.startAt p.endAt p.plan with ⟨s', e | ignition⟩
    · exact ⟨rfl, (List.append_nil _).symm⟩
    · exact ⟨rfl, items_tryPush_of_lt _ h⟩

lemma armOne_length_le : (armOne nowUs s q).2.length ≤ 1 := by
  rcases armOne_cases nowUs s q with ⟨-, hq, -⟩ | ⟨-, hq⟩ <;> simp [hq]

/-- With room for every event the batch of the source is the list. -/
lemma foldl_armEvent {qs : List ArmRequest} {s : SchedulerState}
    (h : b.items.length + qs.length ≤ n) :
    (qs.foldl (armEvent nowUs) (s, b)).1 = (armAll nowUs s qs).1 ∧
      (qs.foldl (armEvent nowUs) (s, b)).2.items = b.items ++ (armAll nowUs s qs).2 := by
  induction qs generalizing s b with
  | nil => exact ⟨rfl, (List.append_nil _).symm⟩
  | cons q qs ih =>
    rw [List.length_cons] at h
    obtain ⟨hs, hb⟩ := armEvent_eq nowUs s q (show b.items.length < n by omega)
    have hlen := armOne_length_le nowUs s q
    have hroom : (armEvent nowUs (s, b) q).2.items.length + qs.length ≤ n := by
      rw [hb, List.length_append]
      omega
    obtain ⟨ih₁, ih₂⟩ := ih (s := (armEvent nowUs (s, b) q).1) hroom
    rw [List.foldl_cons, armAll]
    rw [hs] at ih₁ ih₂
    rw [hb, List.append_assoc] at ih₂
    have hpair : armEvent nowUs (s, b) q = ((armOne nowUs s q).1, (armEvent nowUs (s, b) q).2) :=
      Prod.ext hs rfl
    rw [hpair]
    exact ⟨ih₁, ih₂⟩

end batch

/-! ### The outputs of a step -/

variable (control : ControlPlan)

/-- The events of a profile, and an idle action if none could be armed. -/
def eventActions : List Action :=
  if (armAll nowUs s qs).2 = [] then [.idle] else (armAll nowUs s qs).2

lemma armEvents_eq {n : ℕ} {qs : List ArmRequest} (h : qs.length < n) :
    (armEvents (n := n) nowUs s qs).1 = (armAll nowUs s qs).1 ∧
      (armEvents (n := n) nowUs s qs).2.items = eventActions nowUs s qs := by
  have hroom : (new : ActionBatch n).items.length + qs.length ≤ n := by
    show 0 + qs.length ≤ n
    omega
  obtain ⟨hs, hb⟩ := foldl_armEvent nowUs (s := s) hroom
  have hb' : (qs.foldl (armEvent nowUs) (s, (new : ActionBatch n))).2.items =
      (armAll nowUs s qs).2 := hb
  unfold armEvents eventActions
  simp only [hb', List.isEmpty_iff]
  split_ifs with hempty
  · refine ⟨hs, ?_⟩
    rw [items_tryPush_of_lt _ (by rw [hb', hempty]; simp; omega), hb', hempty]
    rfl
  · exact ⟨hs, hb'⟩

lemma plannedEvents_length_le (r : EngineRuntime) (nowUs : Micros) (control : ControlPlan) :
    (r.plannedEvents nowUs control).length ≤ maxScheduledWindows := by
  have hmax : fullEcuMaxCylinders ≤ maxScheduledWindows := by decide
  unfold plannedEvents
  split
  · exact Nat.zero_le _
  · split_ifs
    · exact Nat.zero_le _
    · rename_i profile _ _
      simpa [SparkOutputProfile.eventsPerCrankRev] using (clampCount_le _).trans hmax
  · split_ifs
    · exact Nat.zero_le _
    · rename_i profile _ _
      simpa using profile.eventsPerPulse_le.trans hmax
  · rename_i profile _
    split_ifs
    all_goals simp only [List.length_nil, Nat.zero_le]
    all_goals
      have hcount := profile.eventCount_le
      simp [List.length_flatMap, maxScheduledWindows, fullEcuMaxCylinders] at hcount ⊢
      try omega

def legacyInjectionEvent : ArmRequest := .injection (legacyInjection nowUs control)

def legacyIgnitionEvent : ArmRequest := .ignition (legacyIgnition nowUs control)

/-- What became of one group of the legacy profile: its window was armed, or refused, or the group
was cancelled. -/
inductive LegacyGroup (nowUs : Micros) (s : SchedulerState) (allow : Bool) (q : ArmRequest) :
    SchedulerState → Bool → Prop
  | armed {s' : SchedulerState} (hallow : allow) (ha : Acceptable nowUs s q.window)
      (h : Armed s q.window s') : LegacyGroup nowUs s allow q s' true
  | refused (hallow : allow) (hn : ¬ Acceptable nowUs s q.window) :
      LegacyGroup nowUs s allow q s false
  | cancelled (hallow : allow = false) :
      LegacyGroup nowUs s allow q (s.cancelGroup q.window.output.group) false

lemma legacyArmInjection_group (nowUs : Micros) (control : ControlPlan) :
    ∃ armed, LegacyGroup nowUs s (allowInjection control)
        (legacyInjectionEvent nowUs control)
        (legacyArmInjection s nowUs control).1 armed ∧
      (legacyArmInjection s nowUs control).2 =
        if armed then some (legacyInjection nowUs control) else none := by
  cases hallow : allowInjection control with
  | false =>
    rw [legacyArmInjection, hallow]
    exact ⟨false, .cancelled rfl, rfl⟩
  | true =>
    simp only [legacyArmInjection, hallow, if_true, SchedulerState.scheduleInjection]
    rcases scheduleWindow_cases nowUs s (legacyInjectionEvent nowUs control).window with
      ⟨ha, table, hput, hres⟩ | ⟨hn, e, hres⟩
    all_goals
      simp only [legacyInjectionEvent, ArmRequest.window] at hres
      rw [hres]
    · exact ⟨true, .armed rfl ha ⟨rfl, rfl, items_put hput⟩, rfl⟩
    · exact ⟨false, .refused rfl hn, rfl⟩

lemma legacyArmIgnition_group (nowUs : Micros) (control : ControlPlan) :
    ∃ armed, LegacyGroup nowUs s (allowIgnition control)
        (legacyIgnitionEvent nowUs control)
        (legacyArmIgnition s nowUs control).1 armed ∧
      (legacyArmIgnition s nowUs control).2 =
        if armed then some (legacyIgnition nowUs control) else none := by
  cases hallow : allowIgnition control with
  | false =>
    rw [legacyArmIgnition, hallow]
    exact ⟨false, .cancelled rfl, rfl⟩
  | true =>
    simp only [legacyArmIgnition, hallow, if_true, SchedulerState.scheduleIgnition]
    rcases scheduleWindow_cases nowUs s (legacyIgnitionEvent nowUs control).window with
      ⟨ha, table, hput, hres⟩ | ⟨hn, e, hres⟩
    all_goals
      simp only [legacyIgnitionEvent, ArmRequest.window] at hres
      rw [hres]
    · exact ⟨true, .armed rfl ha ⟨rfl, rfl, items_put hput⟩, rfl⟩
    · exact ⟨false, .refused rfl hn, rfl⟩

/-! ### Emitting -/

namespace EngineRuntime

/-- The outputs may run: no shutdown, locked, and with the authority the profile needs. -/
@[mk_iff]
structure Ready (r : EngineRuntime) : Prop where
  running : r.inShutdown = false
  locked : isLocked r.engine.sync
  authorized : r.lacksAuthority = false

/-- The position is lost, or not good enough for the profile. -/
def Lost (r : EngineRuntime) : Prop := r.engine.sync = .unsynced ∨ r.lacksAuthority

lemma Ready.not_lost {r : EngineRuntime} (h : r.Ready) : ¬ r.Lost := by
  rintro (hsync | hlacks)
  · have hlocked := h.locked
    rw [hsync] at hlocked
    cases hlocked
  · rw [h.authorized] at hlacks
    cases hlacks

/-- The ways a step can put out: the scheduler afterwards and the actions, before the
housekeeping. -/
inductive Emits (r : EngineRuntime) (nowUs : Micros) (control : ControlPlan) :
    SchedulerState → List Action → Prop
  | shutdown (h : r.inShutdown) :
      Emits r nowUs control r.scheduler.onHardSafetyShutdown [.cancelScheduler .safetyShutdown]
  | syncLoss (h : r.inShutdown = false) (hlost : r.Lost) (harmed : r.scheduler.isArmed) :
      Emits r nowUs control r.scheduler.onSyncLoss [.cancelScheduler .syncLoss]
  | waiting (h : r.inShutdown = false) (hnot : isLocked r.engine.sync = false ∨ r.lacksAuthority)
      (hidle : r.Lost → r.scheduler.isArmed = false) :
      Emits r nowUs control r.scheduler [.idle]
  | legacy {s s' : SchedulerState} {injection ignition : Bool} (h : r.Ready)
      (hp : r.outputProfile = .legacySingleChannel)
      (hinj : LegacyGroup nowUs r.scheduler.onSyncRecovered (allowInjection control)
        (legacyInjectionEvent nowUs control) s injection)
      (hign : LegacyGroup nowUs s (allowIgnition control)
        (legacyIgnitionEvent nowUs control) s' ignition) :
      Emits r nowUs control s'
        [legacyAction (if injection then some (legacyInjection nowUs control) else none)
          (if ignition then some (legacyIgnition nowUs control) else none)]
  | events (h : r.Ready) (hp : r.outputProfile ≠ .legacySingleChannel) :
      Emits r nowUs control
        (armAll nowUs r.scheduler.onSyncRecovered (r.plannedEvents nowUs control)).1
        (eventActions nowUs r.scheduler.onSyncRecovered (r.plannedEvents nowUs control))

variable {n : ℕ} {r : EngineRuntime} {nowUs : Micros} {control : ControlPlan}
  {outputs : List Action}

/-- **A runtime that is ready** arms its outputs: both groups of the legacy profile, or the planned
events of another. -/
lemma Emits.of_ready {s' : SchedulerState} (h : Emits r nowUs control s' outputs) (hready : r.Ready) :
    (∃ s injection ignition, r.outputProfile = .legacySingleChannel ∧
      LegacyGroup nowUs r.scheduler.onSyncRecovered (allowInjection control)
        (legacyInjectionEvent nowUs control) s injection ∧
      LegacyGroup nowUs s (allowIgnition control) (legacyIgnitionEvent nowUs control) s' ignition ∧
      outputs = [legacyAction (if injection then some (legacyInjection nowUs control) else none)
        (if ignition then some (legacyIgnition nowUs control) else none)]) ∨
    (r.outputProfile ≠ .legacySingleChannel ∧
      s' = (armAll nowUs r.scheduler.onSyncRecovered (r.plannedEvents nowUs control)).1 ∧
      outputs = eventActions nowUs r.scheduler.onSyncRecovered (r.plannedEvents nowUs control)) := by
  cases h with
  | shutdown hshut => exact absurd (hshut.symm.trans hready.running) Bool.true_eq_false.mp
  | syncLoss _ hlost => exact absurd hlost hready.not_lost
  | waiting _ hnot =>
    rcases hnot with hnot | hnot
    · exact absurd (hready.locked.symm.trans hnot) Bool.true_eq_false.mp
    · exact absurd (hnot.symm.trans hready.authorized) Bool.true_eq_false.mp
  | legacy _ hp hinj hign => exact .inl ⟨_, _, _, hp, hinj, hign, rfl⟩
  | events _ hp => exact .inr ⟨hp, rfl, rfl⟩

lemma emits_armOutputs (hn : maxScheduledWindows < n) (hready : r.Ready) :
    Emits r nowUs control (r.armOutputs (n := n) nowUs control r.scheduler.onSyncRecovered).1
      (r.armOutputs (n := n) nowUs control r.scheduler.onSyncRecovered).2.items := by
  unfold armOutputs
  split
  · rename_i hp
    obtain ⟨injection, hinj, hinj'⟩ :=
      legacyArmInjection_group r.scheduler.onSyncRecovered nowUs control
    obtain ⟨ignition, hign, hign'⟩ := legacyArmIgnition_group
      (legacyArmInjection r.scheduler.onSyncRecovered nowUs control).1 nowUs control
    rw [items_tryPush_of_lt _ (Nat.lt_of_le_of_lt (Nat.zero_le _) hn), hinj', hign']
    exact .legacy hready hp hinj hign
  · rename_i hp
    have hlen := Nat.lt_of_le_of_lt (plannedEvents_length_le r nowUs control) hn
    obtain ⟨hs, hb⟩ := armEvents_eq (n := n) nowUs r.scheduler.onSyncRecovered hlen
    rw [hs, hb]
    exact .events hready hp

variable (r) in
/-- **Outputs.** With room for more actions than there are windows, emitting is one of the five
ways. -/
lemma emits_emitOutputs (nowUs : Micros) (control : ControlPlan) (hn : maxScheduledWindows < n) :
    Emits r nowUs control (r.emitOutputs (n := n) nowUs control).1
      (r.emitOutputs (n := n) nowUs control).2.items := by
  have hone : ∀ a : Action, ((FixedBatch.new : ActionBatch n).tryPush a).items = [a] := fun a =>
    items_tryPush_of_lt a (Nat.lt_of_le_of_lt (Nat.zero_le _) hn)
  unfold emitOutputs
  split_ifs with hshut hloss hauth harmed hlocked
  · rw [hone]
    exact .shutdown hshut
  · simp only [Bool.and_eq_true, decide_eq_true_eq] at hloss
    rw [hone]
    exact .syncLoss (Bool.eq_false_iff.mpr hshut) (.inl hloss.1) hloss.2
  · rw [hone]
    exact .syncLoss (Bool.eq_false_iff.mpr hshut) (.inr hauth) harmed
  · rw [hone]
    exact .waiting (Bool.eq_false_iff.mpr hshut) (.inr hauth) fun _ => Bool.eq_false_iff.mpr harmed
  · exact emits_armOutputs hn ⟨Bool.eq_false_iff.mpr hshut, hlocked, Bool.eq_false_iff.mpr hauth⟩
  · rw [hone]
    refine .waiting (Bool.eq_false_iff.mpr hshut) (.inl (Bool.eq_false_iff.mpr hlocked)) ?_
    rintro (hsync | hlacks)
    · simpa [hsync] using hloss
    · exact absurd hlacks hauth

lemma Emits.length_le {s : SchedulerState} (h : Emits r nowUs control s outputs) :
    outputs.length ≤ maxScheduledWindows := by
  have hone : 1 ≤ maxScheduledWindows := by decide
  cases h with
  | events h hp =>
    unfold eventActions
    split_ifs
    · exact hone
    · calc (armAll nowUs r.scheduler.onSyncRecovered (r.plannedEvents nowUs control)).2.length
          ≤ ((r.plannedEvents nowUs control).map ArmRequest.action).length :=
            (armAll_sublist ..).length_le
        _ ≤ maxScheduledWindows := by
            rw [List.length_map]
            exact plannedEvents_length_le r nowUs control
  | _ => exact hone

lemma mem_housekeeping {a : Action} (h : a ∈ r.housekeeping) :
    a = .applyAux r.limpHomeAuxCommands ∨ a = .persistCalibration ∨ a = .publishSnapshot := by
  simp only [housekeeping, List.mem_append, List.mem_singleton] at h
  rcases h with (h | h) | rfl
  · split_ifs at h
    · exact .inl (List.mem_singleton.mp h)
    · cases h
  · split_ifs at h
    · exact .inr (.inl (List.mem_singleton.mp h))
    · cases h
  · exact .inr (.inr rfl)

variable (r)

lemma housekeeping_length_le : r.housekeeping.length ≤ 3 := by
  unfold housekeeping
  split_ifs <;> simp

/-- **Emitting.** The batch holds the outputs and then the housekeeping, and has room left. -/
lemma emits_emitActions (nowUs : Micros) (control : ControlPlan) (hn : runtimeActionCap ≤ n) :
    ∃ outputs, Emits r nowUs control (r.emitActions (n := n) nowUs control).1 outputs ∧
      (r.emitActions (n := n) nowUs control).2.items = outputs ++ r.housekeeping ∧
      (outputs ++ r.housekeeping).length < runtimeActionCap := by
  have hwin : maxScheduledWindows + 3 < runtimeActionCap := by decide
  have hemits := emits_emitOutputs (n := n) r nowUs control (by omega)
  have hlen := hemits.length_le
  have hkeep := r.housekeeping_length_le
  refine ⟨_, hemits, items_foldl_tryPush (by omega), ?_⟩
  rw [List.length_append]
  omega

variable {r}

end EngineRuntime

end Pipoco.Engine
