import Pipoco.EngineCancel

/-!
How long the runtime keeps arming.

Every event of a step takes a place in the runtime's own table of sixteen windows. A step never
releases the windows that have passed, so in steady running the table fills: a step arms all its
events exactly if there is still a place for each of them and the planned windows are admissible
among themselves, and no run of seventeen steps does it throughout.
-/

namespace Pipoco.Engine

open Domain SchedState OutProfiles Lowering Runs Slots ArmRequest

/-! ### A list of windows -/

/-- The windows can be reserved one after another. -/
structure Reservable (nowUs : Micros) (s : SchedulerState) (ws : List ScheduledWindow) : Prop where
  future : ∀ w ∈ ws, nowUs < w.startAt
  wellFormed : ∀ w ∈ ws, WellFormed w
  apart : ∀ w ∈ ws, ∀ v ∈ s.windows, Apart w v
  pairwise : ws.Pairwise Apart
  room : s.windows.length + ws.length ≤ maxScheduledWindows

lemma reservable_nil (nowUs : Micros) (s : SchedulerState) : Reservable nowUs s [] where
  future := fun _ h => nomatch h
  wellFormed := fun _ h => nomatch h
  apart := fun _ h => nomatch h
  pairwise := List.Pairwise.nil
  room := items_length_le s.scheduledWindows

variable {nowUs : Micros} {s s' : SchedulerState} {w : ScheduledWindow} {ws : List ScheduledWindow}

lemma Reservable.head (hmode : s.mode ≠ .suspended) (h : Reservable nowUs s (w :: ws)) :
    Acceptable nowUs s w where
  running := hmode
  future := h.future w (.head _)
  wellFormed := h.wellFormed w (.head _)
  apart := h.apart w (.head _)
  room := by
    have := h.room
    rw [List.length_cons] at this
    omega

lemma Reservable.tail (harmed : Armed s w s') (h : Reservable nowUs s (w :: ws)) :
    Reservable nowUs s' ws where
  future := fun v hv => h.future v (.tail _ hv)
  wellFormed := fun v hv => h.wellFormed v (.tail _ hv)
  apart := by
    intro v hv u hu
    rcases List.mem_cons.mp (harmed.windows.mem_iff.mp hu) with rfl | hu
    · exact ((List.pairwise_cons.mp h.pairwise).1 v hv).symm
    · exact h.apart v (.tail _ hv) u hu
  pairwise := (List.pairwise_cons.mp h.pairwise).2
  room := by
    have hlen := harmed.windows.length_eq
    have := h.room
    rw [List.length_cons] at this hlen
    omega

lemma Reservable.cons (harmed : Armed s w s') (ha : Acceptable nowUs s w)
    (h : Reservable nowUs s' ws) : Reservable nowUs s (w :: ws) where
  future := List.forall_mem_cons.mpr ⟨ha.future, h.future⟩
  wellFormed := List.forall_mem_cons.mpr ⟨ha.wellFormed, h.wellFormed⟩
  apart := by
    refine List.forall_mem_cons.mpr ⟨ha.apart, fun v hv u hu => ?_⟩
    exact h.apart v hv u (harmed.windows.mem_iff.mpr (.tail _ hu))
  pairwise := by
    refine List.pairwise_cons.mpr ⟨fun v hv => ?_, h.pairwise⟩
    exact (h.apart v hv w (harmed.windows.mem_iff.mpr (.head _))).symm
  room := by
    have hlen := harmed.windows.length_eq
    have := h.room
    rw [List.length_cons] at hlen ⊢
    omega

lemma reservable_cons_iff (hmode : s.mode ≠ .suspended) (harmed : Armed s w s') :
    Reservable nowUs s (w :: ws) ↔ Acceptable nowUs s w ∧ Reservable nowUs s' ws :=
  ⟨fun h => ⟨h.head hmode, h.tail harmed⟩, fun h => h.2.cons harmed h.1⟩

lemma Armed.mode_ne (h : Armed s w s') : s'.mode ≠ .suspended := by
  rw [h.mode]
  decide

/-! ### All events of a step -/

variable {qs : List ArmRequest} {s₁ : SchedulerState}

/-- The events are all armed exactly if their windows can be reserved one after another. -/
lemma armAll_eq_iff (hmode : s.mode ≠ .suspended) :
    (armAll nowUs s qs).2 = qs.map action ↔ Reservable nowUs s (qs.map window) := by
  induction qs generalizing s with
  | nil => exact iff_of_true rfl (reservable_nil nowUs s)
  | cons q qs ih =>
    rw [armAll, List.map_cons, List.map_cons]
    rcases armOne_cases nowUs s q with ⟨ha, hq, harmed⟩ | ⟨hn, hq⟩
    · rw [hq, List.singleton_append, List.cons.injEq, reservable_cons_iff hmode harmed,
        ← ih harmed.mode_ne]
      simp only [true_and, ha]
    · -- a refused event leaves too few actions
      refine iff_of_false (fun heq => ?_) fun h => hn (h.head hmode)
      have hlen := congrArg List.length heq
      have hle := (armAll_sublist nowUs s qs).length_le
      simp only [hq, List.nil_append, List.length_cons, List.length_map] at hlen hle
      omega

lemma length_windows_armAll (hmode : s.mode ≠ .suspended)
    (h : Reservable nowUs s (qs.map window)) :
    (armAll nowUs s qs).1.windows.length = s.windows.length + qs.length := by
  induction qs generalizing s with
  | nil => rfl
  | cons q qs ih =>
    rw [armAll, List.length_cons]
    rcases armOne_cases nowUs s q with ⟨ha, hq, harmed⟩ | ⟨hn, hq⟩
    · have hlen := harmed.windows.length_eq
      rw [List.length_cons] at hlen
      rw [ih harmed.mode_ne (h.tail harmed)]
      omega
    · exact absurd (h.head hmode) hn

/-- Both groups of the legacy profile are armed exactly if their windows can be reserved. -/
lemma legacy_armed_iff {q₁ q₂ : ArmRequest} {injection ignition : Bool}
    (hmode : s.mode ≠ .suspended) (hinj : LegacyGroup nowUs s true q₁ s₁ injection)
    (hign : LegacyGroup nowUs s₁ true q₂ s' ignition) :
    (injection ∧ ignition) ↔ Reservable nowUs s [q₁.window, q₂.window] := by
  cases hinj with
  | armed _ ha h =>
    rw [reservable_cons_iff hmode h]
    cases hign with
    | armed _ ha' h' =>
      rw [reservable_cons_iff h.mode_ne h']
      exact iff_of_true ⟨rfl, rfl⟩ ⟨ha, ha', reservable_nil nowUs s'⟩
    | refused _ hn => exact iff_of_false (fun h => nomatch h.2) fun hr => hn (hr.2.head h.mode_ne)
    | cancelled hallow => cases hallow
  | refused _ hn => exact iff_of_false (fun h => nomatch h.1) fun hr => hn (hr.head hmode)
  | cancelled hallow => cases hallow

lemma length_windows_legacy {q₁ q₂ : ArmRequest} {allow₁ allow₂ : Bool}
    (hinj : LegacyGroup nowUs s allow₁ q₁ s₁ true) (hign : LegacyGroup nowUs s₁ allow₂ q₂ s' true) :
    s'.windows.length = s.windows.length + 2 := by
  cases hinj with
  | armed _ _ h =>
    cases hign with
    | armed _ _ h' =>
      have hlen := h.windows.length_eq
      have hlen' := h'.windows.length_eq
      rw [List.length_cons] at hlen hlen'
      omega

/-! ### Steady running -/

namespace EngineRuntime

variable (r : EngineRuntime) (op : RuntimeOp)

/-- The events of a step in which nothing is cut. -/
def events (nowUs : Micros) (control : ControlPlan) : List ArmRequest :=
  match r.outputProfile with
  | .legacySingleChannel => [legacyInjectionEvent nowUs control, legacyIgnitionEvent nowUs control]
  | _ => r.plannedEvents nowUs control

/-- The arm actions for all of them; the legacy profile has a single one. -/
def armActions (nowUs : Micros) (control : ControlPlan) : List Action :=
  match r.outputProfile with
  | .legacySingleChannel =>
    [.armScheduler (legacyInjection nowUs control) (legacyIgnition nowUs control)]
  | _ => (r.plannedEvents nowUs control).map action

/-- The outputs run, nothing is cut, there is something to put out, and every window in the table
has ended. -/
def SteadyAt (nowUs : Micros) (control : ControlPlan) : Prop :=
  r.Ready ∧ 0 < r.engine.rpm ∧ control.fuelCut = false ∧ control.sparkCut = false ∧
    0 < control.enrichedFuel ∧ 0 < control.ignition.dwellUs ∧
    ∀ w ∈ r.scheduler.windows, w.endAt < nowUs

def Steady : Prop := ∃ e ∈ r.emission op, e.1.SteadyAt e.2.1 e.2.2

def EmitsAll : Prop :=
  ∀ out ∈ r.apply op, ∀ result ∈ out.2, ∀ e ∈ r.emission op,
    result.actions.items.filter arms = e.1.armActions e.2.1 e.2.2
  deriving Decidable

/-- The windows are admissible among themselves, and there is a place for each in the table. -/
def FitsAt (nowUs : Micros) (ws : List ScheduledWindow) : Prop :=
  (∀ w ∈ ws, nowUs < w.startAt ∧ WellFormed w) ∧ ws.Pairwise Apart ∧
    r.scheduler.windows.length + ws.length ≤ maxScheduledWindows

def Fits : Prop := ∀ e ∈ r.emission op, e.1.FitsAt e.2.1 ((e.1.events e.2.1 e.2.2).map window)

instance : Decidable (r.Steady op) :=
  inferInstanceAs (Decidable (∃ e ∈ r.emission op, _ ∧ _ ∧ _ ∧ _ ∧ _ ∧ _ ∧ ∀ w ∈ _, _))

instance : Decidable (r.Fits op) :=
  inferInstanceAs (Decidable (∀ e ∈ r.emission op, (∀ w ∈ _, _) ∧ List.Pairwise _ _ ∧ _))

variable {r : EngineRuntime} {control : ControlPlan} {outputs : List Action} {op}
  {e : EngineRuntime × Micros × ControlPlan}

/-- A window that has ended is in the way of none that is still to come. -/
lemma reservable_iff (hs : s.windows = r.scheduler.windows)
    (hpast : ∀ w ∈ r.scheduler.windows, w.endAt < nowUs) :
    Reservable nowUs s ws ↔ r.FitsAt nowUs ws := by
  constructor
  · intro h
    exact ⟨fun w hw => ⟨h.future w hw, h.wellFormed w hw⟩, h.pairwise, hs ▸ h.room⟩
  · rintro ⟨hadm, hpair, hroom⟩
    refine ⟨fun w hw => (hadm w hw).1, fun w hw => (hadm w hw).2, ?_, hpair, hs ▸ hroom⟩
    intro w hw v hv _
    rw [hs] at hv
    exact .inr (UInt32.le_of_lt (UInt32.lt_trans (hpast v hv) (hadm w hw).1))

variable (s)

lemma mode_onSyncRecovered : s.onSyncRecovered.mode ≠ .suspended := by
  unfold SchedulerState.onSyncRecovered
  split_ifs with hmode
  · exact fun h => nomatch h
  · exact hmode

variable (nowUs)

lemma events_of_ne (control : ControlPlan) (hp : r.outputProfile ≠ .legacySingleChannel) :
    r.events nowUs control = r.plannedEvents nowUs control ∧
      r.armActions nowUs control = (r.plannedEvents nowUs control).map action := by
  unfold EngineRuntime.events armActions
  split
  · rename_i hp'
    exact absurd hp' hp
  · exact ⟨rfl, rfl⟩

lemma filter_arms_eventActions (qs : List ArmRequest) :
    (eventActions nowUs s qs).filter arms = (armAll nowUs s qs).2 := by
  unfold eventActions
  split_ifs with hempty
  · rw [hempty]
    rfl
  · refine List.filter_eq_self.mpr fun a ha => ?_
    obtain ⟨q, -, rfl⟩ := List.mem_map.mp ((armAll_sublist nowUs s qs).mem ha)
    cases q <;> rfl

variable {nowUs s}

/-- **One emission in steady running.** All arm actions are emitted exactly if the windows fit, and
then each of them takes a place. -/
lemma Emits.all_iff (h : Emits r nowUs control s' outputs) (hst : r.SteadyAt nowUs control) :
    (outputs.filter arms = r.armActions nowUs control ↔
        r.FitsAt nowUs ((r.events nowUs control).map window)) ∧
      (outputs.filter arms = r.armActions nowUs control →
        s'.windows.length = r.scheduler.windows.length + (r.events nowUs control).length) := by
  obtain ⟨hready, hrpm, hfuel, hspark, hpulse, hdwell, hpast⟩ := hst
  have hmode := mode_onSyncRecovered r.scheduler
  have hwin := r.scheduler.windows_onSyncRecovered
  rcases h.of_ready hready with ⟨s, injection, ignition, hp, hinj, hign, rfl⟩ | ⟨hp, rfl, rfl⟩
  · rw [allowInjection_iff.mpr ⟨hfuel, hpulse⟩] at hinj
    rw [allowIgnition_iff.mpr ⟨hspark, hdwell⟩] at hign
    have hboth : [legacyAction (if injection then some (legacyInjection nowUs control) else none)
        (if ignition then some (legacyIgnition nowUs control) else none)].filter arms =
          r.armActions nowUs control ↔ injection ∧ ignition := by
      rw [armActions, hp]
      cases injection <;> cases ignition <;>
        simp [legacyAction, arms, armsInjection, armsIgnition]
    rw [hboth, ← reservable_iff hwin hpast, EngineRuntime.events, hp]
    refine ⟨legacy_armed_iff hmode hinj hign, ?_⟩
    rintro ⟨rfl, rfl⟩
    rw [length_windows_legacy hinj hign, hwin]
    rfl
  · obtain ⟨hev, hact⟩ := events_of_ne nowUs control hp
    rw [filter_arms_eventActions, hact, hev, ← reservable_iff hwin hpast]
    refine ⟨armAll_eq_iff hmode, fun h => ?_⟩
    rw [length_windows_armAll hmode ((armAll_eq_iff hmode).mp h), hwin]

lemma apply_of_emission (h : r.emission op = some e) :
    ∃ r' result, r.apply op = some (r', some result) := by
  obtain ⟨⟨start, frame, inputs⟩, hframe, hmap⟩ := Option.bind_eq_some_iff.mp h
  obtain ⟨⟨composed, plan⟩, hplan, -⟩ := Option.map_eq_some_iff.mp hmap
  rw [apply_eq, hframe]
  simp only [stepWithValidated, hplan, Option.map_some]
  exact ⟨_, _, rfl⟩

/-- **One step in steady running.** It emits all arm actions exactly if its windows fit, and then
each of its events takes a place in the table. -/
lemma emitsAll_iff (hst : r.Steady op) :
    (r.EmitsAll op ↔ r.Fits op) ∧
      (r.EmitsAll op → ∀ e ∈ r.emission op, (r.advance op).scheduler.windows.length =
        r.scheduler.windows.length + (e.1.events e.2.1 e.2.2).length) := by
  obtain ⟨e, he, hsteady⟩ := hst
  obtain ⟨r', result, happ⟩ := apply_of_emission he
  obtain ⟨taken, nowUs, outputs, hs⟩ := apply_stepped happ
  cases he.symm.trans hs.emission
  obtain ⟨hiff, hgrow⟩ := hs.emits.all_iff hsteady
  have hfilter : result.actions.items.filter arms = outputs.filter arms := by
    have hno : taken.housekeeping.filter arms = [] :=
      List.filter_eq_nil_iff.mpr fun a ha => by
        rw [arms_housekeeping ha]
        exact Bool.false_ne_true
    rw [hs.items, List.filter_append, hno, List.append_nil]
  have hall : r.EmitsAll op ↔ outputs.filter arms = taken.armActions nowUs result.control := by
    simp only [EmitsAll, happ, hs.emission, Option.mem_def, Option.some.injEq, forall_eq', hfilter]
  have hfits : r.Fits op ↔ taken.FitsAt nowUs
      ((taken.events nowUs result.control).map window) := by
    simp only [Fits, hs.emission, Option.mem_def, Option.some.injEq, forall_eq']
  have hadv : r.advance op = r' := by simp only [advance, happ]
  refine ⟨by rw [hall, hfits, hiff], fun h e' he' => ?_⟩
  cases he.symm.trans he'
  rw [hadv, hgrow (hall.mp h), hs.scheduler]

/-- **How long arming goes on.** In a run of steps in steady running every step emits the arm
actions for all its events exactly if at every step there is a place in the table for each of its
windows, and they are admissible among themselves. -/
theorem arming_iff_fits (r : EngineRuntime) {ops : List RuntimeOp}
    (hst : Along advance Steady r ops) :
    Along advance EmitsAll r ops ↔ Along advance Fits r ops :=
  along_iff_of_inv (I := fun _ => True) (L := Steady) (fun _ _ _ hst => (emitsAll_iff hst).1)
    (fun _ _ _ _ _ => trivial) trivial hst

/-- Two steps of the legacy profile take four of the sixteen places. -/
theorem arming_iff_fits_two :
    Along advance Steady flatRuntime [steadyStep 1000 true, steadyStep 11000 true] ∧
      (Along advance EmitsAll flatRuntime [steadyStep 1000 true, steadyStep 11000 true] ↔
        Along advance Fits flatRuntime [steadyStep 1000 true, steadyStep 11000 true]) ∧
      Along advance Fits flatRuntime [steadyStep 1000 true, steadyStep 11000 true] :=
  ⟨by decide +kernel, arming_iff_fits flatRuntime (by decide +kernel), by decide +kernel⟩

/-- A step every ten milliseconds. -/
def steadyRun (n : ℕ) : List RuntimeOp :=
  (List.range n).map fun k => steadyStep (UInt32.ofNat (1000 + 10000 * k)) true

/-- The legacy profile stops at its ninth step. -/
theorem ninth_step_arms_nothing :
    Along advance Steady flatRuntime (steadyRun 9) ∧
      ¬ Along advance EmitsAll flatRuntime (steadyRun 9) := by
  decide +kernel

/-! ### No run goes on -/

/-- The profile has events: an invalid full profile is the only one without. -/
def HasEvents (r : EngineRuntime) : Prop :=
  ∀ profile, r.outputProfile = .fullEcu profile → 0 < profile.eventCount

lemma events_length_pos (hev : r.HasEvents) (hst : r.SteadyAt nowUs control) :
    0 < (r.events nowUs control).length := by
  obtain ⟨-, hrpm, hfuel, hspark, hpulse, hdwell, -⟩ := hst
  have hrpm' : r.engine.rpm ≠ 0 := (UInt16.pos_iff_ne_zero).mp hrpm
  have hpulse' : control.enrichedFuel ≠ 0 := (UInt16.pos_iff_ne_zero).mp hpulse
  by_cases hlegacy : r.outputProfile = .legacySingleChannel
  · rw [EngineRuntime.events, hlegacy]
    exact Nat.zero_lt_two
  rw [(events_of_ne nowUs control hlegacy).1]
  unfold plannedEvents
  split
  · rename_i hp
    exact absurd hp hlegacy
  · rename_i profile hp
    simpa [hrpm', hspark, SparkOutputProfile.eventsPerCrankRev] using clampCount_pos _
  · rename_i profile hp
    simpa [hrpm', hfuel, hpulse'] using profile.eventsPerPulse_pos
  · rename_i profile hp
    have hcount := hev profile hp
    have hinj := allowInjection_iff.mpr ⟨hfuel, hpulse⟩
    have hign := allowIgnition_iff.mpr ⟨hspark, hdwell⟩
    simp [hrpm', hinj, hign, List.length_flatMap, hcount.ne', hcount]

lemma outputProfile_advance (he : r.emission op = some e) :
    (r.advance op).outputProfile = r.outputProfile ∧ e.1.outputProfile = r.outputProfile := by
  obtain ⟨r', result, happ⟩ := apply_of_emission he
  obtain ⟨taken, nowUs, outputs, hs⟩ := apply_stepped happ
  cases he.symm.trans hs.emission
  simp only [advance, happ]
  exact ⟨hs.outputProfile.trans hs.profile, hs.profile⟩

/-- **Arming stops.** A run of more steps than there are places does not arm throughout, however
far its steps are apart. -/
theorem arming_stops {ops : List RuntimeOp} (hev : r.HasEvents)
    (hst : Along advance Steady r ops)
    (hlen : maxScheduledWindows < r.scheduler.windows.length + ops.length) :
    ¬ Along advance EmitsAll r ops := by
  induction ops generalizing r with
  | nil =>
    have := items_length_le r.scheduler.scheduledWindows
    exact absurd hlen (Nat.not_lt.mpr this)
  | cons op ops ih =>
    rintro ⟨hall, hrest⟩
    obtain ⟨e, he, hsteady⟩ := hst.1
    obtain ⟨hadv, htaken⟩ := outputProfile_advance he
    have hgrow := (emitsAll_iff hst.1).2 hall e he
    have hpos := events_length_pos (r := e.1) (fun p hp => hev p (htaken ▸ hp)) hsteady
    rw [List.length_cons] at hlen
    exact ih (fun p hp => hev p (hadv ▸ hp)) hst.2 (by omega) hrest

theorem arming_stops_seventeen : ¬ Along advance EmitsAll flatRuntime (steadyRun 17) :=
  arming_stops (fun _ h => nomatch h) (by decide +kernel) (by decide)

end EngineRuntime

end Pipoco.Engine
