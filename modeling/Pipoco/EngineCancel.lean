import Pipoco.EngineArms
import Pipoco.Runs

/-!
Whether a lost position reaches the board.

The runtime tells the board to cancel only while its own scheduler owns a group. The legacy profile
gives a group up when it is cut, without an action, and once both are given up a lost position is
no longer reported although the board may still hold the windows. Every other profile keeps what it
has armed until it cancels.
-/

namespace Pipoco.Engine

open Domain SchedState OutProfiles Lowering Runs EngineRuntime OutputGroup

/-! ### Ownership of a group -/

variable {s s' : SchedulerState} {w : ScheduledWindow} {g : OutputGroup}

variable (s g) in
def Owns : Prop := s.activeGroups &&& g.mask ≠ 0
  deriving Decidable

lemma isArmed_of_owns (h : Owns s g) : s.isArmed := by
  simp only [SchedulerState.isArmed, decide_eq_true_eq]
  intro hzero
  rw [Owns, hzero] at h
  exact h (BitVec.zero_and ..)

variable (g) in
lemma mask_ne_zero : g.mask ≠ 0 := by
  cases g <;> decide

lemma mask_and_mask {g' : OutputGroup} (h : g ≠ g') :
    g'.mask &&& g.mask = 0 ∧ ~~~g'.mask &&& g.mask = g.mask := by
  cases g <;> cases g' <;> first | exact absurd rfl h | exact ⟨rfl, rfl⟩

lemma Armed.owns_self (h : Armed s w s') : Owns s' w.output.group := by
  rw [Owns, h.groups, BitVec.and_or_distrib_right, BitVec.and_self]
  exact fun hzero => mask_ne_zero _ (BitVec.or_eq_zero_iff.mp hzero).2

lemma Armed.owns_other (h : Armed s w s') (hg : g ≠ w.output.group) : Owns s' g ↔ Owns s g := by
  rw [Owns, Owns, h.groups, BitVec.and_or_distrib_right, (mask_and_mask hg).1]
  exact Iff.of_eq (congrArg (· ≠ 0) (BitVec.or_zero ..))

lemma Armed.owns_of_owns (h : Armed s w s') (hg : Owns s g) : Owns s' g := by
  by_cases heq : g = w.output.group
  · exact heq ▸ h.owns_self
  · exact (h.owns_other heq).mpr hg

variable (s g)

lemma activeGroups_cancelGroup :
    (s.cancelGroup g).activeGroups = s.activeGroups &&& ~~~g.mask := rfl

lemma not_owns_cancelGroup : ¬ Owns (s.cancelGroup g) g := by
  have hnone : ~~~g.mask &&& g.mask = 0 := by
    cases g <;> rfl
  rw [Owns, activeGroups_cancelGroup, BitVec.and_assoc, hnone]
  exact fun h => h (BitVec.and_zero ..)

variable {s g}

lemma owns_cancelGroup {g' : OutputGroup} (hg : g ≠ g') : Owns (s.cancelGroup g') g ↔ Owns s g := by
  rw [Owns, Owns, activeGroups_cancelGroup, BitVec.and_assoc, (mask_and_mask hg).2]

/-! ### The legacy profile -/

variable {nowUs : Micros} {allow armed : Bool} {q : ArmRequest} {control : ControlPlan}

/-- A group the legacy profile ends up with: it may run, and is owned already or its window can be
reserved. -/
def Holds (nowUs : Micros) (s : SchedulerState) (allow : Bool) (q : ArmRequest) : Prop :=
  allow ∧ (Owns s q.window.output.group ∨ Acceptable nowUs s q.window)

lemma LegacyGroup.owns_iff (h : LegacyGroup nowUs s allow q s' armed) :
    Owns s' q.window.output.group ↔ Holds nowUs s allow q := by
  cases h with
  | armed hallow ha h => exact iff_of_true h.owns_self ⟨hallow, .inr ha⟩
  | refused hallow hn => simp [Holds, hallow, hn]
  | cancelled hallow =>
    refine iff_of_false (not_owns_cancelGroup s _) fun h => ?_
    rw [hallow] at h
    cases h.1

lemma LegacyGroup.owns_of_armed (h : LegacyGroup nowUs s allow q s' true) :
    Owns s' q.window.output.group := by
  cases h with
  | armed _ _ h => exact h.owns_self

lemma LegacyGroup.owns_other (h : LegacyGroup nowUs s allow q s' armed)
    (hg : g ≠ q.window.output.group) : Owns s' g ↔ Owns s g := by
  cases h with
  | armed hallow ha h => exact h.owns_other hg
  | refused hallow hn => exact Iff.rfl
  | cancelled hallow => exact owns_cancelGroup hg

lemma LegacyGroup.owns_injector
    (h : LegacyGroup nowUs s allow (legacyIgnitionEvent nowUs control) s' armed) :
    Owns s' .injector ↔ Owns s .injector :=
  h.owns_other (show injector ≠ .ignition by decide)

/-- Some group is left after a step of the legacy profile. A cut injector is cancelled before the
ignition is looked at, which can make room for it. -/
def KeepsGroup (nowUs : Micros) (s : SchedulerState) (control : ControlPlan) : Prop :=
  Holds nowUs s (allowInjection control) (legacyInjectionEvent nowUs control) ∨
    Holds nowUs (if allowInjection control then s else s.cancelGroup .injector)
      (allowIgnition control) (legacyIgnitionEvent nowUs control)

/-- **The legacy profile keeps a group** exactly under that condition. -/
lemma keepsGroup_iff {s₁ : SchedulerState} {injection ignition : Bool}
    (hinj : LegacyGroup nowUs s (allowInjection control)
      (legacyInjectionEvent nowUs control) s₁ injection)
    (hign : LegacyGroup nowUs s₁ (allowIgnition control)
      (legacyIgnitionEvent nowUs control) s' ignition) :
    Owns s' .injector ∨ Owns s' .ignition ↔ KeepsGroup nowUs s control := by
  have hinjector : Owns s' .injector ↔ Holds nowUs s (allowInjection control)
      (legacyInjectionEvent nowUs control) :=
    hign.owns_injector.trans hinj.owns_iff
  have hignition : Owns s' .ignition ↔ Holds nowUs s₁ (allowIgnition control)
      (legacyIgnitionEvent nowUs control) := hign.owns_iff
  rw [hinjector, hignition, KeepsGroup]
  refine or_congr_right' fun hnot => ?_
  -- without the injector the scheduler is as it was, or its group was cancelled
  cases hinj with
  | armed hallow ha h => exact absurd ⟨hallow, .inr ha⟩ hnot
  | refused hallow hn => rw [if_pos hallow]
  | cancelled hallow =>
    rw [if_neg (by rw [hallow]; decide)]
    exact Iff.rfl

/-! ### The other profiles -/

lemma owns_armAll (h : Owns s g) (qs : List ArmRequest) : Owns (armAll nowUs s qs).1 g := by
  induction qs generalizing s with
  | nil => exact h
  | cons q qs ih =>
    rw [armAll]
    rcases armOne_cases nowUs s q with ⟨-, -, harmed⟩ | ⟨-, hq⟩
    · exact ih (harmed.owns_of_owns h)
    · rw [hq]
      exact ih h

lemma isArmed_armAll {qs : List ArmRequest} (h : s.isArmed ∨ (armAll nowUs s qs).2 ≠ []) :
    (armAll nowUs s qs).1.isArmed := by
  induction qs generalizing s with
  | nil => exact h.resolve_right fun hne => hne rfl
  | cons q qs ih =>
    rw [armAll] at h ⊢
    rcases armOne_cases nowUs s q with ⟨-, -, harmed⟩ | ⟨-, hq⟩
    · exact isArmed_of_owns (owns_armAll harmed.owns_self qs)
    · rw [hq] at h ⊢
      exact ih h

/-! ### Watched runs -/

def cancels : Action → Bool
  | .cancelScheduler _ => true
  | _ => false

instance (r : EngineRuntime) : Decidable r.Lost := inferInstanceAs (Decidable (_ ∨ _))

instance (r : EngineRuntime) : Decidable r.Ready := decidable_of_iff' _ (r.ready_iff)

instance (s : SchedulerState) (w : ScheduledWindow) : Decidable (Acceptable nowUs s w) :=
  decidable_of_iff' _ (acceptable_iff nowUs s w)

instance (s : SchedulerState) (control : ControlPlan) : Decidable (KeepsGroup nowUs s control) :=
  inferInstanceAs (Decidable (_ ∧ (_ ∨ _) ∨ _ ∧ (_ ∨ _)))

/-- A runtime, and whether some step has armed an output since the last one that cancelled. -/
structure Watch where
  runtime : EngineRuntime
  outstanding : Bool

namespace Watch

variable (w : Watch) (op : RuntimeOp)

def step : Watch :=
  match w.runtime.apply op with
  | none => w
  | some (r', none) => ⟨r', w.outstanding⟩
  | some (r', some result) =>
    ⟨r', w.outstanding && !result.actions.items.any cancels || result.actions.items.any arms⟩

/-- If the step finds the position lost while an arm is outstanding, it cancels. -/
def Reaches : Prop :=
  ∀ out ∈ w.runtime.apply op, ∀ result ∈ out.2,
    w.outstanding → out.1.Lost → result.actions.items.any cancels
  deriving Decidable

/-- A step of the legacy profile that runs its outputs keeps a group while an arm is
outstanding. -/
def Keeps : Prop :=
  ∀ e ∈ w.runtime.emission op, w.outstanding → e.1.Ready →
    e.1.outputProfile = .legacySingleChannel → KeepsGroup e.2.1 e.1.scheduler.onSyncRecovered e.2.2
  deriving Decidable

/-- What is outstanding is still owned. -/
def Inv : Prop := w.outstanding → w.runtime.scheduler.isArmed

end Watch

open EngineRuntime

variable {w : Watch} {op : RuntimeOp} {r r' : EngineRuntime} {result : StepResult}
  {outputs : List Action}

lemma EngineRuntime.Stepped.any_eq {taken : EngineRuntime}
    (hs : Stepped r op r' result taken nowUs outputs) :
    result.actions.items.any arms = outputs.any arms ∧
      result.actions.items.any cancels = outputs.any cancels := by
  have hno : taken.housekeeping.any arms = false ∧ taken.housekeeping.any cancels = false := by
    simp only [List.any_eq_false]
    constructor
    all_goals
      intro a ha
      rcases mem_housekeeping ha with rfl | rfl | rfl <;> exact Bool.false_ne_true
  rw [hs.items, List.any_append, List.any_append, hno.1, hno.2, Bool.or_false, Bool.or_false]
  exact ⟨rfl, rfl⟩

lemma EngineRuntime.Stepped.lost_iff {taken : EngineRuntime}
    (hs : Stepped r op r' result taken nowUs outputs) : r'.Lost ↔ taken.Lost := by
  unfold EngineRuntime.Lost lacksAuthority
  rw [hs.engine, hs.outputProfile]

/-- **What an emission leaves armed.** If it arms, or does not cancel and keeps a group, the
scheduler is armed afterwards. -/
lemma EngineRuntime.Emits.isArmed (h : Emits r nowUs control s' outputs)
    (hkeep : outputs.any arms ∨ outputs.any cancels = false ∧ r.scheduler.isArmed ∧
      (r.Ready → r.outputProfile = .legacySingleChannel →
        KeepsGroup nowUs r.scheduler.onSyncRecovered control)) :
    s'.isArmed := by
  cases h with
  | shutdown | syncLoss => exact absurd hkeep (by simp [arms, armsInjection, armsIgnition, cancels])
  | waiting =>
    rcases hkeep with harm | ⟨-, harmed, -⟩
    · cases harm
    · exact harmed
  | legacy hready hp hinj hign =>
    have hgroup : KeepsGroup nowUs r.scheduler.onSyncRecovered control := by
      rcases hkeep with harm | ⟨-, -, hgroup⟩
      · -- what was armed is owned
        refine (keepsGroup_iff hinj hign).mp ?_
        rename_i injection ignition
        cases injection with
        | true => exact .inl (hign.owns_injector.mpr hinj.owns_of_armed)
        | false =>
          cases ignition with
          | true => exact .inr hign.owns_of_armed
          | false => exact absurd harm Bool.false_ne_true
      · exact hgroup hready hp
    rcases (keepsGroup_iff hinj hign).mpr hgroup with howns | howns <;> exact isArmed_of_owns howns
  | events hready hp =>
    refine isArmed_armAll ?_
    rcases hkeep with harm | ⟨-, harmed, -⟩
    · refine .inr fun hempty => absurd harm ?_
      rw [eventActions, if_pos hempty]
      decide
    · refine .inl ?_
      unfold SchedulerState.onSyncRecovered
      split_ifs <;> exact harmed

lemma inv_step (hinv : w.Inv) (hkeeps : w.Keeps op) : (w.step op).Inv := by
  unfold Watch.step
  split
  · exact hinv
  · rename_i r' happ
    -- only steps touch the scheduler
    intro hout
    rw [apply_configured happ, (configure_eq _ op).1]
    exact hinv hout
  · rename_i r' result happ
    obtain ⟨taken, nowUs, outputs, hs⟩ := apply_stepped happ
    intro hout
    refine hs.emits.isArmed ?_
    simp only [hs.any_eq.1, hs.any_eq.2, Bool.or_eq_true, Bool.and_eq_true,
      Bool.not_eq_true'] at hout
    rcases hout with ⟨hout, hno⟩ | harm
    · exact .inr ⟨hno, hs.scheduler ▸ hinv hout, hkeeps _ hs.emission hout⟩
    · exact .inl harm

/-- An owned group and a lost position make the step cancel. -/
lemma reaches_of_inv (hinv : w.Inv) : w.Reaches op := by
  rintro ⟨r', res⟩ happ result hres hout hlost
  obtain rfl := Option.mem_def.mp hres
  obtain ⟨taken, nowUs, outputs, hs⟩ := apply_stepped happ
  have hlost' : taken.Lost := hs.lost_iff.mp hlost
  have harmed : taken.scheduler.isArmed := hs.scheduler ▸ hinv hout
  rw [hs.any_eq.2]
  have hemits := hs.emits
  generalize r'.scheduler = s' at hemits
  cases hemits with
  | shutdown => rfl
  | syncLoss => rfl
  | waiting h hnot hidle => exact absurd harmed (by rw [hidle hlost']; decide)
  | legacy h | events h => exact absurd hlost' h.not_lost

/-- **A lost position reaches the board** in every run in which no step of the legacy profile gives
up its last group while an arm is outstanding; for the other profiles this is no condition. -/
theorem loss_reaches_board (r : EngineRuntime) {ops : List RuntimeOp}
    (hkeeps : Along Watch.step Watch.Keeps ⟨r, false⟩ ops) :
    Along Watch.step Watch.Reaches ⟨r, false⟩ ops := by
  have hinv : Watch.Inv ⟨r, false⟩ := fun h => nomatch h
  exact along_of_inv (I := Watch.Inv) (fun _ _ hi _ => reaches_of_inv hi)
    (fun _ _ hi hk => inv_step hi hk) hinv hkeeps

/-- With only the fuel cut the ignition keeps the scheduler armed. -/
theorem loss_reaches_board_one_cut :
    Along Watch.step Watch.Keeps ⟨flatRuntime, false⟩
        [steadyStep 1000 true, .setDirectCutRequests true false, steadyStep 11000 true,
          steadyStep 21000 false] ∧
      Along Watch.step Watch.Reaches ⟨flatRuntime, false⟩
        [steadyStep 1000 true, .setDirectCutRequests true false, steadyStep 11000 true,
          steadyStep 21000 false] :=
  ⟨by decide +kernel, loss_reaches_board flatRuntime (by decide +kernel)⟩

/-- Armed, then both channels cut, then the position lost: the loss is not reported. -/
theorem loss_after_both_cuts_silent :
    ¬ Along Watch.step Watch.Reaches ⟨new, false⟩
      [steadyStep 1000 true, .setDirectCutRequests true true, steadyStep 11000 true,
        steadyStep 21000 false] := by
  decide +kernel

/-! ### The condition cannot be dropped -/

def runtimeGroups : BitVec 8 := injector.mask ||| ignition.mask

variable (s) in
/-- Nothing but the two groups of the runtime is owned. -/
def OwnsOnly : Prop := s.activeGroups &&& ~~~runtimeGroups = 0

lemma LegacyGroup.ownsOnly (h : LegacyGroup nowUs s allow q s' armed)
    (hq : q.window.output.group.mask &&& ~~~runtimeGroups = 0) (hs : OwnsOnly s) : OwnsOnly s' := by
  unfold OwnsOnly at hs ⊢
  cases h with
  | armed _ _ h =>
    rw [h.groups, BitVec.and_or_distrib_right, hs, hq]
    rfl
  | refused => exact hs
  | cancelled =>
    rw [activeGroups_cancelGroup, BitVec.and_assoc, BitVec.and_comm (~~~q.window.output.group.mask),
      ← BitVec.and_assoc, hs]
    exact BitVec.zero_and ..

lemma not_isArmed (hs : OwnsOnly s) (hinj : ¬ Owns s .injector) (hign : ¬ Owns s .ignition) :
    s.isArmed = false := by
  have hall : ~~~runtimeGroups ||| injector.mask ||| ignition.mask = BitVec.allOnes 8 := by decide
  simp only [Owns, not_not] at hinj hign
  have hzero : s.activeGroups = 0 := by
    calc s.activeGroups
        = s.activeGroups &&& BitVec.allOnes 8 := (BitVec.and_allOnes ..).symm
      _ = 0 := by
        rw [← hall, BitVec.and_or_distrib_left, BitVec.and_or_distrib_left, hs, hinj, hign]
        rfl
  simp [SchedulerState.isArmed, hzero]

/-- A legacy emission that keeps no group does not cancel and leaves the scheduler idle. -/
lemma EngineRuntime.Emits.drops (h : Emits r nowUs control s' outputs) (hready : r.Ready)
    (hp : r.outputProfile = .legacySingleChannel) (honly : OwnsOnly r.scheduler.onSyncRecovered)
    (hkeep : ¬ KeepsGroup nowUs r.scheduler.onSyncRecovered control) :
    outputs.any cancels = false ∧ s'.isArmed = false := by
  rcases h.of_ready hready with ⟨s, injection, ignition, -, hinj, hign, rfl⟩ | ⟨hne, -⟩
  · obtain ⟨hi, hg⟩ := not_or.mp fun h => hkeep ((keepsGroup_iff hinj hign).mp h)
    have honly₁ := hinj.ownsOnly (show injector.mask &&& _ = 0 by decide) honly
    have honly' := hign.ownsOnly (show OutputGroup.ignition.mask &&& _ = 0 by decide) honly₁
    refine ⟨?_, not_isArmed honly' hi hg⟩
    cases injection <;> cases ignition <;> rfl
  · exact absurd hp hne

/-- A step that keeps no group leaves the arm outstanding and the scheduler idle. -/
lemma drops_of_not_keeps (happ : w.runtime.apply op = some (r', some result))
    (honly : OwnsOnly w.runtime.scheduler) (hdrop : ¬ w.Keeps op) :
    (w.step op).outstanding ∧ (w.step op).runtime.scheduler.isArmed = false := by
  obtain ⟨taken, nowUs, outputs, hs⟩ := apply_stepped happ
  simp only [Watch.Keeps, hs.emission, Option.mem_def, Option.some.injEq, forall_eq',
    Classical.not_imp] at hdrop
  obtain ⟨hout, hready, hp, hkeep⟩ := hdrop
  have honly' : OwnsOnly taken.scheduler.onSyncRecovered := by
    rw [hs.scheduler]
    unfold SchedulerState.onSyncRecovered
    split_ifs <;> exact honly
  obtain ⟨hno, harmed⟩ := hs.emits.drops hready hp honly' hkeep
  have hstep : w.step op = ⟨r', w.outstanding && !outputs.any cancels || outputs.any arms⟩ := by
    rw [← hs.any_eq.1, ← hs.any_eq.2]
    simp only [Watch.step, happ]
  rw [hstep]
  exact ⟨by simp [hout, hno], harmed⟩

/-- **A dropped group silences the loss.** After a step that keeps no group, a step that finds the
position lost, and is not a shutdown, does not cancel. -/
theorem loss_silent_of_not_keeps {r'' : EngineRuntime} {result' : StepResult} {next : RuntimeOp}
    (happ : w.runtime.apply op = some (r', some result)) (honly : OwnsOnly w.runtime.scheduler)
    (hdrop : ¬ w.Keeps op) (hnext : r'.apply next = some (r'', some result')) (hlost : r''.Lost)
    (hrun : r''.inShutdown = false) : ¬ (w.step op).Reaches next := by
  obtain ⟨hout, harmed⟩ := drops_of_not_keeps happ honly hdrop
  have hr' : (w.step op).runtime = r' := by simp only [Watch.step, happ]
  rw [hr'] at harmed
  obtain ⟨taken, nowUs, outputs, hs⟩ := apply_stepped hnext
  have hlost' : taken.Lost := hs.lost_iff.mp hlost
  have hrun' : taken.inShutdown = false := by
    rw [inShutdown, ← hs.engine, ← hs.faults]
    exact hrun
  intro hreaches
  have hcancel := hreaches (r'', some result') (by rw [hr']; exact hnext) result' rfl hout hlost
  rw [hs.any_eq.2] at hcancel
  have hemits := hs.emits
  generalize r''.scheduler = s' at hemits
  cases hemits with
  | shutdown hshut => exact absurd (hshut.symm.trans hrun') Bool.true_eq_false.mp
  | syncLoss _ _ h =>
    rw [hs.scheduler] at h
    exact absurd (h.symm.trans harmed) Bool.true_eq_false.mp
  | waiting => cases hcancel
  | legacy h | events h => exact h.not_lost hlost'

def bothCut : Watch :=
  run Watch.step ⟨new, false⟩ [steadyStep 1000 true, .setDirectCutRequests true true]

theorem loss_silent_of_not_keeps_both_cuts :
    ¬ (bothCut.step (steadyStep 11000 true)).Reaches (steadyStep 21000 false) :=
  loss_silent_of_not_keeps rfl (show _ = _ by decide +kernel) (by decide +kernel) rfl
    (by decide +kernel) (by decide +kernel)

end Pipoco.Engine
