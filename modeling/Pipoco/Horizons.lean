import Pipoco.Suspension

/-!
The discipline of horizons.

A horizon is a short interval of time in which the timing island may act, with a mask of what it
may do. Beside a scheduler we keep the horizons it has accepted, last one first, and whether its
heartbeat has been found expired since. Every operation other than an accepted commit only lets
the frontier settle: what is active stays or goes, and a permit that is gone stays gone.
-/

namespace Pipoco.Horizons

open Domain SchedState Suspension Runs SchedulerState

variable (s : SchedulerState)

structure Horizon where
  id : TimingIslandHorizonSequenceId
  (startUs endUs : Micros)
  deriving DecidableEq, Repr

/-- A horizon that may be committed at all. -/
def Horizon.Short (h : Horizon) : Prop :=
  h.startUs.toNat < h.endUs.toNat ∧ h.endUs.toNat - h.startUs.toNat ≤ 10000

/-- A scheduler with the history of its horizons. -/
structure Watched where
  sched : SchedulerState
  accepted : List Horizon
  expired : Bool

def Watched.new : Watched := ⟨.new, [], false⟩

def commits : SchedOp → Option Horizon
  | .commitHorizon i a b d m => if (s.commitHorizon i a b d m).2 then some ⟨i, a, b⟩ else none
  | _ => none

/-- The operation looks at the heartbeat and finds it expired. -/
def findsExpired : SchedOp → Bool
  | .expireHeartbeat now | .expireFrontier now => (s.expireHeartbeat now).2
  | _ => false

def watch (v : Watched) (op : SchedOp) : Watched where
  sched := schedStep v.sched op
  accepted := (commits v.sched op).toList ++ v.accepted
  expired := (commits v.sched op).isNone && (v.expired || findsExpired v.sched op)

structure Disciplined (v : Watched) : Prop where
  increasing : v.accepted.Pairwise fun later earlier => earlier.id < later.id
  last : v.sched.lastAcceptedHorizonId = v.accepted.head?.map (·.id)
  active : ∀ i, v.sched.activeHorizonId = some i → ∃ h, v.accepted.head? = some h ∧ h.id = i ∧
    v.sched.horizonStartUs = some h.startUs ∧ v.sched.horizonEndUs = some h.endUs ∧ h.Short
  permitted : v.sched.activePermitMask.isEmpty = false → v.sched.activeHorizonId.isSome = true
  revoked : v.expired = true → v.sched.activePermitMask.isEmpty = true

/-! ### Settling -/

/-- Nothing is committed: the active horizon stays as it is or goes, and so does the permit,
which never outlasts it. -/
structure Settles (s s' : SchedulerState) : Prop where
  last : s'.lastAcceptedHorizonId = s.lastAcceptedHorizonId
  active : s'.activeHorizonId = none ∨ s'.activeHorizonId = s.activeHorizonId ∧
    s'.horizonStartUs = s.horizonStartUs ∧ s'.horizonEndUs = s.horizonEndUs
  permit : s'.activePermitMask = .none ∨
    s'.activePermitMask = s.activePermitMask ∧ s'.activeHorizonId = s.activeHorizonId

lemma Settles.refl : Settles s s := ⟨rfl, .inr ⟨rfl, rfl, rfl⟩, .inr ⟨rfl, rfl⟩⟩

lemma Settles.trans {s s' s'' : SchedulerState} (h : Settles s s') (h' : Settles s' s'') :
    Settles s s'' := by
  refine ⟨h'.last.trans h.last, ?_, ?_⟩
  · rcases h'.active with hn | ⟨ha, hs, he⟩
    · exact .inl hn
    · rw [ha, hs, he]; exact h.active
  · rcases h'.permit with hn | ⟨hp, ha⟩
    · exact .inl hn
    · rw [hp, ha]; exact h.permit

structure Frontier where
  (lastId activeId : Option TimingIslandHorizonSequenceId)
  (startUs endUs : Option Micros)
  permit : SafetyPermitMask

def frontier : Frontier :=
  ⟨s.lastAcceptedHorizonId, s.activeHorizonId, s.horizonStartUs, s.horizonEndUs, s.activePermitMask⟩

lemma settles_of_frontier_eq {s s' : SchedulerState} (h : frontier s' = frontier s) :
    Settles s s' := by
  simp only [frontier, Frontier.mk.injEq] at h
  obtain ⟨hl, ha, hs, he, hp⟩ := h
  exact ⟨hl, .inr ⟨ha, hs, he⟩, .inr ⟨hp, ha⟩⟩

section settles

variable (s : SchedulerState) (now : Micros)

@[simp] lemma frontier_refreshModeFromGroups : frontier s.refreshModeFromGroups = frontier s := by
  unfold refreshModeFromGroups; split_ifs <;> rfl

@[simp] lemma frontier_syncScheduledGroup (g : OutputGroup) :
    frontier (s.syncScheduledGroup g) = frontier s := by
  unfold syncScheduledGroup; split_ifs <;> rfl

@[simp] lemma frontier_refreshCounts : frontier s.refreshCounts = frontier s := rfl

@[simp] lemma frontier_refreshReservedChannels :
    frontier s.refreshReservedChannels = frontier s := rfl

@[simp] lemma frontier_clearScheduledOwnership :
    frontier s.clearScheduledOwnership = frontier s := by
  rw [clearScheduledOwnership, frontier_refreshModeFromGroups]; rfl

@[simp] lemma frontier_noteDrainedTransition (t : ScheduledTransition) :
    frontier (s.noteDrainedTransition t) = frontier s := by
  unfold noteDrainedTransition
  split_ifs
  · rfl
  · simp only [frontier_refreshModeFromGroups, frontier_refreshCounts,
      frontier_syncScheduledGroup, frontier_refreshReservedChannels]
    rfl
  · rfl

@[simp] lemma frontier_onSyncRecovered : frontier s.onSyncRecovered = frontier s := by
  unfold onSyncRecovered; split_ifs <;> rfl

@[simp] lemma frontier_noteHeartbeat : frontier (s.noteHeartbeat now) = frontier s := by
  unfold noteHeartbeat; split_ifs <;> rfl

@[simp] lemma frontier_suspend : frontier s.suspend = frontier s :=
  frontier_clearScheduledOwnership s

@[simp] lemma frontier_reserveWindow (o : ExclusiveChannel) (a b : Micros) :
    frontier (s.reserveWindow o a b).1 = frontier s := by
  rcases s.reserveWindow_cases o a b with ⟨table, -, -, -, he⟩ | ⟨-, e, he⟩
  · rw [he]; rfl
  · rw [he]

@[simp] lemma frontier_scheduleWindow (a b : Micros) (o : ExclusiveChannel) :
    frontier (s.scheduleWindow now a b o).1 = frontier s := by
  unfold scheduleWindow
  split
  · rfl
  split
  · rfl
  · exact frontier_reserveWindow s o _ _

@[simp] lemma frontier_scheduleInjection (a b : Micros) (p : InjectionPlan) :
    frontier (s.scheduleInjection now a b p).1 = frontier s := by
  have h := frontier_scheduleWindow s now a b p.output
  unfold scheduleInjection
  split <;> rename_i he <;> rw [he] at h <;> exact h

@[simp] lemma frontier_scheduleIgnition (a b : Micros) (p : IgnitionPlan) :
    frontier (s.scheduleIgnition now a b p).1 = frontier s := by
  have h := frontier_scheduleWindow s now a b p.output
  unfold scheduleIgnition
  split <;> rename_i he <;> rw [he] at h <;> exact h

lemma settles_clearLiveFrontierState (r : TimingIslandStopReason) :
    Settles s (s.clearLiveFrontierState r) := ⟨rfl, .inl rfl, .inl rfl⟩

lemma settles_expireHeartbeat : Settles s (s.expireHeartbeat now).1 := by
  unfold expireHeartbeat
  split
  · exact Settles.refl s
  · split_ifs
    · exact Settles.refl s
    all_goals exact ⟨rfl, .inr ⟨rfl, rfl, rfl⟩, .inl rfl⟩

lemma settles_expireHorizon : Settles s (s.expireHorizon now).1 := by
  unfold expireHorizon
  split
  · exact Settles.refl s
  · split_ifs
    · exact Settles.refl s
    all_goals exact settles_clearLiveFrontierState s _

end settles

/-! ### Commits -/

/-- A commit is accepted as a short horizon with a new identifier, or changes nothing. -/
lemma commitHorizon_cases (i : TimingIslandHorizonSequenceId) (a b d : Micros)
    (m : SafetyPermitMask) :
    (s.commitHorizon i a b d m = (s, false)) ∨
      Horizon.Short ⟨i, a, b⟩ ∧ (∀ last, s.lastAcceptedHorizonId = some last → last < i) ∧
        s.commitHorizon i a b d m =
          ({ s with
              lastAcceptedHorizonId := some i
              lastAcceptedHorizonStartUs := some a
              lastAcceptedHorizonEndUs := some b
              activeHorizonId := some i
              horizonStartUs := some a
              horizonEndUs := some b
              heartbeatDeadlineUs := some d
              activePermitMask := m
              activeStopReason := .none }, true) := by
  unfold commitHorizon
  by_cases h₁ : b ≤ a
  · exact .inl (if_pos h₁)
  by_cases h₂ : b - a > maxHorizonUs
  · exact .inl (by rw [if_neg h₁, if_pos h₂])
  by_cases h₃ : s.lastAcceptedHorizonId.any fun last => i ≤ last
  · exact .inl (by rw [if_neg h₁, if_neg h₂, if_pos h₃])
  · refine .inr ⟨?_, fun last hl => ?_, by rw [if_neg h₁, if_neg h₂, if_neg h₃]⟩
    · have hlt : a.toNat < b.toNat := by
        rw [UInt32.le_iff_toNat_le] at h₁; omega
      have hsub : (b - a).toNat = b.toNat - a.toNat :=
        UInt32.toNat_sub_of_le b a (UInt32.le_iff_toNat_le.mpr hlt.le)
      have hmax : maxHorizonUs.toNat = 10000 := rfl
      rw [gt_iff_lt, UInt32.lt_iff_toNat_lt, hsub, hmax] at h₂
      exact ⟨hlt, by show b.toNat - a.toNat ≤ 10000; omega⟩
    · rw [hl, Option.any_some, decide_eq_true_eq] at h₃
      exact UInt32.not_le.mp h₃

/-- Whatever is not an accepted commit lets the frontier settle. -/
lemma settles_schedStep (op : SchedOp) (h : commits s op = none) : Settles s (schedStep s op) := by
  cases op with
  | commitHorizon i a b d m =>
    rcases commitHorizon_cases s i a b d m with he | ⟨-, -, he⟩
    · show Settles s (s.commitHorizon i a b d m).1
      rw [he]; exact Settles.refl s
    · simp [commits, he] at h
  | cancelAll =>
    exact (settles_of_frontier_eq (frontier_clearScheduledOwnership s)).trans
      (settles_clearLiveFrontierState _ _)
  | onSyncLoss | onHardSafetyShutdown =>
    exact (settles_clearLiveFrontierState s _).trans (settles_of_frontier_eq (frontier_suspend _))
  | expireFrontier now => exact (settles_expireHeartbeat s now).trans (settles_expireHorizon _ now)
  | clearLiveFrontierState r => exact settles_clearLiveFrontierState s r
  | expireHeartbeat now => exact settles_expireHeartbeat s now
  | expireHorizon now => exact settles_expireHorizon s now
  -- the rest does not touch the frontier
  | armGroup g | cancelGroup g | onGeometryCommit => exact settles_of_frontier_eq rfl
  | _ => exact settles_of_frontier_eq (by simp [schedStep])

variable {s}

lemma permit_expireHeartbeat {now : Micros} (h : (s.expireHeartbeat now).2 = true) :
    (s.expireHeartbeat now).1.activePermitMask = .none := by
  unfold expireHeartbeat at h ⊢
  split at h
  · cases h
  · split_ifs at h ⊢ <;> rfl

lemma permit_of_findsExpired {op : SchedOp} (h : findsExpired s op = true) :
    (schedStep s op).activePermitMask = .none := by
  cases op with
  | expireHeartbeat now => exact permit_expireHeartbeat h
  | expireFrontier now =>
    have hp := permit_expireHeartbeat h
    rcases (settles_expireHorizon (s.expireHeartbeat now).1 now).permit with hn | ⟨hk, -⟩
    · exact hn
    · exact hk.trans hp
  | _ => cases h

/-! ### Runs -/

variable {v : Watched}

lemma disciplined_new : Disciplined Watched.new where
  increasing := List.Pairwise.nil
  last := rfl
  active i h := by cases h
  permitted h := by cases h
  revoked h := by cases h

lemma Disciplined.settle (h : Disciplined v) {op : SchedOp} (hop : commits v.sched op = none) :
    Disciplined (watch v op) := by
  have hs := settles_schedStep v.sched op hop
  have hacc : (watch v op).accepted = v.accepted := by simp [watch, hop]
  have hexp : (watch v op).expired = (v.expired || findsExpired v.sched op) := by
    simp [watch, hop]
  refine ⟨by rw [hacc]; exact h.increasing, ?_, ?_, ?_, ?_⟩
  · rw [hacc]; exact hs.last.trans h.last
  · intro i hi
    rcases hs.active with hn | ⟨ha, hstart, hend⟩
    · rw [show (watch v op).sched = schedStep v.sched op from rfl, hn] at hi; cases hi
    · obtain ⟨x, hx, hxi, h₁, h₂, hshort⟩ := h.active i (ha.symm.trans hi)
      exact ⟨x, by rw [hacc]; exact hx, hxi, hstart.trans h₁, hend.trans h₂, hshort⟩
  · intro hp
    rcases hs.permit with hn | ⟨hk, ha⟩
    · rw [show (watch v op).sched = schedStep v.sched op from rfl, hn] at hp; cases hp
    · show (schedStep v.sched op).activeHorizonId.isSome = true
      rw [ha]
      exact h.permitted (hk ▸ hp)
  · intro he
    rw [hexp, Bool.or_eq_true] at he
    show (schedStep v.sched op).activePermitMask.isEmpty = true
    rcases he with he | he
    · rcases hs.permit with hn | ⟨hk, -⟩
      · rw [hn]; rfl
      · rw [hk]; exact h.revoked he
    · rw [permit_of_findsExpired he]; rfl

lemma Disciplined.commit (h : Disciplined v) {i : TimingIslandHorizonSequenceId} {a b d : Micros}
    {m : SafetyPermitMask} (hop : commits v.sched (.commitHorizon i a b d m) ≠ none) :
    Disciplined (watch v (.commitHorizon i a b d m)) := by
  obtain he | ⟨hshort, hlast, he⟩ := commitHorizon_cases v.sched i a b d m
  · simp [commits, he] at hop
  have hc : commits v.sched (.commitHorizon i a b d m) = some ⟨i, a, b⟩ := by
    simp [commits, he]
  have hacc : (watch v (.commitHorizon i a b d m)).accepted = ⟨i, a, b⟩ :: v.accepted := by
    simp [watch, hc]
  have hexp : (watch v (.commitHorizon i a b d m)).expired = false := by simp [watch, hc]
  have hsched : (watch v (.commitHorizon i a b d m)).sched = (v.sched.commitHorizon i a b d m).1 :=
    rfl
  rw [he] at hsched
  refine ⟨?_, ?_, ?_, ?_, ?_⟩
  · rw [hacc]
    refine List.pairwise_cons.mpr ⟨fun x hx => ?_, h.increasing⟩
    -- the last accepted identifier is the largest one
    rcases hl : v.accepted with _ | ⟨y, ys⟩
    · rw [hl] at hx; cases hx
    · have hy : y.id < i := hlast y.id (by rw [h.last, hl]; rfl)
      have hinc := h.increasing
      rw [hl] at hx hinc
      rcases List.mem_cons.mp hx with rfl | hx
      · exact hy
      · exact UInt32.lt_trans ((List.pairwise_cons.mp hinc).1 x hx) hy
  · rw [hacc, hsched]; rfl
  · intro j hj
    rw [hsched] at hj ⊢
    exact ⟨⟨i, a, b⟩, by rw [hacc]; rfl, Option.some.inj hj, rfl, rfl, hshort⟩
  · intro _
    rw [hsched]; rfl
  · intro hx
    rw [hexp] at hx; cases hx

lemma Disciplined.step (h : Disciplined v) (op : SchedOp) : Disciplined (watch v op) := by
  rcases hop : commits v.sched op with _ | x
  · exact h.settle hop
  · cases op with
    | commitHorizon i a b d m => exact h.commit (by simp [hop])
    | _ => cases hop

/-- **The discipline of horizons.** In every run the accepted identifiers increase, an active
horizon is the last accepted one and is short, only an active horizon permits anything, and a
heartbeat found expired takes the permit away until the next accepted commit. A refused commit
changes nothing. -/
theorem run_disciplined (ops : List SchedOp) :
    Disciplined (run watch Watched.new ops) ∧
    ∀ i a b d m, ((run watch Watched.new ops).sched.commitHorizon i a b d m).2 = false →
      ((run watch Watched.new ops).sched.commitHorizon i a b d m).1 =
        (run watch Watched.new ops).sched := by
  refine ⟨run_inv (I := Disciplined) (fun v op h => h.step op) disciplined_new ops, ?_⟩
  intro i a b d m hr
  rcases commitHorizon_cases (run watch Watched.new ops).sched i a b d m with he | ⟨-, -, he⟩
  · rw [he]
  · rw [he] at hr; cases hr

end Pipoco.Horizons
