import Pipoco.CompatState
import Pipoco.Evidence

/-!
Sync losses and the windows they are counted in.

A window is opened by the first loss after a fresh start and by every loss that comes more than the
window length after the one that opened the window before. The third loss of a window shuts the
engine down. Windows do not slide: three losses close together may fall into two of them, but four
cannot without three of them sharing one.
-/

namespace Pipoco.SyncWindow

open Domain Runs Compat Evidence Recorded

/-! ### Calls and windows -/

variable {t : ℕ}

inductive Op
  | loss (time : ℕ)
  | recovery
  | resetWindow
  | clearShutdown
  deriving DecidableEq

def next (t : SyncLossTracker) : Op → SyncLossTracker
  | .loss time => (t.recordSyncLoss (stamp time)).1
  | .recovery => t.recordRecovery
  | .resetWindow => t.resetWindow
  | .clearShutdown => t.clearShutdown

abbrev History := Recorded SyncLossTracker Op

/-- The loss that opened a window and the number of losses in it. -/
structure Window where
  (opened losses : ℕ)
  deriving DecidableEq

/-- The window of the latest loss. -/
def window : List Op → Option Window
  | [] => none
  | .loss t :: past =>
    match window past with
    | none => some ⟨t, 1⟩
    | some w =>
      if syncRecoveryWindowUs < stamp t - stamp w.opened then some ⟨t, 1⟩
      else some ⟨w.opened, w.losses + 1⟩
  | .recovery :: past => window past
  | .resetWindow :: _ => none
  | .clearShutdown :: _ => none

/-- The latest loss is at least the third of its window. -/
def Full (past : List Op) : Prop := ∃ w ∈ window past, syncRecoveryAttempts.toNat ≤ w.losses
  deriving Decidable

/-- Some loss since the last release was at least the third of its window. -/
def Shut : List Op → Prop
  | [] => False
  | .loss t :: past => Full (.loss t :: past) ∨ Shut past
  | .recovery :: past => Shut past
  | .resetWindow :: past => Shut past
  | .clearShutdown :: _ => False

variable {past : List Op} {w : Window}

lemma window_pos (h : window past = some w) : 1 ≤ w.losses := by
  induction past generalizing w with
  | nil => cases h
  | cons op past ih =>
    cases op with
    | loss t =>
      simp only [window] at h
      split at h
      · cases h
        exact le_rfl
      · split at h
        · cases h
          exact le_rfl
        · cases h
          exact Nat.le_add_left _ _
    | recovery => exact ih h
    | resetWindow | clearShutdown => cases h

lemma window_loss_of_none (h : window past = none) : window (.loss t :: past) = some ⟨t, 1⟩ := by
  simp only [window, h]

lemma window_loss_of_late (h : window past = some w)
    (hlate : syncRecoveryWindowUs < stamp t - stamp w.opened) :
    window (.loss t :: past) = some ⟨t, 1⟩ := by
  simp only [window, h, if_pos hlate]

lemma window_loss_of_near (h : window past = some w)
    (hnear : ¬ syncRecoveryWindowUs < stamp t - stamp w.opened) :
    window (.loss t :: past) = some ⟨w.opened, w.losses + 1⟩ := by
  simp only [window, h, if_neg hnear]

lemma Full.shut (h : Full past) : Shut past := by
  induction past with
  | nil => obtain ⟨w, hw, -⟩ := h; cases hw
  | cons op past ih =>
    cases op with
    | loss t => exact .inl h
    | recovery => exact ih h
    | resetWindow | clearShutdown => obtain ⟨w, hw, -⟩ := h; cases hw

/-! ### The tracker -/

/-- **What the tracker remembers.** Its counter saturates, which the comparison never sees. -/
structure Tracks (r : History) : Prop where
  fresh : window r.past = none → r.state.lossCount = 0
  count : ∀ w, window r.past = some w →
    r.state.lossCount.toNat = min w.losses (2 ^ 8 - 1) ∧ r.state.windowStartUs = stamp w.opened
  shut : r.state.shutdown = true ↔ Shut r.past

lemma Tracks.start : Tracks (.start .new) :=
  ⟨fun _ => rfl, fun w h => (by cases h), ⟨fun h => (by cases h), fun h => h.elim⟩⟩

/-- What a loss reports. A loss that is at least the third of its window asks for the shutdown, and
none asks for it that leaves the tracker running. -/
structure Reports (r : History) (op : Op) : Prop where
  full : ∀ t, op = .loss t → Full (op :: r.past) → (r.state.recordSyncLoss (stamp t)).2 = true
  shut : ∀ t, op = .loss t → (r.state.recordSyncLoss (stamp t)).2 = true →
    (next r.state op).shutdown = true

section call

variable {r : History} {t : ℕ} {s : SyncLossTracker} {nowUs : UInt32}

lemma recordSyncLoss_of_opens (h : s.lossCount = 0 ∨ syncRecoveryWindowUs < nowUs - s.windowStartUs) :
    s.recordSyncLoss nowUs = ({ s with totalLosses := satAdd16 s.totalLosses 1,
                                       windowStartUs := nowUs, lossCount := 1 }, false) := by
  simp only [SyncLossTracker.recordSyncLoss]
  rw [if_pos h]

lemma recordSyncLoss_of_joins
    (h : ¬ (s.lossCount = 0 ∨ syncRecoveryWindowUs < nowUs - s.windowStartUs)) :
    s.recordSyncLoss nowUs =
      ({ s with totalLosses := satAdd16 s.totalLosses 1, lossCount := satAdd8 s.lossCount 1,
                shutdown := s.shutdown || decide (syncRecoveryAttempts ≤ satAdd8 s.lossCount 1) },
        decide (syncRecoveryAttempts ≤ satAdd8 s.lossCount 1)) := by
  simp only [SyncLossTracker.recordSyncLoss]
  rw [if_neg h]
  by_cases hfull : syncRecoveryAttempts ≤ satAdd8 s.lossCount 1
  · simp [hfull]
  · simp [hfull]

lemma not_full_of_opened (h : window past = some ⟨t, 1⟩) : ¬ Full past := by
  rintro ⟨w, hw, hfull⟩
  rw [h] at hw
  cases hw
  exact absurd hfull (show ¬ 3 ≤ 1 by decide)

lemma Tracks.loss_cases (h : Tracks r) (t : ℕ) :
    (window (.loss t :: r.past) = some ⟨t, 1⟩ ∧
        (r.state.lossCount = 0 ∨ syncRecoveryWindowUs < stamp t - r.state.windowStartUs)) ∨
      ∃ w, window r.past = some w ∧
        window (.loss t :: r.past) = some ⟨w.opened, w.losses + 1⟩ ∧
        ¬ (r.state.lossCount = 0 ∨ syncRecoveryWindowUs < stamp t - r.state.windowStartUs) := by
  cases hw : window r.past with
  | none => exact .inl ⟨window_loss_of_none hw, .inl (h.fresh hw)⟩
  | some w =>
    obtain ⟨hcount, hstart⟩ := h.count w hw
    rw [hstart]
    by_cases hlate : syncRecoveryWindowUs < stamp t - stamp w.opened
    · exact .inl ⟨window_loss_of_late hw hlate, .inr hlate⟩
    · refine .inr ⟨w, rfl, window_loss_of_near hw hlate, not_or.mpr ⟨fun hzero => ?_, hlate⟩⟩
      have hpos := window_pos hw
      rw [hzero] at hcount
      simp only [UInt8.toNat_zero] at hcount
      omega

/-- The saturated count is at the limit exactly when the losses are. -/
lemma attempts_le_iff {c : UInt8} (hc : c.toNat = min w.losses (2 ^ 8 - 1)) :
    syncRecoveryAttempts ≤ satAdd8 c 1 ↔ syncRecoveryAttempts.toNat ≤ w.losses + 1 := by
  have hthree : syncRecoveryAttempts.toNat = 3 := rfl
  have hone : (1 : UInt8).toNat = 1 := rfl
  rw [UInt8.le_iff_toNat_le, toNat_satAdd8, hc, hthree, hone]
  omega

lemma Tracks.loss (h : Tracks r) (t : ℕ) : Tracks (r.step next (.loss t)) := by
  have hnone : window (.loss t :: r.past) ≠ none := by
    rcases h.loss_cases t with ⟨hw, -⟩ | ⟨w, -, hw, -⟩ <;> simp [hw]
  rcases h.loss_cases t with ⟨hw, hopens⟩ | ⟨w, hold, hw, hjoins⟩
  · have hnext : next r.state (.loss t) = _ := congrArg Prod.fst (recordSyncLoss_of_opens hopens)
    refine ⟨fun hno => absurd hno hnone, fun v hv => ?_, ?_⟩
    · cases hw.symm.trans hv
      rw [state_step, hnext]
      exact ⟨rfl, rfl⟩
    · rw [state_step, hnext]
      exact h.shut.trans ⟨.inr, fun hs => hs.resolve_left (not_full_of_opened hw)⟩
  · have hnext : next r.state (.loss t) = _ := congrArg Prod.fst (recordSyncLoss_of_joins hjoins)
    obtain ⟨hcount, hstart⟩ := h.count w hold
    have hiff := attempts_le_iff hcount
    refine ⟨fun hno => absurd hno hnone, fun v hv => ?_, ?_⟩
    · cases hw.symm.trans hv
      rw [state_step, hnext]
      refine ⟨?_, hstart⟩
      have hone : (1 : UInt8).toNat = 1 := rfl
      simp only [toNat_satAdd8, hcount, hone]
      omega
    · rw [state_step, hnext]
      have hfull : Full (.loss t :: r.past) ↔ syncRecoveryAttempts.toNat ≤ w.losses + 1 := by
        simp [Full, hw]
      simp only [past_step, Shut, hfull, ← hiff, ← h.shut, Bool.or_eq_true, decide_eq_true_eq]
      exact or_comm

lemma Tracks.step (h : Tracks r) (op : Op) : Tracks (r.step next op) := by
  cases op with
  | loss t => exact h.loss t
  | recovery => exact ⟨h.fresh, h.count, h.shut⟩
  | resetWindow => exact ⟨fun _ => rfl, fun w hw => (by cases hw), h.shut⟩
  | clearShutdown =>
    exact ⟨fun _ => rfl, fun w hw => (by cases hw), ⟨fun hs => (by cases hs), fun hs => hs.elim⟩⟩

lemma Tracks.reports (h : Tracks r) (op : Op) : Reports r op := by
  refine ⟨?_, ?_⟩
  · rintro t rfl ⟨v, hv, hfull⟩
    rcases h.loss_cases t with ⟨hw, -⟩ | ⟨w, hold, hw, hjoins⟩
    · exact absurd ⟨v, hv, hfull⟩ (not_full_of_opened hw)
    · cases hw.symm.trans hv
      rw [recordSyncLoss_of_joins hjoins]
      exact decide_eq_true ((attempts_le_iff (h.count w hold).1).mpr hfull)
  · rintro t rfl hreport
    rcases h.loss_cases t with ⟨-, hopens⟩ | ⟨w, -, -, hjoins⟩
    · rw [recordSyncLoss_of_opens hopens] at hreport
      cases hreport
    · rw [recordSyncLoss_of_joins hjoins] at hreport
      simp only [next, recordSyncLoss_of_joins hjoins]
      rw [show decide _ = true from hreport, Bool.or_true]

end call

/-! ### Windows and intervals -/

variable {k : ℕ} (ops : List Op) {rest : List ℕ}

namespace Op

/-- The call starts the count afresh. -/
def Clears : Op → Prop
  | .resetWindow | .clearShutdown => True
  | .loss _ | .recovery => False

def lossTime : Op → Option ℕ
  | .loss t => some t
  | _ => none

end Op

/-- The times of the losses among some calls. -/
def losses : List ℕ := ops.filterMap Op.lossTime

@[simp] lemma losses_nil : losses [] = [] := rfl
@[simp] lemma losses_loss (t : ℕ) (ops : List Op) : losses (.loss t :: ops) = t :: losses ops := rfl
@[simp] lemma losses_recovery : losses (.recovery :: ops) = losses ops := rfl

variable (past)

/-- Three losses with nothing between them that starts the count afresh, all within the window
length after one of them, and no release since. The latest call comes first. -/
def Clustered : Prop :=
  ∃ later cluster earlier, past = later ++ cluster ++ earlier ∧ .clearShutdown ∉ later ∧
    (∀ op ∈ cluster, ¬ op.Clears) ∧ syncRecoveryAttempts.toNat ≤ (losses cluster).length ∧
    ∃ o ∈ losses cluster, ∀ t ∈ losses cluster, stamp t - stamp o ≤ syncRecoveryWindowUs

/-- The losses of the window stand together at the end of the history, within the window length
after the one that opened it. -/
def Gathers (w : Window) : Prop :=
  ∃ cluster earlier, past = cluster ++ earlier ∧ (∀ op ∈ cluster, ¬ op.Clears) ∧
    (losses cluster).length = w.losses ∧ w.opened ∈ losses cluster ∧
    ∀ t ∈ losses cluster, stamp t - stamp w.opened ≤ syncRecoveryWindowUs

variable {past}

lemma gathers_opened (t : ℕ) (past : List Op) : Gathers (.loss t :: past) ⟨t, 1⟩ :=
  ⟨[.loss t], past, rfl, by simp [Op.Clears], rfl, by simp, by simp⟩

lemma Gathers.loss (h : Gathers past w) (hnear : ¬ syncRecoveryWindowUs < stamp t - stamp w.opened) :
    Gathers (.loss t :: past) ⟨w.opened, w.losses + 1⟩ := by
  obtain ⟨cluster, earlier, rfl, hclears, hlen, hmem, hwithin⟩ := h
  refine ⟨.loss t :: cluster, earlier, rfl, ?_, by simp [hlen], by simp [hmem], ?_⟩
  · exact List.forall_mem_cons.mpr ⟨id, hclears⟩
  · exact List.forall_mem_cons.mpr ⟨UInt32.not_lt.mp hnear, hwithin⟩

lemma Gathers.recovery (h : Gathers past w) : Gathers (.recovery :: past) w := by
  obtain ⟨cluster, earlier, rfl, hclears, h⟩ := h
  exact ⟨.recovery :: cluster, earlier, rfl, List.forall_mem_cons.mpr ⟨id, hclears⟩, h⟩

lemma gathers_of_window (h : window past = some w) : Gathers past w := by
  induction past generalizing w with
  | nil => cases h
  | cons op past ih =>
    cases op with
    | loss t =>
      cases hold : window past with
      | none =>
        cases (window_loss_of_none hold).symm.trans h
        exact gathers_opened t past
      | some v =>
        by_cases hlate : syncRecoveryWindowUs < stamp t - stamp v.opened
        · cases (window_loss_of_late hold hlate).symm.trans h
          exact gathers_opened t past
        · cases (window_loss_of_near hold hlate).symm.trans h
          exact (ih hold).loss hlate
    | recovery => exact (ih h).recovery
    | resetWindow | clearShutdown => cases h

lemma Full.clustered (h : Full past) : Clustered past := by
  obtain ⟨w, hw, hfull⟩ := h
  obtain ⟨cluster, earlier, rfl, hclears, hlen, hmem, hwithin⟩ := gathers_of_window hw
  exact ⟨[], cluster, earlier, rfl, List.not_mem_nil, hclears, hlen ▸ hfull, w.opened, hmem,
    hwithin⟩

lemma Clustered.cons {op : Op} (h : Clustered past) (hop : op ≠ .clearShutdown) :
    Clustered (op :: past) := by
  obtain ⟨later, cluster, earlier, rfl, hlater, h⟩ := h
  refine ⟨op :: later, cluster, earlier, rfl, ?_, h⟩
  exact fun hmem => (List.mem_cons.mp hmem).elim (fun heq => hop heq.symm) hlater

lemma Shut.clustered (h : Shut past) : Clustered past := by
  induction past with
  | nil => exact h.elim
  | cons op past ih =>
    cases op with
    | loss t =>
      rcases h with hfull | hshut
      · exact hfull.clustered
      · exact (ih hshut).cons (by simp)
    | recovery | resetWindow => exact (ih h).cons (by simp)
    | clearShutdown => exact h.elim

/-- The losses come in order and within the window length of one another. -/
def Close (times : List ℕ) : Prop :=
  times.Pairwise fun t u => t ≤ u ∧ u ≤ t + syncRecoveryWindowUs.toNat

/-- After `k` losses of a burst whose others are still to come, they are either all in an old window
or all but one in a window that takes the others as well. -/
def Charged (past : List Op) (k : ℕ) (rest : List ℕ) : Prop :=
  Shut past ∨ k = 0 ∨ ∃ w, window past = some w ∧
    (k + 1 ≤ w.losses ∨ k ≤ w.losses + 1 ∧
      ∀ u ∈ rest, w.opened ≤ u ∧ u ≤ w.opened + syncRecoveryWindowUs.toNat)

/-- A loss at most the window length after another, on the clock as in time. -/
lemma not_late {o : ℕ} (hle : o ≤ t) (hnear : t ≤ o + syncRecoveryWindowUs.toNat) :
    ¬ syncRecoveryWindowUs < stamp t - stamp o := by
  have hlen : syncRecoveryWindowUs.toNat = 5000000 := rfl
  rw [UInt32.lt_iff_toNat_lt, toNat_stamp_sub hle, hlen, Nat.mod_eq_of_lt (by omega)]
  omega

lemma Charged.loss (h : Charged past k (t :: rest))
    (hrest : ∀ u ∈ rest, t ≤ u ∧ u ≤ t + syncRecoveryWindowUs.toNat) :
    Charged (.loss t :: past) (k + 1) rest := by
  -- a window this loss opens takes the rest, and counts all but at most one of the burst
  have hopens (hw : window (.loss t :: past) = some ⟨t, 1⟩) (hk : k ≤ 1) :
      Charged (.loss t :: past) (k + 1) rest :=
    .inr (.inr ⟨_, hw, .inr ⟨by simpa using hk, hrest⟩⟩)
  rcases h with hshut | rfl | ⟨w, hw, hold | ⟨hk, hnear⟩⟩
  · exact .inl (.inr hshut)
  · cases hold : window past with
    | none => exact hopens (window_loss_of_none hold) (by omega)
    | some v =>
      by_cases hlate : syncRecoveryWindowUs < stamp t - stamp v.opened
      · exact hopens (window_loss_of_late hold hlate) (by omega)
      · have hpos := window_pos hold
        exact .inr (.inr ⟨_, window_loss_of_near hold hlate, .inl (by simpa using hpos)⟩)
  · by_cases hlate : syncRecoveryWindowUs < stamp t - stamp w.opened
    · by_cases hk : k ≤ 1
      · exact hopens (window_loss_of_late hw hlate) hk
      · have hfull : syncRecoveryAttempts.toNat ≤ w.losses := by
          have hthree : syncRecoveryAttempts.toNat = 3 := rfl
          omega
        exact .inl (.inr (Full.shut ⟨w, hw, hfull⟩))
    · exact .inr (.inr ⟨_, window_loss_of_near hw hlate, .inl (by simpa using hold)⟩)
  · obtain ⟨hle, hlate⟩ := hnear t (.head _)
    refine .inr (.inr ⟨_, window_loss_of_near hw (not_late hle hlate), .inr ⟨?_, ?_⟩⟩)
    · simpa using hk
    · exact fun u hu => hnear u (.tail _ hu)

/-- A charged history with four losses behind it is shut. -/
lemma Charged.shut (h : Charged past k rest) (hk : syncRecoveryAttempts.toNat + 1 ≤ k) :
    Shut past := by
  rcases h with hshut | rfl | ⟨w, hw, hcount⟩
  · exact hshut
  · cases hk
  · have hfull : syncRecoveryAttempts.toNat ≤ w.losses := by
      rcases hcount with hold | ⟨hnew, -⟩ <;> omega
    exact Full.shut ⟨w, hw, hfull⟩

lemma shut_of_burst {burst : List Op} (hclears : ∀ op ∈ burst, ¬ op.Clears)
    (hclose : Close (losses burst)) (h : Charged past k (losses burst))
    (hk : syncRecoveryAttempts.toNat + 1 ≤ k + (losses burst).length) :
    Shut (burst.reverse ++ past) := by
  induction burst generalizing past k with
  | nil => exact h.shut hk
  | cons op burst ih =>
    have hrest : ∀ op ∈ burst, ¬ op.Clears := fun op hop => hclears op (.tail _ hop)
    rw [List.reverse_cons, List.append_assoc]
    cases op with
    | loss t =>
      obtain ⟨hfirst, hclose⟩ := List.pairwise_cons.mp hclose
      refine ih hrest hclose (h.loss hfirst) ?_
      rw [losses_loss, List.length_cons] at hk
      omega
    | recovery => exact ih hrest hclose h hk
    | resetWindow | clearShutdown => exact absurd trivial (hclears _ (.head _))

/-! ### All calls -/

lemma tracks_run : Tracks (run (step next) (.start .new) ops) :=
  run_inv (fun _ op h => h.step op) Tracks.start ops

/-- **Sync losses are counted in windows.** After every sequence of calls the engine is shut down
exactly if a loss since the last release was at least the third of its window; that loss asks for
the shutdown. There are then three losses within one window length, and four in order within one
always shut it down. -/
theorem shutdown_iff_full_window (ops : List Op) :
    ((run (step next) (.start .new) ops).state.shutdown = true ↔ Shut ops.reverse) ∧
      Along (step next) Reports (.start .new) ops ∧
      ((run (step next) (.start .new) ops).state.shutdown = true → Clustered ops.reverse) ∧
      ∀ earlier burst, ops = earlier ++ burst → (∀ op ∈ burst, ¬ op.Clears) →
        Close (losses burst) → syncRecoveryAttempts.toNat + 1 ≤ (losses burst).length →
          (run (step next) (.start .new) ops).state.shutdown = true := by
  have hpast : (run (step next) (.start .new) ops : History).past = ops.reverse := by
    rw [past_run, past_start, List.append_nil]
  have hshut := (tracks_run ops).shut
  rw [hpast] at hshut
  refine ⟨hshut, ?_, fun h => (hshut.mp h).clustered, ?_⟩
  · exact along_of_inv (I := Tracks) (C := fun _ _ => True) (fun r op h _ => h.reports op)
      (fun r op h _ => h.step op) Tracks.start along_true
  · rintro earlier burst rfl hclears hclose hfour
    rw [hshut, List.reverse_append]
    exact shut_of_burst (k := 0) hclears hclose (.inr (.inl rfl)) (by omega)

/-- Losses at four, six and eight seconds, all within four seconds, do not shut the engine down: the
first of them belongs to the window of a loss at zero. -/
theorem three_losses_in_two_windows :
    Close (losses [.loss 4000000, .loss 6000000, .loss 8000000]) ∧
      (run (step next) (.start .new)
        [.loss 0, .loss 4000000, .loss 6000000, .loss 8000000]).state.shutdown = false :=
  ⟨by unfold Close; decide +kernel, by decide +kernel⟩

end Pipoco.SyncWindow
