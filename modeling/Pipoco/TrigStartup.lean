import Pipoco.TrigProfiled

/-!
Start-up gating.

The layer holds back the phase and the absolute time until enough revolutions have passed since
the lock. It only sees the answers of the decoder, and counts by them: this file keeps the gaps
that were accepted beside it, forgets them at a loss of lock, a refused edge or a reset, and
compares.
-/

namespace Pipoco.TrigStartup

open Domain Runs TrigDecoder MissingToothDecoder

/-! ### Reports without a lock -/

section reports

open MissingToothDecoder

variable {d : MissingToothDecoder}

variable (d)

/-- Without a reported lock neither phase nor absolute time is reported. -/
def Honest : Prop :=
  d.diagnostics.authority.crank = .primaryLocked ∨
    d.diagnostics.authority.phase = .unknown ∧ d.diagnostics.authority.absolute = .none

lemma honest_setLockedAuthority : Honest d.setLockedAuthority := .inl rfl

lemma honest_setSearchingAuthority : Honest d.setSearchingAuthority := .inr ⟨rfl, rfl⟩

lemma honest_recordSecondaryFault (reason : SyncLossReason) :
    Honest (d.recordSecondaryFault reason) := by
  unfold recordSecondaryFault
  simp only
  split_ifs
  · exact honest_setLockedAuthority _
  · exact honest_setSearchingAuthority _

variable {d}

lemma honest_acceptGap (timestamp interval : Ticks) (ratio : UInt16) :
    Honest (d.acceptGap timestamp interval ratio).1 := by
  unfold acceptGap
  split_ifs
  · exact .inr ⟨rfl, rfl⟩
  · exact honest_setLockedAuthority _

lemma honest_acceptTooth (timestamp interval : Ticks) (ratio : UInt16) :
    Honest (d.acceptTooth timestamp interval ratio).1 := by
  unfold acceptTooth
  cases hl : d.primaryLocked with
  | true =>
    simp only [updateObservation, if_true]
    split_ifs
    · exact .inr ⟨rfl, rfl⟩
    · exact honest_setLockedAuthority _
  | false => exact honest_setSearchingAuthority _

lemma Honest.ingestPrimaryEdge (h : Honest d) (timestamp : Ticks) :
    Honest (d.ingestPrimaryEdge timestamp).1 := by
  simp only [MissingToothDecoder.ingestPrimaryEdge, ingestPrimaryEdgeWithKind, ne_eq,
    not_true_eq_false, if_false]
  cases d.lastEdgeTimestamp with
  | none => exact honest_setSearchingAuthority _
  | some last =>
    simp only
    split_ifs with hfilter hzero
    · exact h
    · exact honest_setSearchingAuthority _
    · obtain ⟨hprevious, hinterval⟩ := not_or.mp hzero
      simp only [missingToothGapDetected_ok hinterval hprevious]
      split_ifs
      · exact honest_acceptGap _ _ _
      · exact honest_acceptTooth _ _ _

lemma Honest.ingestSecondaryEdge (h : Honest d) (edge : TriggerEdge) :
    Honest (d.ingestSecondaryEdge edge).1 := by
  unfold MissingToothDecoder.ingestSecondaryEdge
  split
  · simp only
    split_ifs
    · exact honest_recordSecondaryFault _ _
    · exact honest_recordSecondaryFault _ _
    · exact honest_setLockedAuthority _
    · exact h
  all_goals exact honest_recordSecondaryFault _ _

lemma honest_ingestSecondaryLevel (level : TriggerLevel) :
    Honest (d.ingestSecondaryLevel level).1 := by
  unfold ingestSecondaryLevel
  split
  · split_ifs
    · exact honest_recordSecondaryFault _ _
    · exact honest_recordSecondaryFault _ _
    · exact honest_setLockedAuthority _
  all_goals exact honest_recordSecondaryFault _ _

end reports

/-! ### Revolutions since the last restart -/

/-- The layer, with the gaps accepted since the count was last to begin again. -/
structure Counted where
  layer : ProfiledMissingToothDecoder
  gaps : ℕ

variable (g : Counted)

/-- The complete revolutions from gap to gap. -/
def Counted.revolutions : ℕ := g.gaps - 1

open ProfiledMissingToothDecoder

/-- The edge is refused; a secondary edge counts where it is asked to. -/
def refused (secondary : Bool) (p : ProfiledMissingToothDecoder) : ProfiledOp → Bool
  | .primaryEdge timestamp => !(p.ingestPrimaryEdge timestamp).2.isOk
  | .secondaryEdge edge => secondary && !(p.ingestSecondaryEdge edge).2.isOk
  | _ => false

/-- The count is to begin again: a loss of lock, a refused edge or a reset. -/
def restarts (secondary : Bool) (p : ProfiledMissingToothDecoder) (op : ProfiledOp) : Bool :=
  (p.decoder.primaryLocked && !(ProfiledMissingToothDecoder.step p op).decoder.primaryLocked) ||
    refused secondary p op || op = .resetSync

def isGap : Except SyncLossReason MissingToothDecoderEvent → Bool
  | .ok (.gap _) => true
  | _ => false

def acceptsGap (p : ProfiledMissingToothDecoder) : ProfiledOp → Bool
  | .primaryEdge timestamp => isGap (p.ingestPrimaryEdge timestamp).2
  | _ => false

def count (secondary : Bool) (g : Counted) (op : ProfiledOp) : Counted where
  layer := ProfiledMissingToothDecoder.step g.layer op
  gaps :=
    if restarts secondary g.layer op then 0
    else if acceptsGap g.layer op then g.gaps + 1
    else g.gaps

/-- A cam-validated phase or an absolute time is reported. -/
def Exposed (a : EngineTimeAuthority) : Prop := a.phase = .camValidated720 ∨ a.absolute ≠ .none

/-- What is exposed has waited for the configured revolutions. -/
def Gated : Prop :=
  Exposed g.layer.authority →
    g.layer.profile.startup.skipRevolutions.toNat ≤ g.revolutions ∧
      (g.layer.profile.startup.requireFullCycle = true → 1 ≤ g.revolutions)

/-! ### The count of the layer -/

/-- The layer counts no revolution that was not there. -/
structure Follows (g : Counted) : Prop where
  honest : Honest g.layer.decoder
  revolutions : g.layer.revolutionsSinceLock.toNat ≤ g.revolutions
  saw : g.layer.sawPrimaryGap = true → 1 ≤ g.gaps

lemma Follows.gated {g : Counted} (h : Follows g) : Gated g := by
  intro hexposed
  by_cases hlock : g.layer.decoder.diagnostics.authority.hasPrimaryLock = true
  · by_cases hready : g.layer.profile.startupAuthorityReady g.layer.revolutionsSinceLock = true
    · simp only [RuntimeMissingToothProfile.startupAuthorityReady,
        StartupSyncPolicy.authorityReady, Bool.and_eq_true, Bool.or_eq_true, Bool.not_eq_true',
        decide_eq_true_eq, ge_iff_le, gt_iff_lt, UInt8.le_iff_toNat_le,
        UInt8.lt_iff_toNat_lt] at hready
      refine ⟨hready.1.trans h.revolutions, fun hfull => ?_⟩
      have hpos := hready.2.resolve_left (by rw [hfull]; decide)
      have hle := h.revolutions
      omega
    · -- held back
      simp [Exposed, authority, hlock, hready] at hexposed
  · have hunlocked := h.honest.resolve_left fun hcrank => hlock (by
      simp [EngineTimeAuthority.hasPrimaryLock, hcrank])
    simp [Exposed, authority, hlock, hunlocked.1, hunlocked.2] at hexposed

section steps

variable {g : Counted} {p : ProfiledMissingToothDecoder} {timestamp : Ticks}
  {event : MissingToothDecoderEvent}

/-- What the layer does with the decoder's answer. -/
inductive Counters (p p' : ProfiledMissingToothDecoder) :
    Except SyncLossReason MissingToothDecoderEvent → Prop
  | refused (reason : SyncLossReason) (hrevolutions : p'.revolutionsSinceLock = 0)
      (hsaw : p'.sawPrimaryGap = false) : Counters p p' (.error reason)
  | nextGap (tooth : UInt8) (hseen : p.sawPrimaryGap = true)
      (hrevolutions : p'.revolutionsSinceLock = satAdd8 p.revolutionsSinceLock 1) :
      Counters p p' (.ok (.gap tooth))
  | firstGap (tooth : UInt8) (hrevolutions : p'.revolutionsSinceLock = p.revolutionsSinceLock) :
      Counters p p' (.ok (.gap tooth))
  | restarted {event : MissingToothDecoderEvent} (hgap : isGap (.ok event) = false)
      (hrevolutions : p'.revolutionsSinceLock = 0) (hsaw : p'.sawPrimaryGap = false) :
      Counters p p' (.ok event)
  | kept {event : MissingToothDecoderEvent} (hgap : isGap (.ok event) = false)
      (hrevolutions : p'.revolutionsSinceLock = p.revolutionsSinceLock)
      (hsaw : p'.sawPrimaryGap = p.sawPrimaryGap) : Counters p p' (.ok event)

variable (p timestamp)

lemma counters_ingestPrimaryEdge :
    Counters p (p.ingestPrimaryEdge timestamp).1 (p.ingestPrimaryEdge timestamp).2 := by
  unfold ProfiledMissingToothDecoder.ingestPrimaryEdge
  simp only
  split
  · exact .refused _ rfl rfl
  · split
    · split_ifs with hseen
      · exact .nextGap _ hseen rfl
      · exact .firstGap _ rfl
    · split_ifs
      · exact .restarted rfl rfl rfl
      · exact .kept rfl rfl rfl
    · split_ifs
      · exact .restarted rfl rfl rfl
      · exact .kept rfl rfl rfl
    · exact .kept rfl rfl rfl
    · exact .kept rfl rfl rfl

lemma result_ingestPrimaryEdge :
    (p.ingestPrimaryEdge timestamp).2 = (p.decoder.ingestPrimaryEdge timestamp).2 := by
  unfold ProfiledMissingToothDecoder.ingestPrimaryEdge
  simp only
  split
  · exact Eq.symm ‹_›
  · split <;> (try split_ifs) <;> exact Eq.symm ‹_›

variable {p timestamp}

lemma primaryLocked_of_answered (h : (p.ingestPrimaryEdge timestamp).2 = .ok event)
    (hlock : p.decoder.primaryLocked = true) :
    (p.ingestPrimaryEdge timestamp).1.decoder.primaryLocked = true := by
  rw [(decoder_ingestPrimaryEdge (p := p) timestamp).1]
  rw [result_ingestPrimaryEdge] at h
  have hstep := primaryStep_ingest p.decoder timestamp
    p.decoder.config.primaryEdge
  have hkind : p.decoder.ingestPrimaryEdge timestamp =
    p.decoder.ingestPrimaryEdgeWithKind timestamp p.decoder.config.primaryEdge := rfl
  rw [← hkind, h] at hstep
  cases hstep with
  | firstEdge _ htracking | filtered _ _ htracking | unmeasured _ _ _ _ htracking =>
    exact (congrArg Tracking.primaryLocked htracking).trans hlock
  | gap _ _ _ _ htracking => exact congrArg Tracking.primaryLocked htracking
  | tooth _ _ _ _ _ htracking | searched _ _ _ _ htracking =>
    exact (congrArg Tracking.primaryLocked htracking).trans hlock

lemma restarts_answered (h : (p.ingestPrimaryEdge timestamp).2 = .ok event) :
    restarts false p (.primaryEdge timestamp) = false := by
  have hlock := primaryLocked_of_answered h
  simpa [restarts, refused, h, ProfiledMissingToothDecoder.step, Except.isOk, Except.toBool]
    using hlock

lemma Follows.primaryEdge (h : Follows g) (timestamp : Ticks) :
    Follows (count false g (.primaryEdge timestamp)) := by
  have hhonest : Honest (g.layer.ingestPrimaryEdge timestamp).1.decoder := by
    rw [(decoder_ingestPrimaryEdge (p := g.layer) timestamp).1]
    exact h.honest.ingestPrimaryEdge timestamp
  have hcounters := counters_ingestPrimaryEdge g.layer timestamp
  have hle := h.revolutions
  cases hresult : (g.layer.ingestPrimaryEdge timestamp).2 with
  | error reason =>
    rw [hresult] at hcounters
    obtain ⟨-, hrevolutions, hsaw⟩ := hcounters
    refine ⟨hhonest, ?_, fun hseen => nomatch hsaw.symm.trans hseen⟩
    exact (congrArg UInt8.toNat hrevolutions).le.trans (Nat.zero_le _)
  | ok event =>
    rw [hresult] at hcounters
    have hgaps : (count false g (.primaryEdge timestamp)).gaps =
        if isGap (.ok event) then g.gaps + 1 else g.gaps := by
      simp only [count, restarts_answered hresult, acceptsGap, hresult, Bool.false_eq_true,
        if_false]
    have hlayer : (count false g (.primaryEdge timestamp)).layer =
        (g.layer.ingestPrimaryEdge timestamp).1 := rfl
    refine ⟨hhonest, ?_, ?_⟩
    · rw [Counted.revolutions, hgaps, hlayer]
      cases hcounters with
      | nextGap tooth hseen hrevolutions =>
        have hsome := h.saw hseen
        calc (g.layer.ingestPrimaryEdge timestamp).1.revolutionsSinceLock.toNat
            = min (g.layer.revolutionsSinceLock.toNat + 1) (2 ^ 8 - 1) := by
              rw [hrevolutions, toNat_satAdd8, UInt8.toNat_one]
          _ ≤ g.layer.revolutionsSinceLock.toNat + 1 := min_le_left _ _
          _ ≤ g.gaps - 1 + 1 := Nat.add_le_add_right hle 1
          _ = g.gaps := Nat.sub_add_cancel hsome
      | firstGap tooth hrevolutions =>
        rw [hrevolutions]
        exact hle.trans (Nat.sub_le _ _)
      | restarted hgap hrevolutions hsaw =>
        rw [hrevolutions]
        exact Nat.zero_le _
      | kept hgap hrevolutions hsaw =>
        rw [hrevolutions, hgap]
        exact hle
    · rw [hgaps, hlayer]
      cases hcounters with
      | nextGap tooth hseen hrevolutions | firstGap tooth hrevolutions =>
        exact fun _ => Nat.succ_pos _
      | restarted hgap hrevolutions hsaw => exact fun hseen => nomatch hsaw.symm.trans hseen
      | kept hgap hrevolutions hsaw =>
        rw [hsaw, hgap]
        exact h.saw

lemma Follows.secondary {op : ProfiledOp} {d : MissingToothDecoder} (h : Follows g)
    (hreset : op ≠ .resetSync) (hrefused : refused false g.layer op = false)
    (hgap : acceptsGap g.layer op = false)
    (hstep : ProfiledMissingToothDecoder.step g.layer op = { g.layer with decoder := d })
    (htracking : d.tracking = g.layer.decoder.tracking) (hhonest : Honest d) :
    Follows (count false g op) := by
  have hlock : d.primaryLocked = g.layer.decoder.primaryLocked :=
    congrArg Tracking.primaryLocked htracking
  have hcount : count false g op = ⟨{ g.layer with decoder := d }, g.gaps⟩ := by
    simp [count, restarts, hstep, hlock, hrefused, hreset, hgap]
  rw [hcount]
  exact ⟨hhonest, h.revolutions, h.saw⟩

lemma Follows.step (h : Follows g) (op : ProfiledOp) : Follows (count false g op) := by
  cases op with
  | primaryEdge timestamp => exact h.primaryEdge timestamp
  | secondaryEdge edge =>
    exact h.secondary (by simp) rfl rfl rfl tracking_ingestSecondaryEdge
      (h.honest.ingestSecondaryEdge edge)
  | secondaryLevel level =>
    exact h.secondary (by simp) rfl rfl rfl
      (tracking_ingestSecondaryLevel level) (honest_ingestSecondaryLevel level)
  | resetSync => exact ⟨.inr ⟨rfl, rfl⟩, Nat.zero_le _, fun hseen => nomatch hseen⟩

end steps

/-! ### Runs -/

lemma layer_run_count (secondary : Bool) (g : Counted) (ops : List ProfiledOp) :
    (run (count secondary) g ops).layer = run ProfiledMissingToothDecoder.step g.layer ops := by
  induction ops generalizing g with
  | nil => rfl
  | cons op ops ih => exact ih _

/-- **Start-up gating.** In every run of an accepted layer, a cam-validated phase or an absolute
time is reported only when the configured revolutions, from gap to gap, were accepted since the
last loss of lock, refused primary edge or reset. -/
theorem startup_gated {profile : RuntimeMissingToothProfile} {minimum : Ticks} {threshold : UInt16}
    {layer : ProfiledMissingToothDecoder}
    (hnew : ProfiledMissingToothDecoder.tryNew profile minimum threshold = .ok layer)
    (ops : List ProfiledOp) :
    (run (count false) ⟨layer, 0⟩ ops).layer = run ProfiledMissingToothDecoder.step layer ops ∧
      Gated (run (count false) ⟨layer, 0⟩ ops) := by
  obtain ⟨hdecoder, -, hrevolutions, hsaw⟩ := tryNew_ok hnew
  obtain ⟨-, -, -, -, hinitial⟩ := tryNew_ok hdecoder
  have hstart : Follows ⟨layer, 0⟩ := by
    refine ⟨.inr ?_, (congrArg UInt8.toNat hrevolutions).le,
      fun hseen => nomatch hsaw.symm.trans hseen⟩
    rw [hinitial]
    exact ⟨rfl, rfl⟩
  exact ⟨layer_run_count false _ ops, (run_inv (fun _ op h => h.step op) hstart ops).gated⟩

/-- A four-minus-one wheel with a cam tooth, gated for two revolutions. -/
def gatedProfile : RuntimeMissingToothProfile where
  nominalTeeth := 4
  missingTeeth := 1
  primarySpeed := .crank
  primaryEdge := .rising
  secondary := ⟨.singleToothCam, .rising, .activeHigh⟩
  triggerAngleAtdcDeg10 := .unknown
  toothAngleMultiplier := 1
  startup := ⟨2, true⟩
  latency := ⟨0, 0, 0⟩

def gatedLayer : ProfiledMissingToothDecoder :=
  ⟨initial (.fromRuntimeProfile gatedProfile 0 1500) 3, gatedProfile, 0, false⟩

/-- A lock at 500 and two revolutions of 400 ticks. -/
def twoRevolutions : List ProfiledOp :=
  [100, 200, 300, 500, 600, 700, 900, 1000, 1100, 1300].map .primaryEdge

theorem startup_gated_twoRevolutions :
    let g := run (count false) ⟨gatedLayer, 0⟩ (twoRevolutions ++ [.secondaryEdge .rising])
    Exposed g.layer.authority ∧ Gated g :=
  ⟨.inl (by decide +kernel), (@startup_gated gatedProfile 0 1500 gatedLayer rfl _).2⟩

/-- After the two revolutions a falling cam edge is refused. The rising one that follows at once
validates the phase, with no revolution since the refused edge. -/
theorem refused_cam_edge_keeps_count :
    let g := run (count true) ⟨gatedLayer, 0⟩
      (twoRevolutions ++ [.secondaryEdge .falling, .secondaryEdge .rising])
    ProfiledMissingToothDecoder.tryNew gatedProfile 0 1500 = .ok gatedLayer ∧
      g.layer = run ProfiledMissingToothDecoder.step gatedLayer
        (twoRevolutions ++ [.secondaryEdge .falling, .secondaryEdge .rising]) ∧
      g.layer.authority.phase = .camValidated720 ∧ g.revolutions = 0 ∧ ¬ Gated g := by
  refine ⟨rfl, layer_run_count true _ _, by decide +kernel, by decide +kernel, fun hgated => ?_⟩
  exact absurd (hgated (.inl (by decide +kernel))).1 (by decide +kernel)

end Pipoco.TrigStartup
