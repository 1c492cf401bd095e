import Pipoco.TrigEdges
import Pipoco.TrigWheel

/-!
The cam edge of a four-stroke engine.

The cam turns at half the speed of the crank, so its single tooth passes once in two revolutions
of a wheel on the crank. The decoder asks at every gap whether the cam tooth was seen since the
gap before. This file feeds it such a stream and follows the phase it reports from the first cam
edge on.
-/

namespace Pipoco.TrigCam

open Domain Runs TrigDecoder TrigDecoder.MissingToothDecoder
open TrigCoherence TrigWheel TrigWheel.EdgeStream

/-! ### The stream -/

variable (d : MissingToothDecoder) (s : EdgeStream) (phase : ℕ)

/-- The cam edge comes right after the gap tooth, in every second revolution. -/
def Cam (k : ℕ) : Prop :=
  s.index k = 1 ∧ (s.start + k) / s.teeth % 2 = phase
  deriving Decidable

def camEdge : MissingToothDecoder := (d.ingestSecondaryEdge d.config.secondary.edge).1

/-- The decoder before edge `k`: after the edges `0 .. k - 1` and their cam edges. -/
def before (d : MissingToothDecoder) (s : EdgeStream) (phase : ℕ) : ℕ → MissingToothDecoder
  | 0 => d
  | k + 1 =>
    let crank := ((before d s phase k).ingestPrimaryEdge (s.timestamp k)).1
    if Cam s phase k then camEdge crank else crank

/-- The decoder right after edge `k`, before a cam edge. -/
def reached (k : ℕ) : MissingToothDecoder :=
  ((before d s phase k).ingestPrimaryEdge (s.timestamp k)).1

/-- The edge notes a missing cam tooth: it does so on a decoder with no note. -/
def TimesOut (timestamp : Ticks) : Prop :=
  (({ d with diagnostics := { d.diagnostics with lastSyncLoss := none } } :
      MissingToothDecoder).ingestPrimaryEdge timestamp).1.diagnostics.lastSyncLoss =
    some .secondaryTimeout

def reportedPhase : PhaseSyncState := d.diagnostics.authority.phase

/-- From the cam edge after edge `k₀` on, the phase is reported valid after every edge up to `n`,
and no edge notes a missing cam tooth. -/
def StaysValid (k₀ n : ℕ) : Prop :=
  ∀ k, k₀ ≤ k → k ≤ n →
    (k₀ < k → reportedPhase (reached d s phase k) = .camValidated720 ∧
      ¬ TimesOut (before d s phase k) (s.timestamp k)) ∧
    reportedPhase (before d s phase (k + 1)) = .camValidated720

/-- From edge `k₀` to edge `n` the decoder is locked and stands at the true tooth. -/
def OnWheel (k₀ n : ℕ) : Prop :=
  ∀ k, k₀ ≤ k → k ≤ n → (reached d s phase k).primaryLocked = true ∧
    (reached d s phase k).currentTooth.toNat = s.index k

section stream

variable {d : MissingToothDecoder} {s : EdgeStream} {phase k j : ℕ}

lemma before_succ_of_cam (h : Cam s phase k) :
    before d s phase (k + 1) = camEdge (reached d s phase k) := by
  simp only [before, reached, h, if_true]

lemma before_succ_of_not_cam (h : ¬ Cam s phase k) :
    before d s phase (k + 1) = reached d s phase k := by
  simp only [before, reached, h, if_false]

/-- Edges are counted from the cam edge. -/
lemma index_add_of_cam (h : Cam s phase k) : s.index (k + j) = j % s.teeth + 1 := by
  have hmod : (s.start + k) % s.teeth = 0 := Nat.succ.inj h.1
  rw [index, ← Nat.add_assoc, Nat.add_mod, hmod, Nat.zero_add, Nat.mod_mod]

/-- No other cam edge comes within two revolutions. -/
lemma not_cam_add (h : Cam s phase k) (hpos : 0 < j) (hj : j < 2 * s.teeth) :
    ¬ Cam s phase (k + j) := by
  rintro ⟨hindex, hphase⟩
  rw [index_add_of_cam h] at hindex
  obtain rfl : j = s.teeth := Nat.eq_of_dvd_of_lt_two_mul (by omega)
    (Nat.dvd_of_mod_eq_zero (Nat.succ.inj hindex)) hj
  have hsame := h.2
  rw [← Nat.add_assoc, Nat.add_div_right _ hpos] at hphase
  omega

end stream

/-! ### What a locked decoder does with an edge -/

/-- What an edge does to the cam fields of a locked decoder. -/
inductive CamStep (d d' : MissingToothDecoder) : Prop
  | gap (hcount : d.teethSinceGap = d.observedTeeth) (hlocked : d'.primaryLocked = true)
      (htooth : d'.currentTooth = 1) (hseen : d'.secondarySeenSinceGap = false)
      (hphase : d'.phaseValidated = (d.phaseValidated && d.secondarySeenSinceGap))
      (hloss : d'.diagnostics.lastSyncLoss = if d.secondarySeenSinceGap then
        d.diagnostics.lastSyncLoss else some .secondaryTimeout)
      (hreport : reportedPhase d' = if d'.phaseValidated then .camValidated720 else .crankOnly360)
  | tooth (hcount : d.currentTooth < d.observedTeeth) (hlocked : d'.primaryLocked = true)
      (htooth : d'.currentTooth = satAdd8 d.currentTooth 1)
      (hseen : d'.secondarySeenSinceGap = d.secondarySeenSinceGap)
      (hphase : d'.phaseValidated = d.phaseValidated)
      (hloss : d'.diagnostics.lastSyncLoss = d.diagnostics.lastSyncLoss)
      (hreport : reportedPhase d' = if d'.phaseValidated then .camValidated720 else .crankOnly360)
  | lost (hlocked : d'.primaryLocked = false)
      (hloss : d'.diagnostics.lastSyncLoss = some .wrongToothCount)

section edge

variable {d : MissingToothDecoder} {timestamp last : Ticks}

lemma camStep_acceptGap (hl : d.primaryLocked = true) (hmode : d.config.secondary.mode ≠ .none)
    (interval : Ticks) (ratio : UInt16) : CamStep d (d.acceptGap timestamp interval ratio).1 := by
  unfold MissingToothDecoder.acceptGap
  split_ifs with hwrong
  · exact .lost rfl rfl
  · have hcount : d.teethSinceGap = d.observedTeeth := by simpa [hl] using hwrong
    cases hseen : d.secondarySeenSinceGap with
    | true =>
      have hchecked : d.validateSecondaryBeforeNextGap = d := by
        simp [validateSecondaryBeforeNextGap, hseen]
      rw [hchecked]
      exact .gap hcount rfl rfl rfl (by rw [hseen, Bool.and_true]; rfl) (by rw [hseen]; rfl) rfl
    | false =>
      have hchecked : d.validateSecondaryBeforeNextGap =
          d.recordSecondaryFault .secondaryTimeout := by
        simp [validateSecondaryBeforeNextGap, hseen, hl, hmode]
      have hfault : (d.recordSecondaryFault .secondaryTimeout).phaseValidated = false ∧
          (d.recordSecondaryFault .secondaryTimeout).diagnostics.lastSyncLoss =
            some .secondaryTimeout := by
        simp only [recordSecondaryFault, hl, if_true]
        exact ⟨rfl, rfl⟩
      rw [hchecked]
      exact .gap hcount rfl rfl rfl (by rw [hseen, Bool.and_false]; exact hfault.1)
        (by rw [hseen]; exact hfault.2) rfl

lemma camStep_acceptTooth (hl : d.primaryLocked = true) (interval : Ticks) (ratio : UInt16) :
    CamStep d (d.acceptTooth timestamp interval ratio).1 := by
  unfold MissingToothDecoder.acceptTooth
  by_cases hend : d.currentTooth ≥ d.observedTeeth
  · simp only [hl, hend, decide_true, Bool.and_self, if_true]
    exact .lost rfl rfl
  · simp only [updateObservation, hl, hend, decide_false, Bool.and_false, Bool.false_eq_true,
      if_true, if_false]
    exact .tooth (UInt8.not_le.mp hend) rfl rfl rfl rfl rfl rfl

variable (hl : d.primaryLocked = true) (hmode : d.config.secondary.mode ≠ .none)
  (hlast : d.lastEdgeTimestamp = some last) (hprevious : d.previousInterval ≠ 0)
  (hpass : ¬ elapsedTicks timestamp last < d.config.minimumEdgeInterval)
  (hinterval : elapsedTicks timestamp last ≠ 0)
include hl hmode hlast hprevious hpass hinterval

lemma camStep_ingest : CamStep d (d.ingestPrimaryEdge timestamp).1 := by
  simp only [ingestPrimaryEdge, ingestPrimaryEdgeWithKind, ne_eq, not_true_eq_false, if_false,
    hlast, hpass, hprevious, hinterval, or_self, missingToothGapDetected_ok hinterval hprevious]
  split_ifs
  · exact camStep_acceptGap hl hmode _ _
  · exact camStep_acceptTooth hl _ _

/-- Where the cam tooth was seen, or the revolution is not complete, none is noted as missing. -/
lemma not_timesOut (h : d.secondarySeenSinceGap = true ∨ d.teethSinceGap ≠ d.observedTeeth) :
    ¬ TimesOut d timestamp := by
  have hstep := camStep_ingest (d := { d with
    diagnostics := { d.diagnostics with lastSyncLoss := none } }) hl hmode hlast hprevious hpass
    hinterval
  unfold TimesOut
  cases hstep with
  | gap hcount _ _ _ _ hloss _ =>
    have hseen : d.secondarySeenSinceGap = true := h.resolve_right (not_not.mpr hcount)
    rw [hloss, if_pos hseen]
    exact Option.some_ne_none _ |>.symm
  | tooth _ _ _ _ _ hloss _ =>
    rw [hloss]
    exact Option.some_ne_none _ |>.symm
  | lost _ hloss =>
    rw [hloss]
    decide

end edge

/-! ### Listening to the stream -/

/-- What the decoder remembers of the stream after edge `k`. -/
structure Listens (config : MissingToothDecoderConfig) (s : EdgeStream) (k : ℕ)
    (d : MissingToothDecoder) : Prop where
  inv : Inv d
  config : d.config = config
  teeth : d.observedTeeth.toNat = s.teeth
  last : d.lastEdgeTimestamp = some (s.timestamp k)

section listen

variable {config : MissingToothDecoderConfig} {s : EdgeStream} {n k phase : ℕ}
  {d : MissingToothDecoder}

lemma Listens.camEdge (h : Listens config s k d) : Listens config s k (camEdge d) := by
  have htracking : (TrigCam.camEdge d).tracking = d.tracking := tracking_ingestSecondaryEdge
  exact {
    inv := inv_ingestSecondaryEdge h.inv _
    config := (congrArg Tracking.config htracking).trans h.config
    teeth := (congrArg (fun t => t.observedTeeth.toNat) htracking).trans h.teeth
    last := (congrArg Tracking.lastEdgeTimestamp htracking).trans h.last }

lemma remembered {timestamp : Ticks} (hpass : ∀ last ∈ d.lastEdgeTimestamp,
      ¬ elapsedTicks timestamp last < d.config.minimumEdgeInterval) :
    (d.ingestPrimaryEdge timestamp).1.observedTeeth = d.observedTeeth ∧
      (d.ingestPrimaryEdge timestamp).1.lastEdgeTimestamp = some timestamp := by
  have hstep := primaryStep_ingest d timestamp d.config.primaryEdge
  change (d.ingestPrimaryEdgeWithKind timestamp d.config.primaryEdge).1.observedTeeth = _ ∧
    (d.ingestPrimaryEdgeWithKind timestamp d.config.primaryEdge).1.lastEdgeTimestamp = _
  generalize (d.ingestPrimaryEdgeWithKind timestamp d.config.primaryEdge).2 = result at hstep
  cases hstep with
  | otherKind hkind _ => exact absurd rfl hkind
  | filtered hlast hfilter _ => exact absurd hfilter (hpass _ hlast)
  | firstEdge _ h | unmeasured _ _ _ _ h | gap _ _ _ _ h | tooth _ _ _ _ _ h
  | searched _ _ _ _ h | lost _ h =>
    exact ⟨congrArg Tracking.observedTeeth h, congrArg Tracking.lastEdgeTimestamp h⟩

lemma Listens.next (hs : Advancing config s n) (hk : k < n) (h : Listens config s k d) :
    Listens config s (k + 1) (d.ingestPrimaryEdge (s.timestamp (k + 1))).1 := by
  obtain ⟨hpass, hne⟩ := hs.measured hk
  have hspaced : Spaced d (.primaryEdge (s.timestamp (k + 1)) d.config.primaryEdge) := by
    intro _ _ _ hsame
    exact hne (elapsedTicks_eq_zero.mpr (Option.some.inj (h.last.symm.trans hsame)).symm)
  have hmeasured : ∀ last ∈ d.lastEdgeTimestamp,
      ¬ elapsedTicks (s.timestamp (k + 1)) last < d.config.minimumEdgeInterval := by
    intro last hlast
    rw [← Option.some.inj (h.last.symm.trans hlast), h.config]
    exact hpass
  obtain ⟨hteeth, hlast⟩ := remembered hmeasured
  exact {
    inv := inv_step h.inv hspaced
    config := (config_step d (.primaryEdge _ d.config.primaryEdge)).trans h.config
    teeth := (congrArg UInt8.toNat hteeth).trans h.teeth
    last := hlast }

lemma Listens.before (h : Listens config s k (reached d s phase k)) :
    Listens config s k (before d s phase (k + 1)) := by
  by_cases hcam : Cam s phase k
  · rw [before_succ_of_cam hcam]
    exact h.camEdge
  · rw [before_succ_of_not_cam hcam]
    exact h

lemma listens_first (hnew : tryNew config = .ok d) (hs : Advancing config s n) :
    Listens config s 0 (d.ingestPrimaryEdge (s.timestamp 0)).1 := by
  have hinv := inv_tryNew hnew
  obtain ⟨-, -, -, -, rfl⟩ := tryNew_ok hnew
  have hspaced : Spaced (initial config (config.nominalTeeth - config.missingTeeth))
      (.primaryEdge (s.timestamp 0) config.primaryEdge) :=
    fun hl => nomatch hl
  have hmeasured : ∀ last ∈ (initial config
      (config.nominalTeeth - config.missingTeeth)).lastEdgeTimestamp,
      ¬ elapsedTicks (s.timestamp 0) last < config.minimumEdgeInterval :=
    fun last hlast => absurd hlast.symm (Option.some_ne_none last)
  obtain ⟨hteeth, hlast⟩ := remembered hmeasured
  exact {
    inv := inv_step hinv hspaced
    config := config_step _ (.primaryEdge (s.timestamp 0) config.primaryEdge)
    teeth := (congrArg UInt8.toNat hteeth).trans hs.teeth.symm
    last := hlast }

lemma listens_reached (hnew : tryNew config = .ok d) (hs : Advancing config s n) (hk : k ≤ n) :
    Listens config s k (reached d s phase k) := by
  induction k with
  | zero => exact listens_first hnew hs
  | succ k ih => exact (ih (by omega)).before.next hs hk

end listen

/-! ### Two revolutions from a cam edge -/

/-- The decoder `j` edges after an accepted cam edge, within two revolutions. -/
structure Validated (config : MissingToothDecoderConfig) (s : EdgeStream) (k₀ j : ℕ)
    (d : MissingToothDecoder) : Prop where
  listens : Listens config s (k₀ + j) d
  locked : d.primaryLocked = true
  tooth : d.currentTooth.toNat = j % s.teeth + 1
  phase : d.phaseValidated = true
  report : reportedPhase d = .camValidated720
  seen : d.secondarySeenSinceGap = true ↔ j < s.teeth

section validated

variable {config : MissingToothDecoderConfig} {s : EdgeStream} {n k₀ j phase : ℕ}
  {d : MissingToothDecoder}

lemma validated_camEdge (ht : 2 ≤ s.teeth) (hmode : config.secondary.mode = .singleToothCam)
    (h : Listens config s k₀ d) (hl : d.primaryLocked = true) (htooth : d.currentTooth = 1) :
    Validated config s k₀ 0 (camEdge d) := by
  have hmode' : d.config.secondary.mode = .singleToothCam := by rw [h.config, hmode]
  have hcam : camEdge d = ({ d with
      camSeen := true
      secondarySeenSinceGap := true
      phaseValidated := true
      diagnostics := { d.diagnostics with observation := {
        d.diagnostics.observation with camSeen := true } } } :
      MissingToothDecoder).setLockedAuthority := by
    simp only [camEdge, ingestSecondaryEdge, hmode', hl, htooth, ne_eq, not_true_eq_false,
      if_true, if_false]
  exact {
    listens := h.camEdge
    locked := by rw [hcam]; exact hl
    tooth := by
      rw [hcam, Nat.zero_mod]
      exact congrArg UInt8.toNat htooth
    phase := by rw [hcam]; rfl
    report := by rw [hcam]; rfl
    seen := by
      rw [hcam]
      exact iff_of_true rfl (by omega) }

/-- A cam edge at another tooth takes the phase back. -/
lemma tooth_of_report (hmode : d.config.secondary.mode = .singleToothCam)
    (hl : d.primaryLocked = true) (hreport : reportedPhase (camEdge d) = .camValidated720) :
    d.currentTooth = 1 := by
  by_contra htooth
  have hcam : reportedPhase (camEdge d) = .crankOnly360 := by
    simp only [camEdge, ingestSecondaryEdge, recordSecondaryFault, hmode, hl, htooth, ne_eq,
      not_true_eq_false, not_false_eq_true, if_true, if_false]
    rfl
  rw [hcam] at hreport
  cases hreport

lemma mod_succ_eq_zero_iff {t : ℕ} (ht : 2 ≤ t) : (j + 1) % t = 0 ↔ j % t + 1 = t := by
  have hlt := Nat.mod_lt j (show 0 < t by omega)
  rw [Nat.add_mod, Nat.mod_eq_of_lt (show 1 < t by omega)]
  by_cases hend : j % t + 1 = t
  · rw [hend, Nat.mod_self]
    exact iff_of_true rfl rfl
  · rw [Nat.mod_eq_of_lt (by omega)]
    exact iff_of_false (by omega) hend

/-- Within two revolutions only the first ends on a tooth count that is complete. -/
lemma eq_teeth_of_mod {t : ℕ} (hj : j + 1 < 2 * t) (h : (j + 1) % t = 0) : j + 1 = t :=
  Nat.eq_of_dvd_of_lt_two_mul j.succ_ne_zero (Nat.dvd_of_mod_eq_zero h) hj

variable (hs : Advancing config s n) (ht : 2 ≤ s.teeth)
  (hmode : config.secondary.mode = .singleToothCam) (hk : k₀ + j < n) (h : Validated config s k₀ j d)
include hs hmode hk h

lemma Validated.camStep : CamStep d (d.ingestPrimaryEdge (s.timestamp (k₀ + (j + 1)))).1 := by
  obtain ⟨hpass, hne⟩ := hs.measured hk
  refine camStep_ingest h.locked ?_ h.listens.last (h.listens.inv.spacing h.locked)
    (h.listens.config.symm ▸ hpass) hne
  rw [h.listens.config, hmode]
  decide

include ht

/-- One edge more within the two revolutions, if the lock is kept. -/
lemma Validated.next (hj : j + 1 < 2 * s.teeth)
    (hl : (d.ingestPrimaryEdge (s.timestamp (k₀ + (j + 1)))).1.primaryLocked = true) :
    Validated config s k₀ (j + 1) (d.ingestPrimaryEdge (s.timestamp (k₀ + (j + 1)))).1 := by
  have hlistens := h.listens.next hs hk
  have hcounted := h.listens.inv.counted h.locked
  have htooth := h.tooth
  have hseen := h.seen
  have hteeth := h.listens.teeth
  have hstep := h.camStep hs hmode hk
  generalize (d.ingestPrimaryEdge (s.timestamp (k₀ + (j + 1)))).1 = d' at *
  cases hstep with
  | gap hcount hlocked hone hunseen hphase hloss hreport =>
    -- the end of the first revolution: the cam edge lies between the gaps
    have hend : (j + 1) % s.teeth = 0 := by
      rw [mod_succ_eq_zero_iff ht, ← htooth, ← hcounted, hcount, hteeth]
    have hfirst : j + 1 = s.teeth := eq_teeth_of_mod hj hend
    have hvalid : d'.phaseValidated = true := by
      rw [hphase, h.phase, hseen.mpr (by omega)]
      rfl
    exact {
      listens := hlistens
      locked := hlocked
      tooth := by rw [hone, hend]; rfl
      phase := hvalid
      report := by rw [hreport, if_pos hvalid]
      seen := iff_of_false (by rw [hunseen]; exact Bool.false_ne_true) (by omega) }
  | tooth hcount hlocked hone hsame hphase hloss hreport =>
    have hlt : j % s.teeth + 1 < s.teeth := by
      rw [← htooth, ← hteeth]
      exact UInt8.lt_iff_toNat_lt.mp hcount
    have hmid : (j + 1) % s.teeth = j % s.teeth + 1 := by
      rw [Nat.add_mod, Nat.mod_eq_of_lt (show 1 < s.teeth by omega), Nat.mod_eq_of_lt hlt]
    have hvalid : d'.phaseValidated = true := hphase.trans h.phase
    have hnot : j + 1 ≠ s.teeth := fun he => by
      rw [he, Nat.mod_self] at hmid
      omega
    exact {
      listens := hlistens
      locked := hlocked
      tooth := by
        rw [hone, hmid, toNat_satAdd8_one (UInt8.lt_iff_toNat_lt.mp hcount)
          d.observedTeeth.toNat_lt, htooth]
      phase := hvalid
      report := by rw [hreport, if_pos hvalid]
      seen := by
        rw [hsame, hseen]
        omega }
  | lost hunlocked _ => exact nomatch hunlocked.symm.trans hl

/-- No edge of the two revolutions notes a missing cam tooth. -/
lemma Validated.not_timesOut (hj : j + 1 < 2 * s.teeth) :
    ¬ TimesOut d (s.timestamp (k₀ + (j + 1))) := by
  obtain ⟨hpass, hne⟩ := hs.measured hk
  have hmode' : d.config.secondary.mode ≠ .none := by
    rw [h.listens.config, hmode]
    decide
  refine TrigCam.not_timesOut h.locked hmode' h.listens.last (h.listens.inv.spacing h.locked)
    (h.listens.config.symm ▸ hpass) hne ?_
  by_cases hfirst : j < s.teeth
  · exact .inl (h.seen.mpr hfirst)
  · refine .inr fun hcount => ?_
    have hend : (j + 1) % s.teeth = 0 := by
      rw [mod_succ_eq_zero_iff ht, ← h.tooth, ← h.listens.inv.counted h.locked, hcount,
        h.listens.teeth]
    have := eq_teeth_of_mod hj hend
    omega

/-- At the end of the second revolution the phase is lost with the lock or without. -/
lemma Validated.end_invalid (hj : j + 1 = 2 * s.teeth) :
    reportedPhase (d.ingestPrimaryEdge (s.timestamp (k₀ + (j + 1)))).1 ≠ .camValidated720 := by
  intro hreport
  have hvalid := (h.listens.next hs hk).inv.validated hreport
  have hstep := h.camStep hs hmode hk
  cases hstep with
  | gap hcount hlocked hone hunseen hphase hloss hreport' =>
    have hnot : d.secondarySeenSinceGap = false := Bool.eq_false_iff.mpr (h.seen.not.mpr (by omega))
    rw [hnot, Bool.and_false] at hphase
    exact nomatch hphase.symm.trans hvalid.2
  | tooth hcount hlocked hone hsame hphase hloss hreport' =>
    -- the count is complete, so this is no tooth
    have hend : j % s.teeth + 1 = s.teeth := by
      rw [← mod_succ_eq_zero_iff ht, hj]
      exact Nat.mul_mod_left 2 s.teeth
    have hlt := UInt8.lt_iff_toNat_lt.mp hcount
    rw [h.tooth, h.listens.teeth] at hlt
    omega
  | lost hunlocked _ => exact nomatch hunlocked.symm.trans hvalid.1

end validated

/-! ### The stream from a cam edge on -/

section run

variable {config : MissingToothDecoderConfig} {s : EdgeStream} {n k₀ j phase : ℕ}
  {d : MissingToothDecoder}

variable (hnew : tryNew config = .ok d) (hs : Advancing config s n)

variable (hmode : config.secondary.mode = .singleToothCam) (hcam : Cam s phase k₀)
include hnew hs hmode hcam

/-- While the lock is kept, the phase stays valid for two revolutions. -/
lemma validated_before (hone : (reached d s phase k₀).currentTooth = 1)
    (hlocks : ∀ i ≤ j, (reached d s phase (k₀ + i)).primaryLocked = true) (hn : k₀ + j ≤ n)
    (hj : j < 2 * s.teeth) : Validated config s k₀ j (before d s phase (k₀ + j + 1)) := by
  induction j with
  | zero =>
    rw [Nat.add_zero, before_succ_of_cam hcam]
    exact validated_camEdge (hs.two_le hnew) hmode (listens_reached hnew hs hn) (hlocks 0 le_rfl) hone
  | succ j ih =>
    have ht := hs.two_le hnew
    have hbefore := ih (fun i hi => hlocks i (by omega)) (by omega) (by omega)
    rw [before_succ_of_not_cam (not_cam_add hcam (Nat.succ_pos j) hj)]
    exact hbefore.next hs ht hmode (by omega) hj (hlocks (j + 1) le_rfl)

/-- A phase that stays valid keeps the decoder on the wheel, and ends within two revolutions. -/
lemma StaysValid.onWheel (hlock : (reached d s phase k₀).primaryLocked = true) (hk : k₀ ≤ n)
    (h : StaysValid d s phase k₀ n) : OnWheel d s phase k₀ n ∧ n < k₀ + 2 * s.teeth := by
  have ht := hs.two_le hnew
  have hlistens : Listens config s k₀ (reached d s phase k₀) := listens_reached hnew hs hk
  have hone : (reached d s phase k₀).currentTooth = 1 := by
    have hreport := (h k₀ le_rfl hk).2
    rw [before_succ_of_cam hcam] at hreport
    exact tooth_of_report (by rw [hlistens.config, hmode]) hlock hreport
  have hlocks : ∀ i, k₀ + i ≤ n → (reached d s phase (k₀ + i)).primaryLocked = true := by
    intro i hi
    cases i with
    | zero => exact hlock
    | succ i =>
      have hreport := ((h (k₀ + (i + 1)) (by omega) hi).1 (by omega)).1
      exact ((listens_reached hnew hs hi).inv.validated hreport).1
  have hvalid : ∀ j, k₀ + j ≤ n → j < 2 * s.teeth →
      Validated config s k₀ j (before d s phase (k₀ + j + 1)) := fun j hj hlt =>
    validated_before hnew hs hmode hcam hone (fun i hi => hlocks i (by omega)) hj hlt
  have hbound : n < k₀ + 2 * s.teeth := by
    by_contra hge
    obtain ⟨j, hj⟩ : ∃ j, j + 1 = 2 * s.teeth := ⟨2 * s.teeth - 1, by omega⟩
    have hreport := ((h (k₀ + (j + 1)) (by omega) (by omega)).1 (by omega)).1
    exact (hvalid j (by omega) (by omega)).end_invalid hs ht hmode (by omega) hj hreport
  refine ⟨fun k hle hkn => ?_, hbound⟩
  obtain ⟨j, rfl⟩ := Nat.exists_eq_add_of_le hle
  refine ⟨hlocks j hkn, ?_⟩
  rw [index_add_of_cam hcam]
  cases j with
  | zero =>
    rw [Nat.add_zero, hone, Nat.zero_mod]
    rfl
  | succ j =>
    have htooth := (hvalid (j + 1) hkn (by omega)).tooth
    rwa [before_succ_of_not_cam (not_cam_add hcam (Nat.succ_pos j) (by omega))] at htooth

lemma OnWheel.staysValid (hk : k₀ ≤ n) (h : OnWheel d s phase k₀ n) (hn : n < k₀ + 2 * s.teeth) :
    StaysValid d s phase k₀ n := by
  have ht := hs.two_le hnew
  have hone : (reached d s phase k₀).currentTooth = 1 := by
    have htooth := (h k₀ le_rfl hk).2
    rw [hcam.1] at htooth
    exact UInt8.toNat.inj htooth
  have hvalid : ∀ j, k₀ + j ≤ n →
      Validated config s k₀ j (before d s phase (k₀ + j + 1)) := fun j hj =>
    validated_before hnew hs hmode hcam hone
      (fun i hi => (h (k₀ + i) (by omega) (by omega)).1) hj (by omega)
  intro k hle hkn
  obtain ⟨j, rfl⟩ := Nat.exists_eq_add_of_le hle
  refine ⟨fun hlt => ?_, (hvalid j hkn).report⟩
  obtain ⟨i, rfl⟩ : ∃ i, j = i + 1 := ⟨j - 1, by omega⟩
  have hreport := (hvalid (i + 1) hkn).report
  rw [before_succ_of_not_cam (not_cam_add hcam (Nat.succ_pos i) (by omega))] at hreport
  exact ⟨hreport, (hvalid i (by omega)).not_timesOut hs ht hmode (by omega) (by omega)⟩

omit hs hcam

omit hnew in
/-- The cam edge does not disturb a decoder that follows the wheel. -/
lemma tracks_camEdge {k : ℕ} (hindex : s.index k = 1) (h : Tracks config s k d) : Tracks config s k (camEdge d) := by
  have hmode' : d.config.secondary.mode = .singleToothCam := by rw [h.config, hmode]
  have htracking : (camEdge d).tracking = d.tracking := tracking_ingestSecondaryEdge
  have hnotes : (camEdge d).diagnostics.lastSyncLoss = d.diagnostics.lastSyncLoss ∧
      (camEdge d).diagnostics.authority.syncLossCount = d.diagnostics.authority.syncLossCount := by
    cases hl : d.primaryLocked with
    | true =>
      have htooth : d.currentTooth = 1 :=
        UInt8.toNat.inj ((h.tooth (h.locked.mp hl)).1.trans hindex)
      simp only [camEdge, ingestSecondaryEdge, hmode', hl, htooth, ne_eq, not_true_eq_false,
        if_true, if_false]
      exact ⟨rfl, rfl⟩
    | false =>
      simp only [camEdge, ingestSecondaryEdge, hmode', hl, ne_eq, not_true_eq_false,
        Bool.false_eq_true, if_false, and_self]
  have hlocked : (camEdge d).primaryLocked = d.primaryLocked :=
    congrArg Tracking.primaryLocked htracking
  have hcurrent : (camEdge d).currentTooth = d.currentTooth :=
    congrArg Tracking.currentTooth htracking
  have hsince : (camEdge d).teethSinceGap = d.teethSinceGap :=
    congrArg Tracking.teethSinceGap htracking
  exact {
    loss := by rw [hnotes.1]; exact h.loss
    losses := hnotes.2.trans h.losses
    config := (congrArg Tracking.config htracking).trans h.config
    teeth := (congrArg (fun t => t.observedTeeth.toNat) htracking).trans h.teeth
    last := (congrArg Tracking.lastEdgeTimestamp htracking).trans h.last
    previous := (congrArg (fun t => t.previousInterval.toNat) htracking).trans h.previous
    normal := (congrArg Tracking.lastNormalInterval htracking).trans
      (h.normal.trans (congrArg Tracking.previousInterval htracking).symm)
    locked := by rw [hlocked]; exact h.locked
    tooth := by rw [hcurrent, hsince]; exact h.tooth }

lemma tracks_reached (hs : Real config s n) (hset : Settled config s n) {k : ℕ} (hk : k ≤ n) :
    Tracks config s k (reached d s phase k) := by
  obtain ⟨-, -, hobserved, -, hinitial⟩ := tryNew_ok hnew
  have ht : 2 ≤ s.teeth := hs.teeth ▸ UInt8.le_iff_toNat_le.mp hobserved
  induction k with
  | zero =>
    rw [hinitial]
    exact (tracks_first hs.teeth).1
  | succ k ih =>
    have hbefore : Tracks config s k (before d s phase (k + 1)) := by
      by_cases hcam : Cam s phase k
      · rw [before_succ_of_cam hcam]
        exact tracks_camEdge hmode hcam.1 (ih (by omega))
      · rw [before_succ_of_not_cam hcam]
        exact ih (by omega)
    exact (hbefore.next hs ht hset hk).1

/-- A wheel the threshold fits is followed from the lock on. -/
lemma onWheel_of_real (hs : Real config s n) (hset : Settled config s n)
    (hlock : (reached d s phase k₀).primaryLocked = true) (hk : k₀ ≤ n) :
    OnWheel d s phase k₀ n := by
  intro k hle hkn
  have htracks : Tracks config s k (reached d s phase k) := tracks_reached hnew hmode hs hset hkn
  have hseen : s.GapSeen k := by
    obtain ⟨j, hj, hgap⟩ := (tracks_reached hnew hmode hs hset hk).locked.mp hlock
    exact ⟨j, by omega, hgap⟩
  exact ⟨htracks.locked.mpr hseen, (htracks.tooth hseen).1⟩

end run

/-- **The phase of a four-stroke engine.** After a cam edge that finds the decoder locked, the
phase stays valid up to edge `n`, and no missing cam tooth is noted, exactly when the decoder
follows the wheel and the second revolution is not completed. A wheel whose gap the threshold
tells from its teeth is followed. -/
theorem cam_phase_valid_iff {config : MissingToothDecoderConfig} {d : MissingToothDecoder}
    (hnew : tryNew config = .ok d) (hmode : config.secondary.mode = .singleToothCam)
    {s : EdgeStream} {n : ℕ} (hs : Advancing config s n) {phase k₀ : ℕ} (hcam : Cam s phase k₀)
    (hlock : (reached d s phase k₀).primaryLocked = true) (hk : k₀ ≤ n) :
    (StaysValid d s phase k₀ n ↔ OnWheel d s phase k₀ n ∧ n < k₀ + 2 * s.teeth) ∧
      (Real config s n → Settled config s n → OnWheel d s phase k₀ n) :=
  ⟨⟨fun h => h.onWheel hnew hs hmode hcam hlock hk,
    fun h => h.1.staysValid hnew hs hmode hcam hk h.2⟩,
    fun hreal hset => onWheel_of_real hnew hmode hreal hset hlock hk⟩

/-- A 4-1 wheel on the crank with a single cam tooth. -/
def camFourMinusOne : MissingToothDecoderConfig :=
  { fourMinusOne with secondary := ⟨.singleToothCam, .rising, .activeHigh⟩ }

/-- The wheel at constant speed, from the gap tooth on: a tooth each 100 ticks. -/
def steady : EdgeStream := ⟨3, 0, fun k => (k + k / 3) * 100⟩

theorem cam_phase_valid_iff_steady :
    (reached (initial camFourMinusOne 3) steady 1 3).primaryLocked = true ∧
      StaysValid (initial camFourMinusOne 3) steady 1 3 8 := by
  have hnew : tryNew camFourMinusOne = .ok (initial camFourMinusOne 3) := rfl
  have hlock : (reached (initial camFourMinusOne 3) steady 1 3).primaryLocked = true := by
    decide +kernel
  have hadvancing : Advancing camFourMinusOne steady 8 := ⟨rfl, by decide, by decide, by decide⟩
  have hreal : Real camFourMinusOne steady 8 := ⟨hadvancing, by decide, by decide⟩
  obtain ⟨hiff, hwheel⟩ := cam_phase_valid_iff hnew rfl hadvancing (by decide) hlock (by decide)
  exact ⟨hlock, hiff.mpr ⟨hwheel hreal (by decide), by decide⟩⟩

/-- The cam edge after edge 3 validates the phase. At edge 9, the second gap after it and the tooth
the next cam edge follows, the decoder misses the cam tooth. -/
theorem second_gap_takes_phase_back :
    tryNew camFourMinusOne = .ok (initial camFourMinusOne 3) ∧
      camFourMinusOne.primarySpeed = .crank ∧
      Real camFourMinusOne steady 9 ∧ Cam steady 1 3 ∧ Cam steady 1 9 ∧
      reportedPhase (before (initial camFourMinusOne 3) steady 1 4) = .camValidated720 ∧
      reportedPhase (reached (initial camFourMinusOne 3) steady 1 9) = .crankOnly360 ∧
      TimesOut (before (initial camFourMinusOne 3) steady 1 9) (steady.timestamp 9) := by
  refine ⟨rfl, rfl, ⟨⟨rfl, ?_, ?_, ?_⟩, ?_, ?_⟩, ?_, ?_, ?_, ?_, ?_⟩
  any_goals decide +kernel
  unfold TimesOut
  decide +kernel

end Pipoco.TrigCam
