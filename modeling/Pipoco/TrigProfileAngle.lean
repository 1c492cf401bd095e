import Pipoco.TrigProfiled

/-!
Two crank angles.

The profile layer has an angle formula of its own. It starts from the last edge as if that were
the gap, divides the revolution by the teeth that are there and not by those the wheel is cut for,
and compares timestamps as plain numbers. Any of these is enough for the two angles to differ, so
they agree over all runs only where neither is defined.
-/

namespace Pipoco.TrigDecoder

open Domain Runs TrigCoherence

/-! ### Wheels that can lock -/

namespace MissingToothDecoder

variable (c : MissingToothDecoderConfig)

/-- There are spacings that pass the edge filter, the second of which is long against the first. -/
def Lockable : Prop :=
  max c.minimumEdgeInterval.toNat 1 * c.normalizedGapThresholdX1000.toNat ≤ (2 ^ 32 - 1) * 1000
  deriving Decidable

/-- A search that has not ended: what it compares with has passed the filter. -/
structure Searches (t : Tracking) : Prop where
  unlocked : t.primaryLocked = false
  passed : t.previousInterval ≠ 0 → t.config.minimumEdgeInterval.toNat ≤ t.previousInterval.toNat

section search

variable {c : MissingToothDecoderConfig} {d d' : MissingToothDecoder} {timestamp : Ticks}
  {edge : TriggerEdge} {result : Except SyncLossReason MissingToothDecoderEvent}

lemma Searches.primaryStep (hlock : ¬ Lockable c) (hconfig : d.config = c)
    (hd : Searches d.tracking) (hstep : PrimaryStep d timestamp edge d' result) :
    Searches d'.tracking := by
  have hunlocked : d.primaryLocked = false := hd.unlocked
  cases hstep with
  | otherKind _ h | filtered _ _ h => exact h ▸ hd
  | firstEdge _ h =>
    rw [h]
    exact ⟨hd.unlocked, hd.passed⟩
  | unmeasured _ _ hfilter _ h =>
    rw [h]
    exact ⟨hd.unlocked, fun _ => UInt32.le_iff_toNat_le.mp (UInt32.not_lt.mp hfilter)⟩
  | gap _ hprevious hlong _ _ =>
    -- a long spacing after one that passed the filter makes the wheel lockable
    refine absurd ?_ hlock
    have hpassed := hd.passed hprevious
    have hpos : d.previousInterval.toNat ≠ 0 := fun hz => hprevious (UInt32.toNat.inj hz)
    have hprev : max c.minimumEdgeInterval.toNat 1 ≤ d.previousInterval.toNat :=
      max_le (hconfig ▸ hpassed) (Nat.one_le_iff_ne_zero.mpr hpos)
    have hlt := (elapsedTicks timestamp ‹Ticks›).toNat_lt
    unfold LongSpacing at hlong
    rw [hconfig] at hlong
    calc max c.minimumEdgeInterval.toNat 1 * c.normalizedGapThresholdX1000.toNat
        ≤ d.previousInterval.toNat * c.normalizedGapThresholdX1000.toNat :=
          Nat.mul_le_mul_right _ hprev
      _ ≤ _ := hlong
      _ ≤ (2 ^ 32 - 1) * 1000 := Nat.mul_le_mul_right _ (by omega)
  | tooth _ _ _ hlocked _ _ => exact nomatch hunlocked.symm.trans hlocked
  | searched _ hfilter _ _ h =>
    rw [h]
    exact ⟨hd.unlocked, fun _ => UInt32.le_iff_toNat_le.mp (UInt32.not_lt.mp hfilter)⟩
  | lost hlocked _ => exact nomatch hunlocked.symm.trans hlocked

/-- A wheel that is not lockable is searched for ever. -/
lemma searches_run (hlock : ¬ Lockable c) (hnew : tryNew c = .ok d) (ops : List DecoderOp) :
    Searches (run step d ops).tracking := by
  obtain ⟨-, -, -, -, rfl⟩ := tryNew_ok hnew
  have hinitial : Searches (initial c (c.nominalTeeth - c.missingTeeth)).tracking :=
    ⟨rfl, fun h => absurd rfl h⟩
  have hinv : (run step _ ops).config = c ∧ Searches (run step _ ops).tracking := run_inv
    (I := fun d : MissingToothDecoder => d.config = c ∧ Searches d.tracking)
    (fun d op hd => by
      refine ⟨(config_step d op).trans hd.1, ?_⟩
      cases op with
      | primaryEdge timestamp edge =>
        exact hd.2.primaryStep hlock hd.1 (primaryStep_ingest d timestamp edge)
      | secondaryEdge edge => exact (tracking_ingestSecondaryEdge (d := d)).symm ▸ hd.2
      | secondaryLevel level => exact (tracking_ingestSecondaryLevel (d := d) level).symm ▸ hd.2
      | reset => exact ⟨rfl, fun h => absurd rfl h⟩) ⟨rfl, hinitial⟩ ops
  exact hinv.2

end search

/-! ### A lock right before the rollover -/

/-- The widest first spacing that the longest second spacing is still a gap after. -/
def widest : ℕ := min (2 ^ 32 - 1) ((2 ^ 32 - 1) * 1000 / c.normalizedGapThresholdX1000.toNat)

/-- Edges at `0`, at the widest spacing before it and at the last tick before the rollover. -/
def rolloverTimes : List Ticks := [-UInt32.ofNat (widest c), 0, -1]

section lock

variable {c : MissingToothDecoderConfig} {d : MissingToothDecoder} {last : Ticks}

variable (c) in
lemma threshold_pos : 0 < c.normalizedGapThresholdX1000.toNat := by
  unfold MissingToothDecoderConfig.normalizedGapThresholdX1000
  split_ifs with h
  · decide
  · exact Nat.pos_of_ne_zero fun hz => h (UInt16.toNat.inj hz)

lemma le_widest (h : Lockable c) : max c.minimumEdgeInterval.toNat 1 ≤ widest c := by
  have hmin := c.minimumEdgeInterval.toNat_lt
  exact le_min (by omega) ((Nat.le_div_iff_mul_le (threshold_pos c)).mpr h)

variable (c)

/-- The widest spacing is longer than any tooth is wide. -/
lemma width_le_widest : 306000 ≤ widest c := by
  have hlt := c.normalizedGapThresholdX1000.toNat_lt
  refine le_min (by decide) ((Nat.le_div_iff_mul_le (threshold_pos c)).mpr ?_)
  calc 306000 * c.normalizedGapThresholdX1000.toNat ≤ 306000 * 65536 :=
        Nat.mul_le_mul_left _ (by omega)
    _ ≤ (2 ^ 32 - 1) * 1000 := by decide

lemma toNat_widest : (UInt32.ofNat (widest c)).toNat = widest c :=
  UInt32.toNat_ofNat_of_lt' (Nat.lt_of_le_of_lt (min_le_left _ _) (by decide))

variable {c}

lemma tracking_first (hlast : d.lastEdgeTimestamp = none) (hl : d.primaryLocked = false)
    (timestamp : Ticks) :
    (d.ingestPrimaryEdge timestamp).1.tracking =
      { d.tracking with lastEdgeTimestamp := some timestamp } := by
  have hstep := primaryStep_ingest d timestamp d.config.primaryEdge
  show (d.ingestPrimaryEdgeWithKind timestamp d.config.primaryEdge).1.tracking = _
  generalize (d.ingestPrimaryEdgeWithKind timestamp d.config.primaryEdge).2 = result at hstep
  cases hstep with
  | otherKind hkind _ => exact absurd rfl hkind
  | firstEdge _ h => exact h
  | lost hlocked _ => exact nomatch hl.symm.trans hlocked
  | filtered h _ _ | unmeasured _ h _ _ _ | gap h _ _ _ _ | tooth h _ _ _ _ _
  | searched h _ _ _ _ => exact absurd (hlast.symm.trans h) (Option.some_ne_none _).symm

/-- An edge of a search that is not filtered ends the search, or is taken as a tooth if it is not
long against the one before it or there is nothing to compare. -/
lemma search_cases (hlast : d.lastEdgeTimestamp = some last) (hl : d.primaryLocked = false)
    (timestamp : Ticks) (hfilter : ¬ elapsedTicks timestamp last < d.config.minimumEdgeInterval) :
    ((d.previousInterval = 0 ∨ elapsedTicks timestamp last = 0 ∨
        ¬ d.LongSpacing (elapsedTicks timestamp last)) ∧
      (d.ingestPrimaryEdge timestamp).1.tracking =
        d.tracking.spaced timestamp (elapsedTicks timestamp last)) ∨
    (d.previousInterval ≠ 0 ∧
      (d.ingestPrimaryEdge timestamp).1.tracking = d.tracking.atGap timestamp) := by
  have hstep := primaryStep_ingest d timestamp d.config.primaryEdge
  generalize (d.ingestPrimaryEdgeWithKind timestamp d.config.primaryEdge).2 = result at hstep
  cases hstep with
  | otherKind hkind _ => exact absurd rfl hkind
  | firstEdge h _ => exact nomatch hlast.symm.trans h
  | filtered h hshort _ =>
    cases hlast.symm.trans h
    exact absurd hshort hfilter
  | unmeasured _ h _ hzero htracking =>
    cases hlast.symm.trans h
    exact .inl ⟨hzero.imp_right .inl, htracking⟩
  | gap _ hprevious _ _ htracking => exact .inr ⟨hprevious, htracking⟩
  | tooth _ _ _ hlocked _ _ => exact nomatch hl.symm.trans hlocked
  | searched h _ hshort _ htracking =>
    cases hlast.symm.trans h
    exact .inl ⟨.inr (.inr hshort), htracking⟩
  | lost hlocked _ => exact nomatch hl.symm.trans hlocked

lemma tracking_second (hlast : d.lastEdgeTimestamp = some last) (hl : d.primaryLocked = false)
    (hprevious : d.previousInterval = 0) (timestamp : Ticks)
    (hfilter : ¬ elapsedTicks timestamp last < d.config.minimumEdgeInterval) :
    (d.ingestPrimaryEdge timestamp).1.tracking =
      d.tracking.spaced timestamp (elapsedTicks timestamp last) := by
  rcases search_cases hlast hl timestamp hfilter with ⟨-, htracking⟩ | ⟨hne, -⟩
  · exact htracking
  · exact absurd hprevious hne

lemma tracking_third (hlast : d.lastEdgeTimestamp = some last) (hl : d.primaryLocked = false)
    (hprevious : d.previousInterval ≠ 0) (timestamp : Ticks)
    (hfilter : ¬ elapsedTicks timestamp last < d.config.minimumEdgeInterval)
    (hinterval : elapsedTicks timestamp last ≠ 0)
    (hlong : d.LongSpacing (elapsedTicks timestamp last)) :
    (d.ingestPrimaryEdge timestamp).1.tracking = d.tracking.atGap timestamp := by
  rcases search_cases hlast hl timestamp hfilter with ⟨hnone, -⟩ | ⟨-, htracking⟩
  · rcases hnone with hzero | hzero | hshort
    · exact absurd hzero hprevious
    · exact absurd hzero hinterval
    · exact absurd hlong hshort
  · exact htracking

/-- After the three edges the wheel is locked at its first tooth, one tick before the rollover. -/
lemma tracking_rollover (hlock : Lockable c) (hconfig : d.config = c)
    (hlast : d.lastEdgeTimestamp = none) (hl : d.primaryLocked = false)
    (hprevious : d.previousInterval = 0) :
    let locked := run (fun d t => (d.ingestPrimaryEdge t).1) d (rolloverTimes c)
    locked.config = c ∧ locked.primaryLocked = true ∧ locked.currentTooth = 1 ∧
      locked.lastEdgeTimestamp = some (-1) ∧
      locked.lastNormalInterval = UInt32.ofNat (widest c) := by
  intro locked
  have hwidest := toNat_widest c
  have hmin := le_widest hlock
  set first := (d.ingestPrimaryEdge (-UInt32.ofNat (widest c))).1 with hfirst
  have h₁ := tracking_first hlast hl (-UInt32.ofNat (widest c))
  have hconfig₁ : first.config = c := (congrArg Tracking.config h₁).trans hconfig
  -- the second spacing is the widest
  have hspacing : elapsedTicks 0 (-UInt32.ofNat (widest c)) = UInt32.ofNat (widest c) := by
    rw [elapsedTicks, UInt32.zero_sub, UInt32.neg_neg]
  have h₂ := tracking_second (d := first)
    (congrArg Tracking.lastEdgeTimestamp h₁) ((congrArg Tracking.primaryLocked h₁).trans hl)
    ((congrArg Tracking.previousInterval h₁).trans hprevious) 0 (by
      rw [hspacing, hconfig₁, UInt32.lt_iff_toNat_lt, hwidest]
      omega)
  rw [hspacing] at h₂
  set second := (first.ingestPrimaryEdge 0).1 with hsecond
  have hconfig₂ : second.config = c := (congrArg Tracking.config h₂).trans hconfig₁
  have hprevious₂ : second.previousInterval = UInt32.ofNat (widest c) :=
    congrArg Tracking.previousInterval h₂
  -- the third is the longest there is
  have hlongest : (elapsedTicks (-1) 0).toNat = 2 ^ 32 - 1 := rfl
  have h₃ := tracking_third (d := second)
    (congrArg Tracking.lastEdgeTimestamp h₂)
    ((congrArg Tracking.primaryLocked h₂).trans ((congrArg Tracking.primaryLocked h₁).trans hl))
    (fun hz => by
      have := congrArg UInt32.toNat (hprevious₂.symm.trans hz)
      have hzero : (0 : UInt32).toNat = 0 := rfl
      omega)
    (-1)
    (by
      have := c.minimumEdgeInterval.toNat_lt
      rw [hconfig₂, UInt32.lt_iff_toNat_lt, hlongest]
      omega)
    (by decide)
    (by
      unfold LongSpacing
      rw [hprevious₂, hconfig₂, hwidest, hlongest]
      calc widest c * c.normalizedGapThresholdX1000.toNat
          ≤ (2 ^ 32 - 1) * 1000 / c.normalizedGapThresholdX1000.toNat *
            c.normalizedGapThresholdX1000.toNat := Nat.mul_le_mul_right _ (min_le_right _ _)
        _ ≤ (2 ^ 32 - 1) * 1000 := Nat.div_mul_le_self _ _)
  exact ⟨(congrArg Tracking.config h₃).trans hconfig₂, congrArg Tracking.primaryLocked h₃,
    congrArg Tracking.currentTooth h₃, congrArg Tracking.lastEdgeTimestamp h₃,
    (congrArg Tracking.lastNormalInterval h₃).trans (congrArg Tracking.lastNormalInterval h₂)⟩

end lock

end MissingToothDecoder

/-! ### The two angles -/

namespace ProfiledMissingToothDecoder

open MissingToothDecoder

variable {p : ProfiledMissingToothDecoder} {timestamp : Ticks} {angle : Degrees10}

variable (timestamp p)

/-- The time that the query is compensated to lies between the last edge and one tooth later. -/
def WithinTooth : Prop :=
  p.decoder.elapsed (timestamp - p.profile.latencyUs) ≤ p.decoder.lastNormalInterval.toNat

/-- The angle of the layer is the decoder's, a latency earlier. -/
def Agrees : Prop :=
  p.crankAngleAt timestamp = p.decoder.crankAngleAt (timestamp - p.profile.latencyUs)

variable {timestamp p}

lemma agrees_of_unlocked (h : p.decoder.primaryLocked = false) : Agrees p timestamp := by
  simp [Agrees, crankAngleAt, MissingToothDecoder.crankAngleAt, h]

lemma agrees_of_unknown
    (hsame : p.decoder.config.triggerAngleAtdcDeg10 = p.profile.triggerAngleAtdcDeg10)
    (h : p.profile.triggerAngleAtdcDeg10.angleDeg10 = none) : Agrees p timestamp := by
  simp [Agrees, crankAngleAt, MissingToothDecoder.crankAngleAt, hsame, h,
    TriggerAngleAuthority.normalizedAngleDeg10]

/-- At the first tooth, while the layer takes the time to be no later than the edge, its angle is
that of the tooth and the decoder's has grown by what the speed adds. -/
lemma agrees_iff_dvd {last : Ticks} {added : ℕ} (hl : p.decoder.primaryLocked = true)
    (htooth : p.decoder.currentTooth = 1) (hlast : p.decoder.lastEdgeTimestamp = some last)
    (hle : UInt32.ofNat (timestamp.toNat - p.profile.latencyUs.toNat) ≤ last)
    (hprofile : p.profile.triggerAngleAtdcDeg10.angleDeg10 = some angle)
    (hconfig : p.decoder.config.triggerAngleAtdcDeg10.angleDeg10 = some angle)
    (hadded : p.decoder.elapsed (timestamp - p.profile.latencyUs) * p.decoder.toothAngleDeg10 /
      p.decoder.lastNormalInterval.toNat = added)
    (hsmall : added ≤ 306000) : Agrees p timestamp ↔ 7200 ∣ added := by
  have hoffset : p.decoder.toothOffset = 0 := by
    rw [toothOffset, htooth]
    exact Nat.zero_mul _
  have hstart := startAngle_lt angle
  have hlayer : p.crankAngleAt timestamp = some (normalizeEngineCycleDeg10 angle) := by
    simp only [crankAngleAt, hl, hlast, TriggerAngleAuthority.normalizedAngleDeg10, hprofile, hle,
      Bool.not_true, Bool.false_eq_true, if_false, if_true, Option.map_some, Option.bind_some,
      ite_self]
  have hbelow := crankAngleAt_eq (timestamp - p.profile.latencyUs) hl
    (by rw [htooth]; decide) hconfig
  rw [hoffset, hadded] at hbelow
  have hexact := toInt_crankAngle angle 0 added (by omega)
  have hangle := toInt_normalizeEngineCycleDeg10 angle
  rw [Agrees, hlayer, hbelow, Option.some_inj, ← Int16.toInt_inj, hangle, hexact]
  omega

/-- At the edge of the first tooth itself the two agree. -/
lemma agrees_at_first (htooth : p.decoder.currentTooth = 1)
    (hlast : p.decoder.lastEdgeTimestamp = some (timestamp - p.profile.latencyUs))
    (hsame : p.decoder.config.triggerAngleAtdcDeg10 = p.profile.triggerAngleAtdcDeg10) :
    Agrees p timestamp := by
  cases hl : p.decoder.primaryLocked with
  | false => exact agrees_of_unlocked hl
  | true =>
    cases hangle : p.profile.triggerAngleAtdcDeg10.angleDeg10 with
    | none => exact agrees_of_unknown hsame hangle
    | some angle =>
      refine (agrees_iff_dvd hl htooth hlast ?_ hangle (hsame ▸ hangle) ?_ (Nat.zero_le _)).mpr
        (dvd_zero _)
      · -- a latency that is longer than the time is cut off at zero
        rw [UInt32.le_iff_toNat_le, UInt32.toNat_ofNat']
        rcases Nat.lt_or_ge timestamp.toNat p.profile.latencyUs.toNat with h | h
        · rw [Nat.sub_eq_zero_of_le h.le]
          exact Nat.zero_le _
        · rw [UInt32.toNat_sub_of_le _ _ (UInt32.le_iff_toNat_le.mpr h)]
          exact Nat.mod_le _ _
      · simp [elapsed, hlast, elapsedTicks]

/-- One spacing after the edge the speed has added a tooth's width, and one tick earlier one less. -/
lemma added_widest (width spacing : ℕ) (hpos : 0 < width) (hle : width ≤ spacing) :
    spacing * width / spacing = width ∧ (spacing - 1) * width / spacing = width - 1 := by
  have hspacing : 0 < spacing := by omega
  refine ⟨Nat.mul_div_cancel_left _ hspacing, ?_⟩
  obtain ⟨w, rfl⟩ := Nat.exists_eq_succ_of_ne_zero hpos.ne'
  obtain ⟨k, rfl⟩ := Nat.exists_eq_add_of_le hle
  have hsplit : (w.succ + k - 1) * w.succ = k + w * (w.succ + k) := by
    rw [show w.succ + k - 1 = w + k by omega, Nat.succ_eq_add_one]
    ring
  rw [hsplit, Nat.add_mul_div_right _ _ hspacing, Nat.div_eq_of_lt (by omega)]
  omega

variable (p) in
/-- Primary edges alone, as the decoder below takes them. -/
lemma decoder_run_edges (times : List Ticks) :
    (run step p (times.map .primaryEdge)).decoder =
        run (fun d t => (d.ingestPrimaryEdge t).1) p.decoder times ∧
      (run step p (times.map .primaryEdge)).profile = p.profile := by
  induction times generalizing p with
  | nil => exact ⟨rfl, rfl⟩
  | cons t times ih =>
    obtain ⟨hdecoder, hprofile⟩ := decoder_ingestPrimaryEdge (p := p) t
    obtain ⟨hrun, hsame⟩ := ih (step p (.primaryEdge t))
    rw [List.map_cons, run_cons, run_cons, ← hdecoder]
    exact ⟨hrun, hsame.trans hprofile⟩

/-- The layer over a wheel that can lock and has a known first tooth: the two angles differ, at
the widest spacing after a lock one tick before the rollover or at the tick before that. -/
lemma exists_disagreement {profile : RuntimeMissingToothProfile} {minimum : Ticks}
    {threshold : UInt16} (hnew : tryNew profile minimum threshold = .ok p)
    (hlock : Lockable p.decoder.config)
    (hangle : profile.triggerAngleAtdcDeg10.angleDeg10 = some angle) :
    ∃ ops timestamp, WithinTooth (run step p ops) timestamp ∧
      ¬ Agrees (run step p ops) timestamp := by
  obtain ⟨hdecoder, hprofile, -⟩ := tryNew_ok hnew
  obtain ⟨hrun, hsame⟩ := decoder_run_edges p (rolloverTimes p.decoder.config)
  obtain ⟨-, -, -, -, hinitial⟩ := MissingToothDecoder.tryNew_ok hdecoder
  have hlast₀ : p.decoder.lastEdgeTimestamp = none := by rw [hinitial]; rfl
  have hunlocked : p.decoder.primaryLocked = false := by rw [hinitial]; rfl
  have hprevious : p.decoder.previousInterval = 0 := by rw [hinitial]; rfl
  have hfrom : p.decoder.config = .fromRuntimeProfile profile minimum threshold := by
    rw [hinitial]; rfl
  obtain ⟨hconfig, hl, htooth, hlast, hnormal⟩ :=
    tracking_rollover hlock rfl hlast₀ hunlocked hprevious
  rw [← hrun] at hconfig hl htooth hlast hnormal
  generalize hq : run step p ((rolloverTimes p.decoder.config).map .primaryEdge) = q at *
  have hangle₁ : q.profile.triggerAngleAtdcDeg10.angleDeg10 = some angle := by
    rw [hsame, hprofile, hangle]
  have hangle₂ : q.decoder.config.triggerAngleAtdcDeg10.angleDeg10 = some angle := by
    rw [hconfig, hfrom]
    exact hangle
  have hwidth := toothAngleDeg10_bounds hdecoder (hconfig.trans hfrom)
  have hwide := width_le_widest p.decoder.config
  have hwidest := toNat_widest p.decoder.config
  -- the query `e` ticks after the edge
  have helapsed : ∀ e : Ticks,
      q.decoder.elapsed (e - 1 + q.profile.latencyUs - q.profile.latencyUs) = e.toNat := by
    intro e
    simp only [elapsed, hlast, elapsedTicks, UInt32.add_sub_cancel]
    rw [UInt32.sub_neg, UInt32.sub_add_cancel]
  obtain ⟨hat, hbefore⟩ := added_widest q.decoder.toothAngleDeg10 (widest p.decoder.config)
    (by omega) (by omega)
  by_contra hnone
  push Not at hnone
  have hnone' := hnone ((rolloverTimes p.decoder.config).map .primaryEdge)
  rw [hq] at hnone'
  have hdvd : ∀ (e : Ticks) (added : ℕ), e.toNat ≤ widest p.decoder.config →
      e.toNat * q.decoder.toothAngleDeg10 / widest p.decoder.config = added → added ≤ 306000 →
      7200 ∣ added := by
    intro e added hle hadded hsmall
    -- no time is later than the edge
    have hmax (t : Ticks) : t ≤ -1 :=
      UInt32.le_iff_toNat_le.mpr (Nat.le_of_lt_succ (UInt32.toNat_lt t))
    refine (agrees_iff_dvd hl htooth hlast (hmax _) hangle₁ hangle₂ ?_ hsmall).mp
      (hnone' (e - 1 + q.profile.latencyUs) ?_)
    · rw [helapsed, hnormal, hwidest, hadded]
    · rw [WithinTooth, helapsed, hnormal, hwidest]
      exact hle
  have hpred : (UInt32.ofNat (widest p.decoder.config - 1)).toNat = widest p.decoder.config - 1 :=
    UInt32.toNat_ofNat_of_lt' (Nat.lt_of_le_of_lt (Nat.sub_le _ _)
      (Nat.lt_of_le_of_lt (min_le_left _ _) (by decide)))
  have h₁ := hdvd (UInt32.ofNat (widest p.decoder.config)) _ hwidest.le
    (by rw [hwidest]; exact hat) hwidth.2
  have h₂ := hdvd (UInt32.ofNat (widest p.decoder.config - 1)) (q.decoder.toothAngleDeg10 - 1)
    (by rw [hpred]; omega) (by rw [hpred]; exact hbefore) (by omega)
  omega

end ProfiledMissingToothDecoder

open ProfiledMissingToothDecoder MissingToothDecoder

variable (angle : TriggerAngleAuthority)

/-- **The two angles agree only where neither is defined.** Over all runs of an accepted layer and
all times within a tooth of the last edge, the layer's angle is the decoder's a latency earlier if
and only if the angle of the first tooth is unknown or the wheel can never lock. Of a single query
it is also enough that there is no lock, or that it is for the edge of the first tooth. -/
theorem angles_agree_iff {profile : RuntimeMissingToothProfile} {minimum : Ticks}
    {threshold : UInt16} {p : ProfiledMissingToothDecoder}
    (hnew : ProfiledMissingToothDecoder.tryNew profile minimum threshold = .ok p) :
    ((∀ ops timestamp, WithinTooth (run ProfiledMissingToothDecoder.step p ops) timestamp →
      Agrees (run ProfiledMissingToothDecoder.step p ops) timestamp) ↔
      profile.triggerAngleAtdcDeg10 = .unknown ∨
        ¬ Lockable (.fromRuntimeProfile profile minimum threshold)) ∧
    ∀ ops timestamp, let q := run ProfiledMissingToothDecoder.step p ops
      q.decoder.primaryLocked = false ∨ q.decoder.currentTooth = 1 ∧
        q.decoder.lastEdgeTimestamp = some (timestamp - q.profile.latencyUs) →
      Agrees q timestamp := by
  have hdecoder := (ProfiledMissingToothDecoder.tryNew_ok hnew).1
  obtain ⟨-, -, -, -, hinitial⟩ := MissingToothDecoder.tryNew_ok hdecoder
  have hfrom : p.decoder.config = .fromRuntimeProfile profile minimum threshold := by
    rw [hinitial]; rfl
  have hsame (ops : List ProfiledOp) :
      (run ProfiledMissingToothDecoder.step p ops).decoder.config.triggerAngleAtdcDeg10 =
        (run ProfiledMissingToothDecoder.step p ops).profile.triggerAngleAtdcDeg10 := by
    obtain ⟨hrun, hprofile⟩ := run_below hnew ops
    have hkept := kept_run hdecoder (ops.map (·.below profile.primaryEdge))
    rw [← hrun] at hkept
    rw [hprofile]
    exact congrArg MissingToothDecoderConfig.triggerAngleAtdcDeg10 hkept.config
  refine ⟨⟨?_, ?_⟩, ?_⟩
  · intro h
    by_contra hnot
    obtain ⟨hknown, hlock⟩ := not_or.mp hnot
    obtain ⟨angle, hangle⟩ : ∃ angle, profile.triggerAngleAtdcDeg10.angleDeg10 = some angle := by
      cases hauthority : profile.triggerAngleAtdcDeg10 with
      | unknown => exact absurd hauthority hknown
      | expertManual a | communityProfile a | certifiedProfile a | benchLearned a => exact ⟨a, rfl⟩
    obtain ⟨ops, timestamp, hwithin, hdiffers⟩ :=
      exists_disagreement hnew (hfrom ▸ not_not.mp hlock) hangle
    exact hdiffers (h ops timestamp hwithin)
  · intro h ops timestamp _
    obtain ⟨hrun, hprofile⟩ := run_below hnew ops
    rcases h with hunknown | hlock
    · exact agrees_of_unknown (hsame ops) (by rw [hprofile, hunknown]; rfl)
    · have hsearch := searches_run hlock hdecoder (ops.map (·.below profile.primaryEdge))
      rw [← hrun] at hsearch
      exact agrees_of_unlocked hsearch.unlocked
  · rintro ops timestamp q (hl | ⟨htooth, hlast⟩)
    · exact agrees_of_unlocked hl
    · exact agrees_at_first htooth hlast (hsame ops)

/-- A profile of the 4-1 wheel with its first tooth at top dead centre and no latency. -/
def fourMinusOneProfile : RuntimeMissingToothProfile where
  nominalTeeth := 4
  missingTeeth := 1
  primarySpeed := .crank
  primaryEdge := .rising
  secondary := ⟨.none, .rising, .activeHigh⟩
  triggerAngleAtdcDeg10 := angle
  toothAngleMultiplier := 1
  startup := ⟨0, false⟩
  latency := ⟨0, 0, 0⟩

/-- The layer over a decoder that has seen nothing. -/
def fourMinusOneLayer : ProfiledMissingToothDecoder :=
  ⟨initial (.fromRuntimeProfile (fourMinusOneProfile angle) 0 1500) 3, fourMinusOneProfile angle,
    0, false⟩

theorem angles_agree_iff_unknown :
    let p := run ProfiledMissingToothDecoder.step (fourMinusOneLayer .unknown)
      ([100, 200, 300, 500, 600].map .primaryEdge)
    WithinTooth p 600 ∧ Agrees p 600 := by
  have hwithin : WithinTooth (run ProfiledMissingToothDecoder.step (fourMinusOneLayer .unknown)
      ([100, 200, 300, 500, 600].map .primaryEdge)) 600 := by
    unfold WithinTooth
    decide +kernel
  exact ⟨hwithin, (@angles_agree_iff (fourMinusOneProfile .unknown) 0 1500
    (fourMinusOneLayer .unknown) rfl).1.mpr (.inl rfl) _ _ hwithin⟩

/-- The gap at 500 locks and the second tooth comes at 600. At that very edge the decoder stands at
90 degrees and the layer at 0. -/
theorem second_tooth_angles_differ :
    let p := run ProfiledMissingToothDecoder.step (fourMinusOneLayer (.expertManual 0))
      ([100, 200, 300, 500, 600].map .primaryEdge)
    ProfiledMissingToothDecoder.tryNew (fourMinusOneProfile (.expertManual 0)) 0 1500 =
        .ok (fourMinusOneLayer (.expertManual 0)) ∧
      p.profile.latencyUs = 0 ∧ WithinTooth p 600 ∧
      p.crankAngleAt 600 = some 0 ∧ p.decoder.crankAngleAt 600 = some 900 := by
  refine ⟨rfl, by decide, ?_, ?_, ?_⟩
  · unfold WithinTooth
    decide +kernel
  · decide +kernel
  · decide +kernel

end Pipoco.TrigDecoder
