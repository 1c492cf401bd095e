import Pipoco.SemArbiter

/-!
Acceleration enrichment over whole runs.

The enrichment compares load and manifold pressure with remembered ones, and no evaluation ever
remembers: the comparison is with the values the run started from. So a load that stays where it
is may be taken for a jump at every step.
-/

namespace Pipoco.SemAe

open Domain Runs SemFuel

variable {cal : RuntimeSemanticCalibration} {input first : RuntimeSemanticInputSnapshot}
  {s next start : RuntimeSemanticState} {obs : RuntimeSemanticFuelObservations}

def away (now remembered : UInt16) : ℕ := ((now.toNat : ℤ) - remembered.toNat).natAbs

variable (cal)

def loadThreshold (rpm : Rpm) : ℕ := (semanticCurveLookup cal.aeTpsThresholdCurve rpm).toNat

def mapThreshold (loadKpa10 : Kpa10) : ℕ :=
  (semanticCurveLookup cal.aeMapThresholdCurve loadKpa10).toNat

variable (input s) in
/-- Load or pressure is at least its threshold away from the remembered one. -/
def triggered : Bool :=
  away input.loadKpa10 s.lastValidLoadKpa10 ≥ loadThreshold cal input.rpm ||
    away input.mapKpa10 s.lastValidMapKpa10 ≥ mapThreshold cal input.loadKpa10

variable {cal}

/-! ### One evaluation -/

inductive AeStep (cal : RuntimeSemanticCalibration) (input : RuntimeSemanticInputSnapshot)
    (s next : RuntimeSemanticState) : Prop
  | shot (htriggered : triggered cal input s = true)
  | decays (htriggered : triggered cal input s = false)
      (hleft : 0 < s.aeDecayStepsRemaining.toNat)
      (hnext : next.aeDecayStepsRemaining.toNat + 1 = s.aeDecayStepsRemaining.toNat)
  | ends (htriggered : triggered cal input s = false)
      (hnext : next.aeDecayStepsRemaining.toNat = 0) (hactive : next.aeActive = false)
      (hpulse : next.aePulseUs = 0)

lemma aeStep_evaluateAe : AeStep cal input s (evaluateAe cal input s) := by
  have hunfold : evaluateAe cal input s = if triggered cal input s = true then
      { s with
        aePulseUs := semanticCurveLookup cal.aeShotCurveUs input.loadKpa10
        aeDecayStepsRemaining :=
          (semanticCurveLookup cal.aeDecayStepsCurve input.loadKpa10).toUInt16
        aeActive := true }
    else if s.aeDecayStepsRemaining > 0 then
      { s with
        aePulseUs := mulRatioX1000Floor s.aePulseUs
          (semanticCurveLookup cal.aeDecayRatioCurveX1000 (s.aeDecayStepsRemaining - 1))
        aeDecayStepsRemaining := s.aeDecayStepsRemaining - 1 }
    else { s with aePulseUs := 0, aeActive := false } := rfl
  cases ht : triggered cal input s with
  | true => exact .shot ht
  | false =>
    rw [hunfold, ht, if_neg Bool.false_ne_true]
    by_cases hleft : s.aeDecayStepsRemaining > 0
    · have hpos : 0 < s.aeDecayStepsRemaining.toNat := UInt16.lt_iff_toNat_lt.mp hleft
      have hone : (1 : UInt16) ≤ s.aeDecayStepsRemaining := UInt16.le_iff_toNat_le.mpr hpos
      rw [if_pos hleft]
      refine .decays ht hpos ?_
      show (s.aeDecayStepsRemaining - 1).toNat + 1 = _
      rw [UInt16.toNat_sub_of_le _ _ hone]
      exact Nat.sub_add_cancel hpos
    · rw [if_neg hleft]
      have hzero : ¬ 0 < s.aeDecayStepsRemaining.toNat := fun h =>
        hleft (UInt16.lt_iff_toNat_lt.mpr h)
      exact .ends ht (Nat.eq_zero_of_not_pos hzero) rfl rfl

lemma aeStep_evaluated (h : evaluated cal s input = some (obs, next)) :
    AeStep cal input s next := by
  obtain ⟨-, -, -, -, hactive, hpulse, hremaining⟩ := evaluated_frame h
  cases (aeStep_evaluateAe : AeStep cal input s (evaluateAe cal input s)) with
  | shot ht => exact .shot ht
  | decays ht hleft hnext => exact .decays ht hleft (hremaining ▸ hnext)
  | ends ht hnext ha hp => exact .ends ht (hremaining ▸ hnext) (hactive.trans ha) (hpulse.trans hp)

/-! ### Runs -/

/-- The remembered load and pressure are those of another state. -/
def Remembers (start s : RuntimeSemanticState) : Prop :=
  s.lastValidLoadKpa10 = start.lastValidLoadKpa10 ∧ s.lastValidMapKpa10 = start.lastValidMapKpa10

lemma Remembers.evaluated (hs : Remembers start s)
    (h : evaluated cal s input = some (obs, next)) : Remembers start next := by
  obtain ⟨-, -, hload, hmap, -⟩ := evaluated_frame h
  exact ⟨hload.trans hs.1, hmap.trans hs.2⟩

variable (start)

lemma remembers_run (inputs : List RuntimeSemanticInputSnapshot) :
    Remembers start (run (carried cal) start inputs) :=
  run_inv (I := Remembers start)
    (fun _ _ hs => carried_inv hs fun _ _ heval => hs.evaluated heval) ⟨rfl, rfl⟩ inputs

variable (cal)

def withCount :
    RuntimeSemanticState × ℕ → RuntimeSemanticInputSnapshot → RuntimeSemanticState × ℕ :=
  carriedWith cal fun _ left _ _ => left - 1

/-- The state after the step from which on load and pressure stay, with the decay steps it
leaves. -/
def settled (before : List RuntimeSemanticInputSnapshot) (first : RuntimeSemanticInputSnapshot) :
    RuntimeSemanticState × ℕ :=
  let s := run (carried cal) start (before ++ [first])
  (s, s.aeDecayStepsRemaining.toNat)

/-- The evaluation does not trigger, and with the decay steps counted down the enrichment is
off. -/
def Ending (w : RuntimeSemanticState × ℕ) (input : RuntimeSemanticInputSnapshot) : Prop :=
  ∀ obs next, evaluated cal w.1 input = some (obs, next) →
    triggered cal input w.1 = false ∧ (w.2 = 0 → next.aeActive = false ∧ next.aePulseUs = 0)

/-- Where load and pressure stay is less than the thresholds away from where the run started. -/
def Near (first : RuntimeSemanticInputSnapshot) (w : RuntimeSemanticState × ℕ)
    (input : RuntimeSemanticInputSnapshot) : Prop :=
  (evaluated cal w.1 input).isSome →
    away first.loadKpa10 start.lastValidLoadKpa10 < loadThreshold cal input.rpm ∧
      away first.mapKpa10 start.lastValidMapKpa10 < mapThreshold cal first.loadKpa10
  deriving Decidable

variable {cal}

def SameLoad (first input : RuntimeSemanticInputSnapshot) : Prop :=
  input.loadKpa10 = first.loadKpa10 ∧ input.mapKpa10 = first.mapKpa10

/-- The start is remembered, and no more decay steps are left than the count says. -/
def Decaying (w : RuntimeSemanticState × ℕ) : Prop :=
  Remembers start w.1 ∧ w.1.aeDecayStepsRemaining.toNat ≤ w.2

variable {start}

lemma triggered_eq_false_iff (hs : Remembers start s) (hsame : SameLoad first input) :
    triggered cal input s = false ↔
      away first.loadKpa10 start.lastValidLoadKpa10 < loadThreshold cal input.rpm ∧
        away first.mapKpa10 start.lastValidMapKpa10 < mapThreshold cal first.loadKpa10 := by
  rw [triggered, hs.1, hs.2, hsame.1, hsame.2, Bool.or_eq_false_iff, decide_eq_false_iff_not,
    decide_eq_false_iff_not, not_le, not_le]

variable {w : RuntimeSemanticState × ℕ}

lemma ending_iff (hw : Decaying start w) (hsame : SameLoad first input) :
    Ending cal w input ↔ Near cal start first w input := by
  refine forall_evaluated_iff fun obs next heval => ?_
  rw [← triggered_eq_false_iff hw.1 hsame]
  refine and_iff_left_of_imp fun hquiet hzero => ?_
  cases aeStep_evaluated heval with
  | shot ht => exact nomatch hquiet.symm.trans ht
  | decays _ hleft _ =>
    have hle : w.1.aeDecayStepsRemaining.toNat ≤ 0 := hzero ▸ hw.2
    omega
  | ends _ _ hactive hpulse => exact ⟨hactive, hpulse⟩

lemma Decaying.step (hw : Decaying start w) (h : Ending cal w input) :
    Decaying start (withCount cal w input) := by
  refine carriedWith_inv hw fun obs next heval => ⟨hw.1.evaluated heval, ?_⟩
  have hle : w.1.aeDecayStepsRemaining.toNat ≤ w.2 := hw.2
  show next.aeDecayStepsRemaining.toNat ≤ w.2 - 1
  cases aeStep_evaluated heval with
  | shot ht => exact nomatch (h obs next heval).1.symm.trans ht
  | decays _ _ hnext => omega
  | ends _ hnext _ _ => omega

/-- **Whether the enrichment ends.** Of load and pressure that stay from a step on: no later
evaluation triggers, and the enrichment is off once the decay steps left at that step have been
counted down, exactly if at every later evaluation they are less than the thresholds away from
the values the run started from. -/
theorem enrichment_ends_iff {cal : RuntimeSemanticCalibration} {start : RuntimeSemanticState}
    {before rest : List RuntimeSemanticInputSnapshot} {first : RuntimeSemanticInputSnapshot}
    (hsame : ∀ input ∈ rest, SameLoad first input) :
    Along (withCount cal) (Ending cal) (settled cal start before first) rest ↔
      Along (withCount cal) (Near cal start first) (settled cal start before first) rest :=
  along_iff_of_inv (I := Decaying start) (L := fun _ input => SameLoad first input)
    (fun _ _ hw hsame => ending_iff hw hsame) (fun _ _ hw _ h => hw.step h)
    ⟨remembers_run start _, le_rfl⟩ (along_of_forall (fun input hmem _ => hsame input hmem) _)

/-- A pressure of 90 kPa is a shot; back at 30 kPa it decays, and is off after two more. -/
theorem enrichment_ends_iff_released :
    (settled roadCalibration {} [cruising 3000 3000 900] (cruising 3000 3000 300)).2 = 1 ∧
      Along (withCount roadCalibration) (Ending roadCalibration)
        (settled roadCalibration {} [cruising 3000 3000 900] (cruising 3000 3000 300))
        [cruising 3000 3000 300, cruising 3000 3000 300, cruising 3000 3000 300] :=
  ⟨by decide +kernel, (enrichment_ends_iff (fun input hmem => by
    simp only [List.mem_cons, List.not_mem_nil, or_false, or_self] at hmem
    rw [hmem]
    exact ⟨rfl, rfl⟩)).mpr (by decide +kernel)⟩

/-- Held at 90 kPa, with thresholds of 50 kPa and two decay steps, the enrichment is triggered
again at every step. -/
theorem steady_load_triggers_again :
    let held := cruising 3000 3000 900
    loadThreshold roadCalibration held.rpm = 500 ∧
      mapThreshold roadCalibration held.loadKpa10 = 500 ∧
      (settled roadCalibration {} [] held).2 = 2 ∧
      Along (carried roadCalibration) (fun s input => (evaluated roadCalibration s input).isSome ∧
        triggered roadCalibration input s = true) {} (List.replicate 6 held) ∧
      (run (carried roadCalibration) {} (List.replicate 6 held)).aeActive = true ∧
      (run (carried roadCalibration) {} (List.replicate 6 held)).aePulseUs = 800 := by
  decide +kernel

end Pipoco.SemAe
