import Pipoco.SemHardRev

/-!
Launch and flat-shift cuts over whole runs.

The two cycle cuts are meant to cut a number of evaluations and to let one pass, over and over.
The executable specification counts the evaluations for this. The evaluator reads such a count
and never writes it, so while a cut is engaged every evaluation is cut.
-/

namespace Pipoco.SemCycles

open Domain Runs SemFuel SemHardRev

/-! ### The specification -/

variable (cal : RuntimeSemanticCalibration) (input : RuntimeSemanticInputSnapshot)

/-- The cut of an engaged cycle and its next count, in the specification. -/
def cycleStep (cutCycles cutCycleCount : UInt16) : Bool × UInt16 :=
  if cutCycles = 0 then (true, 0)
  else
    let phase := cutCycleCount % satAdd16 cutCycles 1
    (phase < cutCycles, if phase ≥ cutCycles then 0 else satAdd16 cutCycleCount 1)

def launchStep (launchCutCycleCount : UInt16) : Bool × UInt16 :=
  if !input.launchArmed then (false, 0)
  else if input.rpm < cal.launchRpmLimit then (false, 0)
  else cycleStep cal.launchCutCycles launchCutCycleCount

def flatShiftStep (flatShiftCutCycleCount : UInt16) : Bool × UInt16 :=
  if !(input.flatShiftArmed && input.rpm ≥ cal.flatShiftRpmMin) then (false, 0)
  else cycleStep cal.flatShiftCutCycles flatShiftCutCycleCount

section specification

variable {n count : UInt16}

/-- Up to the configured number the count is the phase, and starts again after it. -/
lemma cycleStep_eq (hn : n ≠ 0) (htop : n ≠ 65535) (hcount : count ≤ n) :
    (cycleStep n count).1 = decide (count < n) ∧
      (cycleStep n count).2.toNat = if count < n then count.toNat + 1 else 0 := by
  have hlt : n.toNat < 65535 := by
    have := n.toNat_lt
    have hne : n.toNat ≠ 65535 := fun h => htop (UInt16.toNat.inj h)
    omega
  have hle := UInt16.le_iff_toNat_le.mp hcount
  have hone : (1 : UInt16).toNat = 1 := rfl
  have hsucc : (satAdd16 n 1).toNat = n.toNat + 1 := by
    rw [toNat_satAdd16, hone]
    omega
  have hphase : count % satAdd16 n 1 = count := by
    refine UInt16.toNat.inj ?_
    rw [UInt16.toNat_mod, hsucc, Nat.mod_eq_of_lt (by omega)]
  simp only [cycleStep, hn, if_false, hphase, true_and, ge_iff_le, ← UInt16.not_lt, ite_not]
  split_ifs
  · rw [toNat_satAdd16, hone]
    omega
  · rfl

/-- The count of the specification after `i` engaged evaluations. -/
def specCount (n : UInt16) : ℕ → UInt16
  | 0 => 0
  | i + 1 => (cycleStep n (specCount n i)).2

lemma toNat_specCount (hn : n ≠ 0) (htop : n ≠ 65535) (i : ℕ) :
    (specCount n i).toNat = i % (n.toNat + 1) := by
  induction i with
  | zero => rfl
  | succ i ih =>
    have hmod := Nat.mod_lt i (show 0 < n.toNat + 1 by omega)
    have hle : specCount n i ≤ n := by
      rw [UInt16.le_iff_toNat_le, ih]
      omega
    have hstep : (i + 1) % (n.toNat + 1) = (i % (n.toNat + 1) + 1) % (n.toNat + 1) :=
      (Nat.mod_add_mod i _ 1).symm
    rw [specCount, (cycleStep_eq hn htop hle).2, hstep]
    simp only [UInt16.lt_iff_toNat_lt, ih]
    split_ifs with hlt
    · exact (Nat.mod_eq_of_lt (by omega)).symm
    · rw [show i % (n.toNat + 1) + 1 = n.toNat + 1 by omega, Nat.mod_self]

/-- **The pattern of the specification**: the configured number of cuts, and one without. -/
lemma cut_specCount (hn : n ≠ 0) (htop : n ≠ 65535) (i : ℕ) :
    (cycleStep n (specCount n i)).1 = decide (i % (n.toNat + 1) < n.toNat) := by
  have hcount := toNat_specCount hn htop i
  have hmod := Nat.mod_lt i (show 0 < n.toNat + 1 by omega)
  have hle : specCount n i ≤ n := by
    rw [UInt16.le_iff_toNat_le, hcount]
    omega
  rw [(cycleStep_eq hn htop hle).1]
  simp only [UInt16.lt_iff_toNat_lt, hcount]

end specification

/-! ### The two cuts -/

inductive CycleCut
  | launch | flatShift
  deriving DecidableEq

open CycleCut

namespace CycleCut

variable (cal : RuntimeSemanticCalibration) (input : RuntimeSemanticInputSnapshot)
  (s : RuntimeSemanticState)

def cutCycles : CycleCut → UInt16
  | launch => cal.launchCutCycles
  | flatShift => cal.flatShiftCutCycles

def fromRpm : CycleCut → Rpm
  | launch => cal.launchRpmLimit
  | flatShift => cal.flatShiftRpmMin

def engaged : CycleCut → Bool
  | launch => launchEngaged cal input
  | flatShift => flatShiftEngaged cal input

def phase : CycleCut → Option Bool
  | launch => launchPhase cal input s
  | flatShift => flatShiftPhase cal input s

def active : CycleCut → Bool
  | launch => s.launchActive
  | flatShift => s.flatShiftActive

/-- No cut of higher priority is active. -/
def Clear : CycleCut → Prop
  | launch => Passes cal input s
  | flatShift => Passes cal input s ∧ launchPhase cal input s = some false

instance : (k : CycleCut) → Decidable (k.Clear cal input s)
  | launch => inferInstanceAs (Decidable (Passes cal input s))
  | flatShift => inferInstanceAs (Decidable (_ ∧ _))

def specStep (count : UInt16) : CycleCut → Bool × UInt16
  | launch => launchStep cal input count
  | flatShift => flatShiftStep cal input count

end CycleCut

variable {cal : RuntimeSemanticCalibration} {input : RuntimeSemanticInputSnapshot}
  {s next : RuntimeSemanticState} {obs : RuntimeSemanticFuelObservations} {k : CycleCut}

lemma specStep_of_engaged (h : k.engaged cal input = true) (count : UInt16) :
    k.specStep cal input count = cycleStep (k.cutCycles cal) count := by
  cases k with
  | launch =>
    simp only [engaged, launchEngaged, Bool.and_eq_true, decide_eq_true_eq, ge_iff_le] at h
    simp [specStep, cutCycles, launchStep, h.1, UInt16.not_lt.mpr h.2]
  | flatShift =>
    simp only [engaged, flatShiftEngaged, Bool.and_eq_true, decide_eq_true_eq, ge_iff_le] at h
    simp [specStep, cutCycles, flatShiftStep, h.1, h.2]

/-! ### The counts of the evaluator -/

variable (s) in
def Uncounted : Prop := s.launchCutCycleCount = 0 ∧ s.flatShiftCutCycleCount = 0

lemma uncounted_carried (hs : Uncounted s) (input : RuntimeSemanticInputSnapshot) :
    Uncounted (carried cal s input) := by
  refine carried_inv hs fun obs next heval => ?_
  obtain ⟨hlaunch, hflat, -⟩ := evaluated_frame heval
  exact ⟨hlaunch.trans hs.1, hflat.trans hs.2⟩

lemma uncounted_run (inputs : List RuntimeSemanticInputSnapshot) :
    Uncounted (run (carried cal) {} inputs) :=
  run_inv (I := Uncounted) (fun _ input hs => uncounted_carried hs input) ⟨rfl, rfl⟩ inputs

/-! ### One engaged evaluation -/

lemma cutPhase_zero {n : UInt16} (hn : n ≠ 0) :
    cutPhase true n 0 = if n = 65535 then none else some true := by
  have htop : n + 1 = 0 ↔ n = 65535 :=
    ⟨fun h => UInt16.eq_sub_iff_add_eq.mpr h, fun h => by rw [h]; rfl⟩
  have hpos : 0 < n := UInt16.pos_iff_ne_zero.mpr hn
  simp [cutPhase, hn, htop, hpos]

/-- An engaged cycle is in its cut phase, or divides by zero. -/
lemma phase_of_engaged (hs : Uncounted s) (h : k.engaged cal input = true)
    (hn : k.cutCycles cal ≠ 0) :
    k.phase cal input s = if k.cutCycles cal = 65535 then none else some true := by
  cases k with
  | launch =>
    simp only [phase, launchPhase, hs.1]
    simp only [engaged] at h
    rw [h]
    exact cutPhase_zero hn
  | flatShift =>
    simp only [phase, flatShiftPhase, hs.2]
    simp only [engaged] at h
    rw [h]
    exact cutPhase_zero hn

lemma clear_evaluateAe (h : k.Clear cal input s) : k.Clear cal input (evaluateAe cal input s) := by
  cases k with
  | launch => exact passes_evaluateAe_iff.mpr h
  | flatShift => exact ⟨passes_evaluateAe_iff.mpr h.1, launchPhase_evaluateAe.trans h.2⟩

variable (k) in
lemma phase_evaluateAe : k.phase cal input (evaluateAe cal input s) = k.phase cal input s := by
  cases k with
  | launch => exact launchPhase_evaluateAe
  | flatShift => exact flatShiftPhase_evaluateAe

/-- In its cut phase, and with nothing of higher priority, the cycle cuts both channels. -/
lemma arbitrated_cycle {cut : RuntimeSemanticState} {fuel spark : Bool}
    (hclear : k.Clear cal input s) (hphase : k.phase cal input s = some true)
    (h : Arbitrated cal input s cut fuel spark) :
    k.active cut = true ∧ fuel = true ∧ spark = true := by
  have hpass : Passes cal input s := by
    cases k with
    | launch => exact hclear
    | flatShift => exact hclear.1
  -- one of the cycles is in its cut phase, so the stages below are not reached
  have hcycle : ¬ PassesCycles cal input s := fun hcycles => by
    cases k with
    | launch => exact absurd (Option.some.inj (hphase.symm.trans hcycles.launch)) (by decide)
    | flatShift => exact absurd (Option.some.inj (hphase.symm.trans hcycles.flatShift)) (by decide)
  cases h with
  | direct hd => exact nomatch hpass.direct.symm.trans hd
  | safety _ hl => exact nomatch hpass.safety.symm.trans hl
  | hard _ _ hh => exact nomatch hpass.hard.symm.trans hh
  | launch _ hlaunch =>
    cases k with
    | launch => exact ⟨rfl, rfl, rfl⟩
    | flatShift => exact absurd (Option.some.inj (hclear.2.symm.trans hlaunch)) (by decide)
  | flatShift _ hlaunch _ =>
    cases k with
    | launch => exact absurd (Option.some.inj (hphase.symm.trans hlaunch)) (by decide)
    | flatShift => exact ⟨rfl, rfl, rfl⟩
  | dfco hpasses _ _ | soft hpasses _ _ | noCut hpasses _ _ => exact absurd hpasses hcycle

lemma cut_of_phase (hclear : k.Clear cal input s) (hphase : k.phase cal input s = some true)
    (heval : evaluated cal s input = some (obs, next)) :
    k.active next = true ∧ obs.fuelCut = true ∧ obs.sparkCut = true := by
  obtain ⟨cut, count, lambda, idle, hcut, rfl⟩ := evaluated_state heval
  obtain ⟨hactive, hcuts⟩ := arbitrated_cycle (clear_evaluateAe hclear)
    ((phase_evaluateAe k).trans hphase) hcut
  refine ⟨?_, hcuts⟩
  cases k with
  | launch | flatShift => exact hactive

lemma divides_of_phase (hclear : k.Clear cal input s) :
    k.phase cal input s = none → Divides cal input s := by
  cases k with
  | launch => exact fun hphase => ⟨hclear, .inl hphase⟩
  | flatShift => exact fun hphase => ⟨hclear.1, .inr ⟨hclear.2, hphase⟩⟩

lemma not_divides_of_phase (hphase : k.phase cal input s = some true)
    (hclear : k.Clear cal input s) : ¬ Divides cal input s := by
  cases k with
  | launch =>
    rintro ⟨-, hnone | ⟨hfalse, -⟩⟩
    · exact nomatch hphase.symm.trans hnone
    · exact absurd (Option.some.inj (hphase.symm.trans hfalse)) (by decide)
  | flatShift =>
    rintro ⟨-, hnone | ⟨-, hnone⟩⟩
    · exact nomatch hclear.2.symm.trans hnone
    · exact nomatch hphase.symm.trans hnone

/-! ### Runs -/

variable (k)

/-- The evaluator takes the input, the cut is engaged and nothing of higher priority is active. -/
def Held (cal : RuntimeSemanticCalibration) (s : RuntimeSemanticState)
    (input : RuntimeSemanticInputSnapshot) : Prop :=
  taken cal input = true ∧ k.engaged cal input = true ∧ k.Clear cal input s
  deriving Decidable

/-- The run with the count of the specification. -/
def withCount (cal : RuntimeSemanticCalibration) :
    RuntimeSemanticState × UInt16 → RuntimeSemanticInputSnapshot → RuntimeSemanticState × UInt16 :=
  carriedWith cal fun _ count input _ => (k.specStep cal input count).2

/-- The evaluation returns, and cuts both channels exactly when the specification does. -/
def AsSpecified (cal : RuntimeSemanticCalibration) (w : RuntimeSemanticState × UInt16)
    (input : RuntimeSemanticInputSnapshot) : Prop :=
  ∃ obs next, evaluated cal w.1 input = some (obs, next) ∧
    k.active next = (k.specStep cal input w.2).1 ∧
    (k.active next = true → obs.fuelCut = true ∧ obs.sparkCut = true)

variable {k}

variable {w : RuntimeSemanticState × UInt16}

lemma asSpecified_iff (hs : Uncounted w.1) (hn : k.cutCycles cal ≠ 0)
    (hcount : w.2 ≤ k.cutCycles cal) (h : Held k cal w.1 input) :
    AsSpecified k cal w input ↔ k.cutCycles cal ≠ 65535 ∧ w.2 < k.cutCycles cal := by
  obtain ⟨htaken, hengaged, hclear⟩ := h
  have hphase := phase_of_engaged hs hengaged hn
  unfold AsSpecified
  rw [specStep_of_engaged hengaged]
  by_cases htop : k.cutCycles cal = 65535
  · rw [if_pos htop] at hphase
    have hnone := (evaluated_isSome_iff htaken).not.mpr
      (not_not.mpr (divides_of_phase hclear hphase))
    refine iff_of_false ?_ fun hne => hne.1 htop
    rintro ⟨obs, next, heval, -⟩
    exact hnone (by rw [heval]; rfl)
  · rw [if_neg htop] at hphase
    obtain ⟨⟨obs, next⟩, heval⟩ := Option.isSome_iff_exists.mp
      ((evaluated_isSome_iff htaken).mpr (not_divides_of_phase hphase hclear))
    obtain ⟨hactive, hcuts⟩ := cut_of_phase hclear hphase heval
    have hspec := (cycleStep_eq hn htop hcount).1
    constructor
    · rintro ⟨obs', next', heval', hsame, -⟩
      cases heval.symm.trans heval'
      rw [hactive, hspec] at hsame
      exact ⟨htop, of_decide_eq_true hsame.symm⟩
    · rintro ⟨-, hlt⟩
      exact ⟨obs, next, heval, by rw [hactive, hspec, decide_eq_true hlt], fun _ => hcuts⟩

/-- From a count on, the evaluator follows the specification as long as that cuts. -/
lemma along_asSpecified_iff (hn : k.cutCycles cal ≠ 0) (hs : Uncounted w.1)
    (hcount : w.2 ≤ k.cutCycles cal) {inputs : List RuntimeSemanticInputSnapshot}
    (hheld : Along (carried cal) (Held k cal) w.1 inputs) :
    Along (withCount k cal) (AsSpecified k cal) w inputs ↔
      inputs = [] ∨ k.cutCycles cal ≠ 65535 ∧
        w.2.toNat + inputs.length ≤ (k.cutCycles cal).toNat := by
  induction inputs generalizing w with
  | nil => simp
  | cons input inputs ih =>
    obtain ⟨hinput, hrest⟩ := hheld
    have hstep := asSpecified_iff hs hn hcount hinput
    rw [along_cons, hstep, List.length_cons]
    by_cases hcuts : k.cutCycles cal ≠ 65535 ∧ w.2 < k.cutCycles cal
    · have hlt := UInt16.lt_iff_toNat_lt.mp hcuts.2
      have hfst : (withCount k cal w input).1 = carried cal w.1 input := fst_carriedWith w input
      have hsnd : (withCount k cal w input).2.toNat = w.2.toNat + 1 := by
        obtain ⟨obs, next, heval, -⟩ := hstep.mpr hcuts
        unfold withCount carriedWith
        rw [heval]
        show (k.specStep cal input w.2).2.toNat = _
        rw [specStep_of_engaged hinput.2.1, (cycleStep_eq hn hcuts.1 hcount).2, if_pos hcuts.2]
      have hnext : (withCount k cal w input).2 ≤ k.cutCycles cal := by
        rw [UInt16.le_iff_toNat_le, hsnd]
        omega
      rw [ih (hfst ▸ uncounted_carried hs input) hnext (hfst ▸ hrest), hsnd]
      constructor
      · rintro ⟨-, rfl | ⟨-, hlen⟩⟩
        · exact .inr ⟨hcuts.1, by simpa using hlt⟩
        · exact .inr ⟨hcuts.1, by omega⟩
      · rintro (hnil | ⟨-, hlen⟩)
        · exact absurd hnil (List.cons_ne_nil _ _)
        · exact ⟨hcuts, .inr ⟨hcuts.1, by omega⟩⟩
    · refine iff_of_false (fun h => hcuts h.1) ?_
      rintro (hnil | ⟨htop, hlen⟩)
      · exact absurd hnil (List.cons_ne_nil _ _)
      · exact hcuts ⟨htop, UInt16.lt_iff_toNat_lt.mpr (by omega)⟩

/-! ### Divisions by zero -/

variable (k) in
/-- No speed engages the cut and passes the hard limit, with the limit held before or not. -/
def Masked (cal : RuntimeSemanticCalibration) : Prop :=
  cal.hardRevRpm.toNat ≤ (k.fromRpm cal).toNat ∧
    cal.hardRevRpm.toNat - cal.revHysteresisRpm.toNat < (k.fromRpm cal).toNat

lemma fromRpm_le_of_engaged (h : k.engaged cal input = true) :
    (k.fromRpm cal).toNat ≤ input.rpm.toNat := by
  cases k with
  | launch =>
    simp only [engaged, launchEngaged, Bool.and_eq_true, decide_eq_true_eq, ge_iff_le] at h
    exact UInt16.le_iff_toNat_le.mp h.2
  | flatShift =>
    simp only [engaged, flatShiftEngaged, Bool.and_eq_true, decide_eq_true_eq, ge_iff_le] at h
    exact UInt16.le_iff_toNat_le.mp h.2

lemma engaged_of_cutPhase {armed : Bool} {n count : UInt16} (h : cutPhase armed n count = none) :
    armed = true ∧ n = 65535 := by
  constructor
  · by_contra harmed
    simp [cutPhase, Bool.eq_false_iff.mpr harmed] at h
  · by_contra hn
    have hsome := cutPhase_isSome hn armed count
    rw [h] at hsome
    cases hsome

/-- A cycle that divides by zero has the largest count, and is not masked. -/
lemma not_masked_of_phase (hpass : Passes cal input s) (hnone : k.phase cal input s = none) :
    k.cutCycles cal = 65535 ∧ ¬ Masked k cal := by
  have hengaged : k.engaged cal input = true ∧ k.cutCycles cal = 65535 := by
    cases k with
    | launch | flatShift => exact engaged_of_cutPhase hnone
  refine ⟨hengaged.2, fun hmasked => ?_⟩
  have hrpm := fromRpm_le_of_engaged hengaged.1
  obtain ⟨hfree, hheld⟩ := hmasked
  have hopen := hpass.hard
  rw [hardLimited_eq] at hopen
  cases hrev : s.revHardActive with
  | true =>
    simp only [hrev, limitHeld, if_true, decide_eq_false_iff_not] at hopen
    omega
  | false =>
    simp only [hrev, limitHeld, Bool.false_eq_true, if_false, decide_eq_false_iff_not] at hopen
    omega

variable (k)

/-- An engine that is switched off turns at the given speed with one cycle cut armed. -/
def probe (rpm : Rpm) : RuntimeSemanticInputSnapshot :=
  { cruising rpm 0 0 with
    mode := .off
    launchArmed := k = .launch
    flatShiftArmed := k = .flatShift
    targetAfrOverrideX100 := some 1470 }

lemma taken_probe (hacc : cal.accepted = true) (k : CycleCut) (rpm : Rpm) :
    taken cal (probe k rpm) = true := by
  have htarget : targetAfrX100 cal (probe k rpm) ≠ 0 := by
    show (clampU16 1470 500 3000).toUInt32 ≠ 0
    decide
  simp [taken, hacc, htarget]

lemma safetyHeld_probe (rpm : Rpm) (s : RuntimeSemanticState) :
    safetyHeld (probe k rpm) s = false := by
  cases hs : s.safetyLatched <;> simp [safetyHeld, latchSafety, probe, cruising, hs]

variable {k}

/-- The probe divides by zero wherever it passes the hard limit. -/
lemma divides_probe (hs : Uncounted s) (htop : k.cutCycles cal = 65535)
    (hopen : limitHeld cal s.revHardActive (probe k (k.fromRpm cal)) = false) :
    Divides cal (probe k (k.fromRpm cal)) s := by
  have hpass : Passes cal (probe k (k.fromRpm cal)) s :=
    ⟨rfl, safetyHeld_probe _ _ _, (hardLimited_eq _).trans hopen⟩
  have hengaged : k.engaged cal (probe k (k.fromRpm cal)) = true := by
    cases k <;>
      simp [engaged, launchEngaged, flatShiftEngaged, probe, cruising, fromRpm]
  have hphase := phase_of_engaged hs hengaged (by rw [htop]; decide)
  rw [if_pos htop] at hphase
  cases k with
  | launch => exact ⟨hpass, .inl hphase⟩
  | flatShift => exact ⟨hpass, .inr ⟨rfl, hphase⟩⟩

lemma revHardActive_probe (hacc : cal.accepted = true) (k : CycleCut) :
    (carried cal {} (probe k cal.hardRevRpm)).revHardActive = true := by
  have hlimit : hardLimited cal (probe k cal.hardRevRpm) false = true := by
    rw [hardLimited_eq]
    simp [limitHeld, probe, cruising]
  have hpasses : ¬ Divides cal (probe k cal.hardRevRpm) {} := fun h =>
    Bool.false_ne_true (h.1.hard.symm.trans hlimit)
  obtain ⟨⟨obs, next⟩, heval⟩ := Option.isSome_iff_exists.mp
    ((evaluated_isSome_iff (taken_probe hacc k _)).mpr hpasses)
  unfold carried
  rw [heval]
  show next.revHardActive = true
  cases hardStep_evaluated heval with
  | direct hd _ _ _ => exact absurd hd Bool.false_ne_true
  | safety _ hl _ _ _ => exact absurd ((safetyHeld_probe _ _ _).symm.trans hl) Bool.false_ne_true
  | renewed _ _ hheld _ => exact hheld.trans hlimit

/-- A cycle with the largest count that is not masked is made to divide by zero. -/
lemma exists_divides (hacc : cal.accepted = true) (htop : k.cutCycles cal = 65535)
    (hmasked : ¬ Masked k cal) :
    ∃ before input, taken cal input = true ∧ Divides cal input (run (carried cal) {} before) := by
  by_cases hfree : (k.fromRpm cal).toNat < cal.hardRevRpm.toNat
  · refine ⟨[], probe k (k.fromRpm cal), taken_probe hacc _ _, divides_probe ⟨rfl, rfl⟩ htop ?_⟩
    have hlt : ¬ cal.hardRevRpm.toNat ≤ (k.fromRpm cal).toNat := by omega
    simp [limitHeld, probe, cruising, hlt]
  · -- the speed is at the limit, and passes only when it is being released
    have hheld : ¬ cal.hardRevRpm.toNat - cal.revHysteresisRpm.toNat < (k.fromRpm cal).toNat :=
      fun hlt => hmasked ⟨by omega, hlt⟩
    refine ⟨[probe k cal.hardRevRpm], probe k (k.fromRpm cal), taken_probe hacc _ _,
      divides_probe (uncounted_run _) htop ?_⟩
    rw [run_cons, run_nil, revHardActive_probe hacc k]
    simp [limitHeld, probe, cruising, hheld]

lemma always_returns_iff (hacc : cal.accepted = true) :
    (∀ before input, (runtimeSemanticEvaluateFuelWithState cal input
        (run (carried cal) {} before)).isSome) ↔
      ∀ k : CycleCut, k.cutCycles cal ≠ 65535 ∨ Masked k cal := by
  constructor
  · intro hall k
    by_contra hnot
    obtain ⟨htop, hmasked⟩ := not_or.mp hnot
    obtain ⟨before, input, htaken, hdivides⟩ := exists_divides hacc (not_not.mp htop) hmasked
    have hsome := hall before input
    rw [evaluate_eq_none_iff.mpr ⟨htaken, hdivides⟩] at hsome
    cases hsome
  · intro hproper before input
    by_contra hnone
    obtain ⟨-, hpass, hdivides⟩ := evaluate_eq_none_iff.mp (Option.not_isSome_iff_eq_none.mp hnone)
    rcases hdivides with hlaunch | ⟨-, hflat⟩
    · obtain ⟨htop, hmasked⟩ := not_masked_of_phase (k := .launch) hpass hlaunch
      exact (hproper .launch).elim (fun h => h htop) hmasked
    · obtain ⟨htop, hmasked⟩ := not_masked_of_phase (k := .flatShift) hpass hflat
      exact (hproper .flatShift).elim (fun h => h htop) hmasked

/-- **Launch and flat-shift cuts.** For an accepted calibration: after any run from the default
state, the evaluations of a held cycle cut follow the specification, which cuts the configured
number and then lets one pass, exactly when the cut is not held for longer than that number, and
the number is not the largest; and no evaluation divides by zero exactly when a cut with the
largest number is masked by the hard limit. -/
theorem cycle_cuts_iff {cal : RuntimeSemanticCalibration} (hacc : cal.accepted = true) :
    (∀ (k : CycleCut) (before inputs : List RuntimeSemanticInputSnapshot), k.cutCycles cal ≠ 0 →
      Along (carried cal) (Held k cal) (run (carried cal) {} before) inputs →
      (Along (withCount k cal) (AsSpecified k cal) (run (carried cal) {} before, 0) inputs ↔
        inputs = [] ∨ k.cutCycles cal ≠ 65535 ∧ inputs.length ≤ (k.cutCycles cal).toNat)) ∧
    (∀ k : CycleCut, k.cutCycles cal ≠ 0 → k.cutCycles cal ≠ 65535 → ∀ i,
      (cycleStep (k.cutCycles cal) (specCount (k.cutCycles cal) i)).1 =
        decide (i % ((k.cutCycles cal).toNat + 1) < (k.cutCycles cal).toNat)) ∧
    ((∀ before input, (runtimeSemanticEvaluateFuelWithState cal input
        (run (carried cal) {} before)).isSome) ↔
      ∀ k : CycleCut, k.cutCycles cal ≠ 65535 ∨ Masked k cal) := by
  refine ⟨fun k before inputs hn hheld => ?_, fun k hn htop i => cut_specCount hn htop i,
    always_returns_iff hacc⟩
  have hzero : (0 : UInt16).toNat = 0 := rfl
  have hiff := along_asSpecified_iff hn (w := (run (carried cal) {} before, 0))
    (uncounted_run before) (UInt16.zero_le) hheld
  simpa only [hzero, Nat.zero_add] using hiff

/-- Launch control armed and above its speed. -/
def onTheLine : RuntimeSemanticInputSnapshot :=
  { cruising 4500 9000 900 with launchArmed := true }

theorem cycle_cuts_iff_onTheLine :
    Along (withCount .launch roadCalibration) (AsSpecified .launch roadCalibration) ({}, 0)
      [onTheLine, onTheLine] :=
  ((@cycle_cuts_iff roadCalibration (by decide +kernel)).1 .launch [] [onTheLine, onTheLine]
    (by decide +kernel) (by decide +kernel)).mpr (.inr (by decide +kernel))

/-- With a count of two the third evaluation should pass. It is cut, with the specification's
count at two; and with the largest count the first evaluation divides by zero. -/
theorem third_launch_step_is_cut :
    let w := run (withCount .launch roadCalibration) ({}, 0) [onTheLine, onTheLine]
    roadCalibration.accepted = true ∧
      Along (carried roadCalibration) (Held .launch roadCalibration) {}
        [onTheLine, onTheLine, onTheLine] ∧
      (specStep roadCalibration onTheLine w.2 .launch).1 = false ∧
      ((evaluated roadCalibration w.1 onTheLine).map fun result =>
        (result.2.launchActive, result.1.fuelCut, result.1.sparkCut)) = some (true, true, true) ∧
      runtimeSemanticEvaluateFuelWithState { roadCalibration with launchCutCycles := 65535 }
        onTheLine {} = none := by
  decide +kernel

end Pipoco.SemCycles
