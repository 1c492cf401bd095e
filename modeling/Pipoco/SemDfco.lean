import Pipoco.SemArbiter

/-!
The deceleration fuel cut over whole runs.

The cut is meant to wait for a number of evaluations in a row that qualify. The evaluator counts
them in a counter of its own, which is not set back by everything that interrupts the row. This
file counts the row as it is, notes when the evaluator's counter has gone stale, and compares.
-/

namespace Pipoco.SemDfco

open Domain Runs SemFuel

variable {cal : RuntimeSemanticCalibration} {input : RuntimeSemanticInputSnapshot}
  {s next : RuntimeSemanticState} {obs : RuntimeSemanticFuelObservations}

variable (cal input)

/-- A running engine that may be decelerating. -/
def qualifies : Bool :=
  input.mode = .running && (input.rpm ≥ cal.dfcoEntryRpm && input.tpsX100 ≤ cal.dfcoEntryTpsX100 &&
    input.mapKpa10 ≤ cal.dfcoEntryMapKpa10)

variable (s) in
/-- The deceleration cut is looked at: the engine runs, and nothing of higher priority cuts. -/
def Reached : Prop :=
  input.mode = .running ∧ PassesCycles cal input s
  deriving Decidable

variable {cal input}

/-! ### One evaluation -/

/-- What an evaluation does to the cut and its counter. -/
inductive DfcoStep (cal : RuntimeSemanticCalibration) (input : RuntimeSemanticInputSnapshot)
    (s : RuntimeSemanticState) (active : Bool) (counter : UInt16) : Prop
  | left (hreached : ¬ Reached cal input s) (hactive : active = s.dfcoActive)
      (hcounter : counter = s.dfcoQualifyCounter)
  | active (hreached : Reached cal input s) (hs : s.dfcoActive = true)
      (hcounter : counter = s.dfcoQualifyCounter)
  | counted (hreached : Reached cal input s) (hs : s.dfcoActive = false)
      (hqualifies : qualifies cal input = true)
      (hcounter : counter = satAdd16 s.dfcoQualifyCounter 1)
      (hactive : active = decide (cal.dfcoDelayCycles ≤ counter))
  | cleared (hreached : Reached cal input s) (hs : s.dfcoActive = false)
      (hqualifies : qualifies cal input = false) (hactive : active = false)
      (hcounter : counter = 0)

lemma dfcoStep_evaluateDfco (hreached : Reached cal input s) :
    DfcoStep cal input s (evaluateDfco cal input (passed s)).dfcoActive
      (evaluateDfco cal input (passed s)).dfcoQualifyCounter := by
  have hqualifies : qualifies cal input = (input.rpm ≥ cal.dfcoEntryRpm &&
      input.tpsX100 ≤ cal.dfcoEntryTpsX100 && input.mapKpa10 ≤ cal.dfcoEntryMapKpa10) := by
    simp [qualifies, hreached.1]
  unfold evaluateDfco
  by_cases hs : s.dfcoActive = true
  · rw [if_pos (show (passed s).dfcoActive = true from hs)]
    exact .active hreached hs rfl
  · have hs' : s.dfcoActive = false := Bool.eq_false_iff.mpr hs
    rw [if_neg (show ¬ (passed s).dfcoActive = true from hs), ← hqualifies]
    cases hq : qualifies cal input with
    | true => exact .counted hreached hs' hq rfl rfl
    | false => exact .cleared hreached hs' hq hs' rfl

lemma dfcoStep_arbitrated {cut : RuntimeSemanticState} {fuel spark : Bool}
    (h : Arbitrated cal input s cut fuel spark) :
    DfcoStep cal input s cut.dfcoActive cut.dfcoQualifyCounter := by
  by_cases hpass : PassesCycles cal input s
  · have hstage : DfcoStep cal input s (dfcoStage cal input (passed s)).dfcoActive
        (dfcoStage cal input (passed s)).dfcoQualifyCounter := by
      unfold dfcoStage
      split_ifs with hmode
      · exact dfcoStep_evaluateDfco ⟨hmode, hpass⟩
      · exact .left (fun hreached => hmode hreached.1) rfl rfl
    rcases h.staged hpass with ⟨-, rfl⟩ | ⟨-, ⟨-, rfl⟩ | ⟨-, rfl⟩⟩
    · exact hstage
    · exact hstage
    · obtain ⟨retard, recovery, hknock⟩ := evaluateKnock_frame cal input
        { dfcoStage cal input (passed s) with revSoftActive := false }
      rw [hknock]
      exact hstage
  · obtain ⟨launch, flat, safety, hard, rfl⟩ := h.early hpass
    exact .left (fun hreached => hpass hreached.2) rfl rfl

lemma dfcoStep_evaluated (h : evaluated cal s input = some (obs, next)) :
    DfcoStep cal input s next.dfcoActive next.dfcoQualifyCounter := by
  obtain ⟨cut, count, lambda, idle, hcut, rfl⟩ := evaluated_state h
  obtain ⟨pulse, remaining, active, hae⟩ := evaluateAe_frame cal input s
  have hreached : Reached cal input (evaluateAe cal input s) ↔ Reached cal input s :=
    and_congr_right fun _ => passesCycles_evaluateAe_iff
  have hactive : (evaluateAe cal input s).dfcoActive = s.dfcoActive := by rw [hae]
  have hcounter : (evaluateAe cal input s).dfcoQualifyCounter = s.dfcoQualifyCounter := by rw [hae]
  cases dfcoStep_arbitrated hcut with
  | left hr ha hc => exact .left (hreached.not.mp hr) (ha.trans hactive) (hc.trans hcounter)
  | active hr hs hc => exact .active (hreached.mp hr) (hactive.symm.trans hs) (hc.trans hcounter)
  | counted hr hs hq hc ha =>
    exact .counted (hreached.mp hr) (hactive.symm.trans hs) hq (hcounter ▸ hc) ha
  | cleared hr hs hq ha hc => exact .cleared (hreached.mp hr) (hactive.symm.trans hs) hq ha hc

/-! ### Runs -/

/-- The row of evaluations that qualify, since the cut last ended; and whether the evaluator's
counter may hold evaluations from before the row. -/
structure Row where
  length : ℕ := 0
  stale : Bool := false
  deriving DecidableEq

variable (cal)

/-- The row that ends with this evaluation. -/
def rowLength (row : Row) (input : RuntimeSemanticInputSnapshot) : ℕ :=
  if qualifies cal input then row.length + 1 else 0

variable (s) in
/-- The counter goes stale when the cut ends, and when the row is broken while it counts by an
evaluation that does not look at it. An evaluation that does not qualify and looks at it sets it
back. -/
def renewRow (row : Row) (input : RuntimeSemanticInputSnapshot) (next : RuntimeSemanticState) :
    Row :=
  if s.dfcoActive then ⟨0, !next.dfcoActive⟩
  else ⟨rowLength cal row input,
    if qualifies cal input then row.stale
    else if Reached cal input s then false
    else row.stale || s.dfcoQualifyCounter ≠ 0⟩

def withRow :
    RuntimeSemanticState × Row → RuntimeSemanticInputSnapshot → RuntimeSemanticState × Row :=
  carriedWith cal (renewRow cal)

/-- The cut begins only after a row of the configured length, and is not carried over an evaluation
that is not of a running engine. -/
def Waits (w : RuntimeSemanticState × Row) (input : RuntimeSemanticInputSnapshot) : Prop :=
  ∀ obs next, evaluated cal w.1 input = some (obs, next) →
    (w.1.dfcoActive = false → next.dfcoActive = true →
      cal.dfcoDelayCycles.toNat ≤ rowLength cal w.2 input) ∧
    (input.mode ≠ .running → next.dfcoActive = false)

/-- The engine does not leave the running mode while the cut is active, and no evaluation is
counted by a stale counter, unless one evaluation is enough. -/
def Fresh (w : RuntimeSemanticState × Row) (input : RuntimeSemanticInputSnapshot) : Prop :=
  (evaluated cal w.1 input).isSome →
    (input.mode ≠ .running → w.1.dfcoActive = false) ∧
    (cal.dfcoDelayCycles ≤ 1 ∨ w.1.dfcoActive = true ∨ w.2.stale = false ∨
      qualifies cal input = false ∨ ¬ Reached cal input w.1)

variable {cal}

instance (w : RuntimeSemanticState × Row) (input : RuntimeSemanticInputSnapshot) :
    Decidable (Fresh cal w input) :=
  inferInstanceAs (Decidable (_ → _))

/-- A counter that is not stale does not exceed the row. -/
def Counts (w : RuntimeSemanticState × Row) : Prop :=
  w.1.dfcoActive = true ∨ w.2.stale = true ∨ w.1.dfcoQualifyCounter.toNat ≤ w.2.length

variable {w : RuntimeSemanticState × Row}

lemma Fresh.waits (hw : Counts w) (h : Fresh cal w input) : Waits cal w input := by
  intro obs next heval
  obtain ⟨hmode, hfresh⟩ := h (by rw [heval]; rfl)
  constructor
  · intro hs hnext
    cases dfcoStep_evaluated heval with
    | left _ hactive _ => exact nomatch (hactive.trans hs).symm.trans hnext
    | active _ hs' _ => exact nomatch hs.symm.trans hs'
    | cleared _ _ _ hactive _ => exact nomatch hactive.symm.trans hnext
    | counted hreached _ hqualifies hcounter hactive =>
      have hrow : rowLength cal w.2 input = w.2.length + 1 := by
        rw [rowLength, if_pos hqualifies]
      rw [hrow]
      rcases hfresh with hone | hs' | hstale | hq | hr
      · exact (UInt16.le_iff_toNat_le.mp hone).trans (Nat.le_add_left 1 _)
      · exact nomatch hs.symm.trans hs'
      · -- a counter that is not stale
        have hcount : w.1.dfcoQualifyCounter.toNat ≤ w.2.length := by
          rcases hw with hw | hw | hw
          · exact nomatch hs.symm.trans hw
          · exact nomatch hstale.symm.trans hw
          · exact hw
        have hdelay : cal.dfcoDelayCycles ≤ next.dfcoQualifyCounter :=
          of_decide_eq_true (hactive.symm.trans hnext)
        calc cal.dfcoDelayCycles.toNat ≤ next.dfcoQualifyCounter.toNat :=
              UInt16.le_iff_toNat_le.mp hdelay
          _ ≤ w.1.dfcoQualifyCounter.toNat + 1 := hcounter ▸ toNat_satAdd16_one_le _
          _ ≤ w.2.length + 1 := Nat.add_le_add_right hcount 1
      · exact nomatch hq.symm.trans hqualifies
      · exact absurd hreached hr
  · intro hnot
    cases dfcoStep_evaluated heval with
    | left _ hactive _ => exact hactive.trans (hmode hnot)
    | active hreached _ _ | counted hreached _ _ _ _ | cleared hreached _ _ _ _ =>
      exact absurd hreached.1 hnot

lemma Counts.step (hw : Counts w) (input : RuntimeSemanticInputSnapshot) :
    Counts (withRow cal w input) := by
  refine carriedWith_inv hw fun obs next heval => ?_
  unfold renewRow
  cases hs : w.1.dfcoActive with
  | true =>
    cases hnext : next.dfcoActive with
    | true => exact .inl hnext
    | false => exact .inr (.inl rfl)
  | false =>
    have hcount : w.2.stale = true ∨ w.1.dfcoQualifyCounter.toNat ≤ w.2.length :=
      hw.resolve_left fun hw => nomatch hs.symm.trans hw
    refine .inr ?_
    cases dfcoStep_evaluated heval with
    | active _ hs' _ => exact nomatch hs.symm.trans hs'
    | counted _ _ hqualifies hcounter _ =>
      simp only [rowLength, hqualifies, if_true]
      rw [hcounter]
      exact hcount.imp id fun hle => (toNat_satAdd16_one_le _).trans (Nat.add_le_add_right hle 1)
    | cleared hreached _ hqualifies _ hcounter =>
      refine .inr ?_
      rw [hcounter]
      exact Nat.zero_le _
    | left hreached _ hcounter =>
      rw [hcounter]
      cases hqualifies : qualifies cal input with
      | true =>
        simp only [rowLength, hqualifies, if_true]
        exact hcount.imp id fun hle => hle.trans (Nat.le_succ _)
      | false =>
        simp only [rowLength, hqualifies, hreached, Bool.false_eq_true, if_false,
          Bool.or_eq_true, decide_eq_true_eq]
        by_cases hzero : w.1.dfcoQualifyCounter = 0
        · refine .inr ?_
          rw [hzero]
          exact Nat.le_refl 0
        · exact .inl (.inr hzero)

/-- **The deceleration cut waits.** In every run from the default state whose evaluations are all
fresh, the cut begins only after a row of evaluations that qualify, of the configured length and
since it last ended, and is never carried over an evaluation that is not of a running engine. -/
theorem dfco_waits {cal : RuntimeSemanticCalibration} {inputs : List RuntimeSemanticInputSnapshot}
    (h : Along (withRow cal) (Fresh cal) ({}, {}) inputs) :
    Along (withRow cal) (Waits cal) ({}, {}) inputs :=
  along_of_inv (I := Counts) (fun _ _ hw hfresh => hfresh.waits hw)
    (fun _ input hw _ => hw.step input) (.inr (.inr le_rfl)) h

/-- Overrun: fast, with the throttle closed. -/
def overrun : RuntimeSemanticInputSnapshot := cruising 3000 0 300

theorem dfco_waits_overrun :
    (run (withRow roadCalibration) ({}, {}) [overrun, overrun, overrun]).1.dfcoActive = true ∧
      Along (withRow roadCalibration) (Waits roadCalibration) ({}, {})
        [overrun, overrun, overrun] :=
  ⟨by decide +kernel, dfco_waits (by decide +kernel)⟩

/-- With a delay of three the cut begins at the third evaluation. It ends at 1400 rpm, and the next
evaluation that qualifies, the first of its row, begins it again. And in an engine that stops
running it stays. -/
theorem cut_begins_again_at_once :
    let ended := run (withRow roadCalibration) ({}, {})
      [overrun, overrun, overrun, cruising 1400 0 300]
    ended.1.dfcoActive = false ∧ rowLength roadCalibration ended.2 overrun = 1 ∧
      ((evaluated roadCalibration ended.1 overrun).map fun result => result.2.dfcoActive) =
        some true ∧
      ((evaluated roadCalibration
        (run (carried roadCalibration) {} [overrun, overrun, overrun])
        { overrun with mode := .cranking }).map fun result => result.2.dfcoActive) =
        some true := by
  decide +kernel

end Pipoco.SemDfco
