import Pipoco.TrigEdges

/-!
One revolution of the wheel between two gaps.

The decoder counts edges twice: every edge it takes advances the count it checks at the gap, and
only edges it reports as teeth advance the tooth it stands at. Between two accepted gaps the first
count is always that of one revolution. The second agrees with it exactly when no edge in between
came at the very timestamp of the edge before it: such an edge, and the one after it, are taken
without being reported as teeth.
-/

namespace Pipoco.TrigRevolution

open Domain TrigDecoder TrigDecoder.MissingToothDecoder Runs
open TrigCoherence

variable (d : MissingToothDecoder) (reports : List (Except SyncLossReason MissingToothDecoderEvent))

def report : DecoderOp → Option (Except SyncLossReason MissingToothDecoderEvent)
  | .primaryEdge timestamp edge => some (d.ingestPrimaryEdgeWithKind timestamp edge).2
  | _ => none

def toothOf : Except SyncLossReason MissingToothDecoderEvent → Option ℕ
  | .ok (.tooth n) => some n.toNat
  | _ => none

/-- The edge was taken: not of the other kind and not filtered. -/
def takes : Except SyncLossReason MissingToothDecoderEvent → Bool
  | .ok .ignoredByFilter | .error .unexpectedPrimaryEdge => false
  | _ => true

/-- The numbers of the teeth that were reported. -/
def teeth : List ℕ := reports.filterMap toothOf

def taken : ℕ := reports.countP takes

/-- Between two gaps: no gap is reported, the count of teeth is not found wrong, and the decoder
is not reset. -/
def Between (op : DecoderOp) : Prop :=
  op ≠ .reset ∧ report d op ≠ some (.ok (.gap 1)) ∧ report d op ≠ some (.error .wrongToothCount)

instance (op : DecoderOp) : Decidable (Between d op) := inferInstanceAs (Decidable (_ ∧ _ ∧ _))

/-! ### One operation between two gaps -/

section operations

variable {c : MissingToothDecoderConfig} {d : MissingToothDecoder} {op : DecoderOp}

/-- The three things an operation between two gaps can do to a locked decoder. -/
inductive Turned (d : MissingToothDecoder) (op : DecoderOp) : Prop
  | idle (h : (step d op).tracking = d.tracking)
      (hteeth : teeth (report d op).toList = []) (htaken : taken (report d op).toList = 0)
      (hspaced : Spaced d op)
  | tooth {timestamp interval : Ticks} (hinterval : interval ≠ 0)
      (h : (step d op).tracking = { d.tracking.spaced timestamp interval with
        currentTooth := satAdd8 d.currentTooth 1 })
      (hcount : d.currentTooth < d.observedTeeth)
      (hteeth : teeth (report d op).toList = [(satAdd8 d.currentTooth 1).toNat])
      (htaken : taken (report d op).toList = 1) (hspaced : Spaced d op)
  | unmeasured {timestamp interval : Ticks}
      (h : (step d op).tracking = d.tracking.spaced timestamp interval)
      (hteeth : teeth (report d op).toList = []) (htaken : taken (report d op).toList = 1)
      (hspaced : d.previousInterval ≠ 0 → ¬ Spaced d op)

lemma turned_primaryEdge (hkept : Kept c d.tracking) (hl : d.primaryLocked = true)
    {timestamp : Ticks} {edge : TriggerEdge} (hb : Between d (.primaryEdge timestamp edge)) :
    Turned d (.primaryEdge timestamp edge) := by
  have hstep := primaryStep_ingest d timestamp edge
  obtain ⟨-, hgap, hlost⟩ := hb
  simp only [report, ne_eq, Option.some.injEq] at hgap hlost
  generalize hr : (d.ingestPrimaryEdgeWithKind timestamp edge).2 = result at hstep hgap hlost
  cases hstep with
  | otherKind hkind h =>
    exact .idle h (by simp [report, hr, teeth, toothOf]) (by simp [report, hr, taken, takes])
      (fun _ he => absurd he hkind)
  | firstEdge hlast h => exact absurd hlast (hkept.edge hl)
  | filtered hlast hfilter h =>
    refine .idle h (by simp [report, hr, teeth, toothOf]) (by simp [report, hr, taken, takes]) ?_
    exact fun _ _ hmin => absurd hfilter (hmin ▸ UInt32.not_lt_zero)
  | unmeasured hkind hlast hfilter hzero h =>
    refine .unmeasured h (by simp [report, hr, teeth, toothOf])
      (by simp [report, hr, taken, takes]) fun hprevious hspaced => ?_
    -- the spacing before is not zero, so the new one is
    have hnew := hzero.resolve_left hprevious
    have hmin : d.config.minimumEdgeInterval = 0 :=
      UInt32.le_zero_iff.mp (hnew ▸ UInt32.not_lt.mp hfilter)
    exact hspaced hl hkind hmin (elapsedTicks_eq_zero.mp hnew ▸ hlast)
  | gap _ _ _ _ _ => exact absurd rfl hgap
  | tooth hlast _ hinterval _ hcount h =>
    refine .tooth hinterval h hcount (by simp [report, hr, teeth, toothOf])
      (by simp [report, hr, taken, takes]) fun _ _ _ hsame => hinterval ?_
    exact elapsedTicks_eq_zero.mpr (Option.some.inj (hlast.symm.trans hsame)).symm
  | searched _ _ _ hunlocked _ => exact absurd (hl.symm.trans hunlocked) (by decide)
  | lost _ _ => exact absurd rfl hlost

lemma turned (hkept : Kept c d.tracking) (hl : d.primaryLocked = true) (hb : Between d op) :
    Turned d op := by
  cases op with
  | primaryEdge timestamp edge => exact turned_primaryEdge hkept hl hb
  | secondaryEdge edge => exact .idle tracking_ingestSecondaryEdge rfl rfl trivial
  | secondaryLevel level => exact .idle (tracking_ingestSecondaryLevel level) rfl rfl trivial
  | reset => exact absurd rfl hb.1

end operations

/-! ### From one gap to the next -/

/-- What the operations from a locked decoder on have reported, against its two counts. -/
structure Turn (d : MissingToothDecoder) (ops : List DecoderOp) : Prop where
  locked : (run step d ops).primaryLocked = true
  kept : (run step d ops).observedTeeth = d.observedTeeth
  numbers : teeth (outputs step report d ops) =
    List.range' (d.currentTooth.toNat + 1) (teeth (outputs step report d ops)).length
  le : (teeth (outputs step report d ops)).length ≤ taken (outputs step report d ops)
  count : (run step d ops).teethSinceGap.toNat =
    min (d.teethSinceGap.toNat + taken (outputs step report d ops)) 255
  spaced : d.previousInterval ≠ 0 →
    ((teeth (outputs step report d ops)).length = taken (outputs step report d ops) ↔
      Along step Spaced d ops)

lemma taken_append (u v : List (Except SyncLossReason MissingToothDecoderEvent)) :
    taken (u ++ v) = taken u + taken v := List.countP_append

section turn

variable {c : MissingToothDecoderConfig} {d : MissingToothDecoder} {op : DecoderOp}
  {ops : List DecoderOp}

variable (d op ops)

lemma teeth_cons :
    teeth (outputs step report d (op :: ops)) =
    teeth (report d op).toList ++ teeth (outputs step report (step d op) ops) := List.filterMap_append

lemma taken_cons :
    taken (outputs step report d (op :: ops)) =
    taken (report d op).toList + taken (outputs step report (step d op) ops) := taken_append _ _

variable {d op ops}

lemma turn_nil (hl : d.primaryLocked = true) : Turn d [] where
  locked := hl
  kept := rfl
  numbers := rfl
  le := le_rfl
  count := by
    have hlt := d.teethSinceGap.toNat_lt
    show d.teethSinceGap.toNat = min (d.teethSinceGap.toNat + 0) 255
    omega
  spaced := fun _ => iff_of_true rfl trivial

/-- An operation in front that reports `m` teeth and takes `n` edges. Once an edge is taken that is
no tooth, the two counts differ. -/
lemma Turn.cons (h : Turn (step d op) ops) {m n : ℕ} (hmn : m ≤ n)
    (hteeth : teeth (report d op).toList = List.range' (d.currentTooth.toNat + 1) m)
    (htaken : taken (report d op).toList = n)
    (hcurrent : (step d op).currentTooth.toNat = d.currentTooth.toNat + m)
    (hsince : (step d op).teethSinceGap.toNat = min (d.teethSinceGap.toNat + n) 255)
    (hobserved : (step d op).observedTeeth = d.observedTeeth)
    (hspaced : d.previousInterval ≠ 0 →
      (m = n ↔ Spaced d op) ∧ (m = n → (step d op).previousInterval ≠ 0)) : Turn d (op :: ops) := by
  have hteeth' := teeth_cons d op ops
  have htaken' := taken_cons d op ops
  rw [hteeth] at hteeth'
  rw [htaken] at htaken'
  have hlen := congrArg List.length hteeth'
  rw [List.length_append, List.length_range'] at hlen
  obtain ⟨hlocked, hkept, hnumbers, hle, hcount, hiff⟩ := h
  refine ⟨hlocked, hkept.trans hobserved, ?_, ?_, ?_, fun hp => ?_⟩
  · rw [hlen, hteeth', hnumbers, hcurrent, List.length_range', ← List.range'_append_1]
    congr 2
    omega
  · omega
  · rw [run_cons, hcount, htaken', hsince]
    omega
  · obtain ⟨heq, hprevious⟩ := hspaced hp
    rw [hlen, htaken', along_cons, ← heq]
    constructor
    · intro hsame
      have hmn' : m = n := by omega
      exact ⟨hmn', (hiff (hprevious hmn')).mp (by omega)⟩
    · rintro ⟨rfl, hs⟩
      rw [(hiff (hprevious rfl)).mpr hs]

lemma Turned.cons (ht : Turned d op) (h : Turn (step d op) ops) : Turn d (op :: ops) := by
  have hlt := d.teethSinceGap.toNat_lt
  cases ht with
  | idle hd hteeth htaken hspaced =>
    refine h.cons (Nat.le_refl 0) hteeth htaken (congrArg (fun t => t.currentTooth.toNat) hd) ?_
      (congrArg Tracking.observedTeeth hd) fun hp => ⟨iff_of_true rfl hspaced, fun _ hz => hp ?_⟩
    · refine (congrArg (fun t => t.teethSinceGap.toNat) hd).trans ?_
      change d.teethSinceGap.toNat = _
      omega
    · exact (congrArg Tracking.previousInterval hd).symm.trans hz
  | tooth hinterval hd hcount hteeth htaken hspaced =>
    have hexact : (satAdd8 d.currentTooth 1).toNat = d.currentTooth.toNat + 1 :=
      toNat_satAdd8_one (UInt8.lt_iff_toNat_lt.mp hcount) d.observedTeeth.toNat_lt
    rw [hexact] at hteeth
    exact h.cons (Nat.le_refl 1) hteeth htaken ((congrArg (fun t => t.currentTooth.toNat) hd).trans hexact)
      ((congrArg (fun t => t.teethSinceGap.toNat) hd).trans (toNat_satAdd8 _ _))
      (congrArg Tracking.observedTeeth hd) fun _ => ⟨iff_of_true rfl hspaced,
        fun _ hz => hinterval ((congrArg Tracking.previousInterval hd).symm.trans hz)⟩
  | unmeasured hd hteeth htaken hspaced =>
    exact h.cons (Nat.zero_le 1) hteeth htaken (congrArg (fun t => t.currentTooth.toNat) hd)
      ((congrArg (fun t => t.teethSinceGap.toNat) hd).trans (toNat_satAdd8 _ _))
      (congrArg Tracking.observedTeeth hd)
      fun hp => ⟨iff_of_false Nat.zero_ne_one (hspaced hp), fun h => absurd h Nat.zero_ne_one⟩

lemma Turned.locked (ht : Turned d op) (hl : d.primaryLocked = true) :
    (step d op).primaryLocked = true := by
  cases ht with
  | idle h _ _ _ | tooth _ h _ _ _ _ | unmeasured h _ _ _ =>
    exact (congrArg Tracking.primaryLocked h).trans hl

lemma turn_of_between (hteeth : 1 ≤ c.nominalTeeth - c.missingTeeth) (hkept : Kept c d.tracking)
    (hl : d.primaryLocked = true) (hb : Along step Between d ops) : Turn d ops := by
  induction ops generalizing d with
  | nil => exact turn_nil hl
  | cons op ops ih =>
    have hturned := turned hkept hl hb.1
    exact hturned.cons (ih (hkept.step hteeth op) (hturned.locked hl) hb.2)

end turn

/-! ### The gaps -/

section gaps

variable {c : MissingToothDecoderConfig} {d : MissingToothDecoder} {op : DecoderOp}

/-- An accepted gap is the first tooth of a revolution, with a spacing to compare with. -/
lemma tracking_gap (hkept : Kept c d.tracking) (h : report d op = some (.ok (.gap 1))) :
    (step d op).primaryLocked = true ∧ (step d op).currentTooth = 1 ∧
      (step d op).teethSinceGap = 1 ∧ (step d op).previousInterval ≠ 0 := by
  cases op with
  | primaryEdge timestamp edge =>
    have hstep := primaryStep_ingest d timestamp edge
    rw [Option.some.inj h] at hstep
    cases hstep with
    | gap _ hprevious _ _ h =>
      have hnormal : d.previousInterval = d.lastNormalInterval := hkept.normal
      exact ⟨congrArg Tracking.primaryLocked h, congrArg Tracking.currentTooth h,
        congrArg Tracking.teethSinceGap h,
        fun hz => hprevious (hnormal.trans ((congrArg Tracking.previousInterval h).symm.trans hz))⟩
  | secondaryEdge edge | secondaryLevel level | reset => cases h

/-- A locked decoder accepts a gap only after the count of one revolution. -/
lemma teethSinceGap_of_gap (hl : d.primaryLocked = true)
    (h : report d op = some (.ok (.gap 1))) : d.teethSinceGap = d.observedTeeth := by
  cases op with
  | primaryEdge timestamp edge =>
    have hstep := primaryStep_ingest d timestamp edge
    rw [Option.some.inj h] at hstep
    cases hstep with
    | gap _ _ _ hcount _ => exact hcount hl
  | secondaryEdge edge | secondaryLevel level | reset => cases h

end gaps

variable {d} in
lemma observedTeeth_lt {config : MissingToothDecoderConfig} (hnew : tryNew config = .ok d) :
    d.observedTeeth.toNat < 255 := by
  obtain ⟨hmissing, hlt, -, -, rfl⟩ := tryNew_ok hnew
  have hpos : config.missingTeeth.toNat ≠ 0 := fun h => hmissing (UInt8.toNat.inj h)
  have hnominal := config.nominalTeeth.toNat_lt
  have hsub := UInt8.toNat_sub_of_le _ _ (UInt8.le_of_lt hlt)
  show (config.nominalTeeth - config.missingTeeth).toNat < 255
  omega

/-- **One revolution between two gaps.** Let an accepted decoder, after any operations, accept a
gap and, after further operations without a gap, a wrong count or a reset, accept the next. Then
it has reported the teeth from the second to the last in order, and taken as many edges as the
wheel has teeth, exactly when no edge in between came at the timestamp of the one before it. -/
theorem one_revolution_iff {config : MissingToothDecoderConfig} {d : MissingToothDecoder}
    (hnew : tryNew config = .ok d) (before middle : List DecoderOp) {first second : DecoderOp}
    (hfirst : report (run step d before) first = some (.ok (.gap 1)))
    (hmiddle : Along step Between (run step d (before ++ [first])) middle)
    (hsecond : report (run step d (before ++ first :: middle)) second = some (.ok (.gap 1))) :
    (teeth (outputs step report (run step d (before ++ [first])) middle) =
        List.range' 2 (d.observedTeeth.toNat - 1) ∧
      taken (outputs step report (run step d (before ++ [first])) (middle ++ [second])) =
        d.observedTeeth.toNat) ↔
      Along step Spaced (run step d (before ++ [first])) middle := by
  have hkept := kept_run hnew before
  have hkept₁ := kept_run hnew (before ++ [first])
  have hsmall := observedTeeth_lt hnew
  obtain ⟨-, -, hobserved, -, rfl⟩ := tryNew_ok hnew
  generalize hd₀ : initial config (config.nominalTeeth - config.missingTeeth) = d₀ at *
  have hteeth : 1 ≤ config.nominalTeeth - config.missingTeeth :=
    UInt8.le_trans (by decide) hobserved
  have hrun : run step d₀ (before ++ [first]) = step (run step d₀ before) first := by
    rw [run_append, run_cons, run_nil]
  obtain ⟨hl, hcurrent, hsince, hprevious⟩ := tracking_gap hkept hfirst
  rw [← hrun] at hl hcurrent hsince hprevious
  have hturn := turn_of_between hteeth hkept₁ hl hmiddle
  have hrun₂ : run step d₀ (before ++ first :: middle) =
      run step (run step d₀ (before ++ [first])) middle := by
    rw [← run_append, List.append_assoc, List.singleton_append]
  rw [hrun₂] at hsecond
  -- the second gap was accepted, so the edges taken are those of one revolution
  have hcount := congrArg UInt8.toNat (teethSinceGap_of_gap hturn.locked hsecond)
  have hwheel : (run step d₀ (before ++ [first])).observedTeeth = d₀.observedTeeth :=
    hkept₁.observed.trans (congrArg MissingToothDecoder.observedTeeth hd₀)
  have hone : (1 : UInt8).toNat = 1 := rfl
  rw [hturn.count, hturn.kept, hsince, hone, hwheel] at hcount
  have htaken : taken (outputs step report (run step d₀ (before ++ [first])) middle) + 1 =
      d₀.observedTeeth.toNat := by omega
  have htotal : taken (outputs step report (run step d₀ (before ++ [first]))
      (middle ++ [second])) = d₀.observedTeeth.toNat := by
    rw [outputs_append, taken_append, outputs_cons, hsecond, ← htaken]
    rfl
  rw [← hturn.spaced hprevious, and_iff_left htotal]
  have hnumbers := hturn.numbers
  rw [hcurrent, hone] at hnumbers
  constructor
  · intro h
    rw [h, List.length_range']
    omega
  · intro h
    rw [hnumbers, h]
    exact congrArg (List.range' 2 ·) (by omega)

/-- The edges up to the first gap of a 4-1 wheel. -/
def upToGap : List DecoderOp := risingEdges [100, 200, 300, 500]

theorem one_revolution_iff_fourMinusOne :
    teeth (outputs step report (run step (initial fourMinusOne 3) upToGap)
        (risingEdges [600, 700])) = [2, 3] ∧
      taken (outputs step report (run step (initial fourMinusOne 3) upToGap)
        (risingEdges [600, 700, 900])) = 3 := by
  have hnew : tryNew fourMinusOne = .ok (initial fourMinusOne 3) := rfl
  exact (@one_revolution_iff fourMinusOne _ hnew (risingEdges [100, 200, 300])
    (risingEdges [600, 700]) (.primaryEdge 500 .rising) (.primaryEdge 900 .rising)
    (by decide +kernel) (by decide +kernel) (by decide +kernel)).mpr (by decide +kernel)

/-- An edge at 500 again, right after the gap at 500: the next gap is accepted at 800, after three
edges and no tooth. -/
theorem repeated_edge_hides_teeth :
    let d := run step (initial fourMinusOne 3) upToGap
    tryNew fourMinusOne = .ok (initial fourMinusOne 3) ∧
      report (run step (initial fourMinusOne 3) (risingEdges [100, 200, 300]))
        (.primaryEdge 500 .rising) = some (.ok (.gap 1)) ∧
      Along step Between d (risingEdges [500, 600]) ∧
      report (run step d (risingEdges [500, 600])) (.primaryEdge 800 .rising) =
        some (.ok (.gap 1)) ∧
      teeth (outputs step report d (risingEdges [500, 600])) = [] := by
  refine ⟨rfl, ?_, ?_, ?_, ?_⟩ <;> decide +kernel

end Pipoco.TrigRevolution
