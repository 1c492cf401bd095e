import Pipoco.Runs
import Pipoco.TrigDecoder

/-!
Coherence of the decoder's lock.

Nine fields say in their own way whether the decoder is locked, and they are written on seven
paths. They agree after every operation as long as no edge arrives, while the decoder is locked,
at the very timestamp of the edge before it: such an edge has no spacing, and the path for edges
without a spacing reports a search without giving up the lock.
-/

namespace Pipoco.TrigCoherence

open Domain TrigDecoder TrigDecoder.MissingToothDecoder Runs

variable (d : MissingToothDecoder)

inductive DecoderOp
  | primaryEdge (timestamp : Ticks) (edge : TriggerEdge)
  | secondaryEdge (edge : TriggerEdge)
  | secondaryLevel (level : TriggerLevel)
  | reset
  deriving DecidableEq

def step : DecoderOp → MissingToothDecoder
  | .primaryEdge timestamp edge => (d.ingestPrimaryEdgeWithKind timestamp edge).1
  | .secondaryEdge edge => (d.ingestSecondaryEdge edge).1
  | .secondaryLevel level => (d.ingestSecondaryLevel level).1
  | .reset => d.reset

/-- The fields agree on the lock. -/
structure Coherent (d : MissingToothDecoder) : Prop where
  crank : d.primaryLocked = true ↔ d.diagnostics.authority.crank = .primaryLocked
  tooth : d.primaryLocked = true ↔ 1 ≤ d.currentTooth ∧ d.currentTooth ≤ d.observedTeeth
  counted : d.primaryLocked = true → d.teethSinceGap = d.currentTooth
  unlocked : d.primaryLocked = false → d.currentTooth = 0
  validated : d.diagnostics.authority.phase = .camValidated720 →
    d.primaryLocked = true ∧ d.phaseValidated = true

/-- The step is not an edge without a spacing on a locked decoder. -/
def Spaced : DecoderOp → Prop
  | .primaryEdge timestamp edge => d.primaryLocked = true → edge = d.config.primaryEdge →
      d.config.minimumEdgeInterval = 0 → d.lastEdgeTimestamp ≠ some timestamp
  | _ => True

instance : (op : DecoderOp) → Decidable (Spaced d op)
  | .primaryEdge timestamp _ => inferInstanceAs (Decidable (_ → _ → _ → _ ≠ some timestamp))
  | .secondaryEdge _ | .secondaryLevel _ | .reset => isTrue trivial

/-- The invariant of runs: a locked decoder has a last edge and a spacing to compare with. -/
structure Inv (d : MissingToothDecoder) : Prop extends Coherent d where
  observed : 2 ≤ d.observedTeeth
  normal : d.previousInterval = d.lastNormalInterval
  spacing : d.primaryLocked = true → d.previousInterval ≠ 0
  edge : d.primaryLocked = true → d.lastEdgeTimestamp ≠ none

/-! ### A fresh decoder -/

variable {d}

lemma inv_of_unlocked (hl : d.primaryLocked = false)
    (hc : d.diagnostics.authority.crank ≠ .primaryLocked)
    (hp : d.diagnostics.authority.phase ≠ .camValidated720) (ht : d.currentTooth = 0)
    (ho : 2 ≤ d.observedTeeth) (hn : d.previousInterval = d.lastNormalInterval) : Inv d where
  crank := by simp [hl, hc]
  tooth := by simp [hl, ht]
  counted := by simp [hl]
  unlocked := fun _ => ht
  validated := fun h => absurd h hp
  observed := ho
  normal := hn
  spacing := by simp [hl]
  edge := by simp [hl]

lemma inv_initial (config : MissingToothDecoderConfig) {observed : UInt8} (ho : 2 ≤ observed) :
    Inv (initial config observed) :=
  inv_of_unlocked rfl (fun h => nomatch h) (fun h => nomatch h) rfl ho rfl

lemma inv_tryNew {config : MissingToothDecoderConfig} (h : tryNew config = .ok d) : Inv d := by
  obtain ⟨-, -, ho, -, rfl⟩ := tryNew_ok h
  exact inv_initial config ho

/-! ### The ends of the paths -/

section paths

variable {d : MissingToothDecoder}

/-- A path that ends in a locked report, at a counted tooth. -/
lemma inv_setLockedAuthority (hl : d.primaryLocked = true) (h₁ : 1 ≤ d.currentTooth)
    (h₂ : d.currentTooth ≤ d.observedTeeth) (hc : d.teethSinceGap = d.currentTooth)
    (ho : 2 ≤ d.observedTeeth) (hn : d.previousInterval = d.lastNormalInterval)
    (hs : d.previousInterval ≠ 0) (he : d.lastEdgeTimestamp ≠ none) :
    Inv d.setLockedAuthority where
  crank := ⟨fun _ => rfl, fun _ => hl⟩
  tooth := ⟨fun _ => ⟨h₁, h₂⟩, fun _ => hl⟩
  counted := fun _ => hc
  unlocked := fun h => absurd (hl.symm.trans h) (by decide)
  validated := fun h => by
    refine ⟨hl, ?_⟩
    show d.phaseValidated = true
    by_contra hp
    simp [setLockedAuthority, hp] at h
  observed := ho
  normal := hn
  spacing := fun _ => hs
  edge := fun _ => he

/-- A path that ends in a search report, unlocked. -/
lemma inv_setSearchingAuthority (hl : d.primaryLocked = false) (ht : d.currentTooth = 0)
    (ho : 2 ≤ d.observedTeeth) (hn : d.previousInterval = d.lastNormalInterval) :
    Inv d.setSearchingAuthority :=
  inv_of_unlocked hl (fun h => nomatch h) (fun h => nomatch h) ht ho hn

/-- Nothing but notes changed: the cam flags, the observation and the last loss. -/
lemma Inv.noted (h : Inv d) (cam seen : Bool) (o : DecoderObservation)
    (loss : Option SyncLossReason) :
    Inv { d with
      camSeen := cam
      secondarySeenSinceGap := seen
      diagnostics := { d.diagnostics with observation := o, lastSyncLoss := loss } } :=
  ⟨⟨h.crank, h.tooth, h.counted, h.unlocked, h.validated⟩, h.observed, h.normal, h.spacing, h.edge⟩

lemma inv_dropSync (ho : 2 ≤ d.observedTeeth) (reason : SyncLossReason)
    (timestamp interval : Ticks) (ratio : UInt16) :
    Inv (d.dropSync reason timestamp interval ratio) :=
  inv_of_unlocked rfl (fun h => nomatch h) (fun h => nomatch h) rfl ho rfl

lemma Inv.setLockedAuthority (h : Inv d) (hl : d.primaryLocked = true) (cam seen phase : Bool)
    (o : DecoderObservation) (loss : Option SyncLossReason) :
    Inv ({ d with
      camSeen := cam
      secondarySeenSinceGap := seen
      phaseValidated := phase
      diagnostics := { d.diagnostics with observation := o, lastSyncLoss := loss } } :
        MissingToothDecoder).setLockedAuthority :=
  inv_setLockedAuthority hl (h.tooth.mp hl).1 (h.tooth.mp hl).2 (h.counted hl) h.observed h.normal
    (h.spacing hl) (h.edge hl)

lemma Inv.recordSecondaryFault (h : Inv d) (reason : SyncLossReason) :
    Inv (d.recordSecondaryFault reason) := by
  cases hl : d.primaryLocked with
  | true =>
    simp only [MissingToothDecoder.recordSecondaryFault, hl, if_true]
    simpa only [hl] using h.setLockedAuthority hl d.camSeen false false _ (some reason)
  | false =>
    simp only [MissingToothDecoder.recordSecondaryFault, hl, Bool.false_eq_true, if_false]
    exact inv_setSearchingAuthority rfl (h.unlocked hl) h.observed h.normal

variable (d) in
/-- Checking the secondary input keeps what the gap path goes on to use. -/
lemma validateSecondaryBeforeNextGap_keeps :
    d.validateSecondaryBeforeNextGap.lastNormalInterval = d.lastNormalInterval ∧
      d.validateSecondaryBeforeNextGap.observedTeeth = d.observedTeeth := by
  simp only [validateSecondaryBeforeNextGap, MissingToothDecoder.recordSecondaryFault]
  split_ifs <;> exact ⟨rfl, rfl⟩

lemma Inv.acceptGap (h : Inv d) (hp : d.previousInterval ≠ 0) (timestamp interval : Ticks)
    (ratio : UInt16) : Inv (d.acceptGap timestamp interval ratio).1 := by
  obtain ⟨hn, ho⟩ := validateSecondaryBeforeNextGap_keeps d
  unfold MissingToothDecoder.acceptGap
  split_ifs
  · exact inv_dropSync h.observed _ _ _ _
  · have h2 : 2 ≤ d.validateSecondaryBeforeNextGap.observedTeeth := ho ▸ h.observed
    have h1 : 1 ≤ d.validateSecondaryBeforeNextGap.observedTeeth := UInt8.le_trans (by decide) h2
    exact inv_setLockedAuthority rfl (UInt8.le_refl 1) h1 rfl h2 rfl
      (fun he => hp (h.normal.trans (hn.symm.trans he))) (fun he => nomatch he)

lemma satAdd8_one {n m : UInt8} (h : n < m) : satAdd8 n 1 ≤ m ∧ 1 ≤ satAdd8 n 1 := by
  have hn := toNat_satAdd8_one h m.toNat_lt
  rw [UInt8.le_iff_toNat_le, UInt8.le_iff_toNat_le, hn]
  exact ⟨h, Nat.le_add_left 1 _⟩

lemma Inv.acceptTooth (h : Inv d) (timestamp : Ticks) {interval : Ticks} (hi : interval ≠ 0)
    (ratio : UInt16) : Inv (d.acceptTooth timestamp interval ratio).1 := by
  cases hl : d.primaryLocked with
  | true =>
    by_cases hc : d.currentTooth ≥ d.observedTeeth
    · simp only [MissingToothDecoder.acceptTooth, hl, hc, decide_true, Bool.and_self, if_true]
      exact inv_dropSync h.observed _ _ _ _
    · obtain ⟨hle, hge⟩ := satAdd8_one (UInt8.not_le.mp hc)
      simp only [MissingToothDecoder.acceptTooth, updateObservation, hl, hc, decide_false,
        Bool.and_false, Bool.false_eq_true, if_true, if_false]
      exact inv_setLockedAuthority rfl hge hle (congrArg (satAdd8 · 1) (h.counted hl)) h.observed
        rfl hi (fun he => nomatch he)
  | false =>
    simp only [MissingToothDecoder.acceptTooth, updateObservation, hl, Bool.false_and,
      Bool.false_eq_true, if_false]
    exact inv_setSearchingAuthority rfl (h.unlocked hl) h.observed rfl

/-- The path for edges without a spacing keeps the invariant just when there is no lock. -/
lemma Inv.acceptUnmeasured (h : Inv d) (hl : d.primaryLocked = false) (timestamp interval : Ticks) :
    Inv (d.acceptUnmeasured timestamp interval) :=
  inv_setSearchingAuthority hl (h.unlocked hl) h.observed rfl

end paths

/-! ### One operation -/

section operations

variable {d : MissingToothDecoder}

lemma inv_ingestSecondaryEdge (h : Inv d) (edge : TriggerEdge) :
    Inv (d.ingestSecondaryEdge edge).1 := by
  unfold ingestSecondaryEdge
  split
  · by_cases he : edge ≠ d.config.secondary.edge
    · rw [if_pos he]
      exact h.recordSecondaryFault _
    rw [if_neg he]
    have hseen := h.noted true d.secondarySeenSinceGap
      { d.diagnostics.observation with camSeen := true } d.diagnostics.lastSyncLoss
    cases hl : d.primaryLocked with
    | true =>
      simp only [hl, if_true] at hseen ⊢
      split_ifs
      · exact hseen.recordSecondaryFault _
      · exact hseen.setLockedAuthority rfl true true true _ _
    | false =>
      simp only [hl, Bool.false_eq_true, if_false] at hseen ⊢
      exact hseen
  all_goals exact h.recordSecondaryFault _

lemma inv_ingestSecondaryLevel (h : Inv d) (level : TriggerLevel) :
    Inv (d.ingestSecondaryLevel level).1 := by
  unfold ingestSecondaryLevel
  split
  · split_ifs with hl hp
    · exact h.recordSecondaryFault _
    · exact h.recordSecondaryFault _
    · have hlock : d.primaryLocked = true := by
        cases hd : d.primaryLocked <;> simp [hd] at hl ⊢
      exact h.setLockedAuthority hlock true true true _ _
  all_goals exact h.recordSecondaryFault _

/-- **One primary edge.** It keeps the invariant, unless it comes at the timestamp of the last
edge of a locked decoder; then the fields disagree. -/
lemma ingestPrimaryEdge_cases (h : Inv d) (timestamp : Ticks) (edge : TriggerEdge) :
    (Spaced d (.primaryEdge timestamp edge) ∧ Inv (d.ingestPrimaryEdgeWithKind timestamp edge).1) ∨
      (¬ Spaced d (.primaryEdge timestamp edge) ∧
        ¬ Coherent (d.ingestPrimaryEdgeWithKind timestamp edge).1) := by
  by_cases hkind : edge = d.config.primaryEdge
  swap
  -- an edge of the other kind is only noted
  · refine .inl ⟨fun _ he => absurd he hkind, ?_⟩
    cases hl : d.primaryLocked with
    | true =>
      simp only [ingestPrimaryEdgeWithKind, if_pos hkind, hl, if_true]
      simpa only [hl] using h.noted d.camSeen d.secondarySeenSinceGap _ _
    | false =>
      simp only [ingestPrimaryEdgeWithKind, if_pos hkind, hl, Bool.false_eq_true, if_false]
      exact inv_setSearchingAuthority rfl (h.unlocked hl) h.observed h.normal
  simp only [ingestPrimaryEdgeWithKind, if_neg (not_not.mpr hkind)]
  cases hlast : d.lastEdgeTimestamp with
  | none =>
    have hl : d.primaryLocked = false := by
      by_contra hl
      exact h.edge (Bool.eq_true_of_not_eq_false hl) hlast
    refine .inl ⟨fun hl' => absurd (hl.symm.trans hl') (by decide), ?_⟩
    exact inv_setSearchingAuthority hl (h.unlocked hl) h.observed h.normal
  | some last =>
    by_cases hfilter : elapsedTicks timestamp last < d.config.minimumEdgeInterval
    · simp only [hfilter, if_true]
      refine .inl ⟨fun _ _ hm => absurd hfilter (hm ▸ UInt32.not_lt_zero), ?_⟩
      simpa only [hlast] using h.noted d.camSeen d.secondarySeenSinceGap _ d.diagnostics.lastSyncLoss
    simp only [hfilter, if_false]
    by_cases hun : d.previousInterval = 0 ∨ elapsedTicks timestamp last = 0
    · simp only [hun, if_true]
      cases hl : d.primaryLocked with
      | false =>
        exact .inl ⟨fun hl' => absurd (hl.symm.trans hl') (by decide),
          h.acceptUnmeasured hl timestamp _⟩
      | true =>
        -- locked, so it is the new spacing that is zero
        have hzero : elapsedTicks timestamp last = 0 := hun.resolve_left (h.spacing hl)
        have hsame : timestamp = last := elapsedTicks_eq_zero.mp hzero
        have hmin : d.config.minimumEdgeInterval = 0 :=
          UInt32.le_zero_iff.mp (hzero ▸ UInt32.not_lt.mp hfilter)
        refine .inr ⟨fun hs => hs hl hkind hmin (hsame ▸ hlast), ?_⟩
        exact fun h => nomatch h.crank.mp hl
    · obtain ⟨hp, hi⟩ := not_or.mp hun
      simp only [hun, if_false, missingToothGapDetected_ok hi hp]
      refine .inl ⟨fun _ _ _ hs => hi ?_, ?_⟩
      · exact elapsedTicks_eq_zero.mpr (Option.some.inj (hlast.symm.trans hs)).symm
      · split_ifs
        · exact h.acceptGap hp _ _ _
        · exact h.acceptTooth _ hi _

lemma step_cases (h : Inv d) (op : DecoderOp) :
    (Spaced d op ∧ Inv (step d op)) ∨ (¬ Spaced d op ∧ ¬ Coherent (step d op)) := by
  cases op with
  | primaryEdge timestamp edge => exact ingestPrimaryEdge_cases h timestamp edge
  | secondaryEdge edge => exact .inl ⟨trivial, inv_ingestSecondaryEdge h edge⟩
  | secondaryLevel level => exact .inl ⟨trivial, inv_ingestSecondaryLevel h level⟩
  | reset => exact .inl ⟨trivial, inv_initial d.config h.observed⟩

lemma coherent_step_iff (h : Inv d) (op : DecoderOp) : Coherent (step d op) ↔ Spaced d op := by
  rcases step_cases h op with ⟨hs, hi⟩ | ⟨hs, hi⟩
  · exact iff_of_true hi.toCoherent hs
  · exact iff_of_false hi hs

lemma inv_step (h : Inv d) {op : DecoderOp} (hs : Spaced d op) : Inv (step d op) := by
  rcases step_cases h op with ⟨-, hi⟩ | ⟨hn, -⟩
  · exact hi
  · exact absurd hs hn

end operations

/-- **The lock is coherent along a run** of an accepted decoder, in every state the run reaches,
exactly when no step is an edge at the timestamp of the last edge, on a locked decoder without an
edge filter. -/
theorem coherent_along_iff {config : MissingToothDecoderConfig} {d : MissingToothDecoder}
    (hnew : tryNew config = .ok d) (ops : List DecoderOp) :
    (Coherent d ∧ Along step (fun d op => Coherent (step d op)) d ops) ↔
      Along step Spaced d ops := by
  have hinv := inv_tryNew hnew
  have hiff : Along step (fun d op => Coherent (step d op)) d ops ↔ Along step Spaced d ops :=
    along_iff_of_inv (I := Inv) (L := fun _ _ => True)
      (fun _ op h _ => coherent_step_iff h op)
      (fun _ op h _ hq => inv_step h ((coherent_step_iff h op).mp hq))
      hinv along_true
  exact ⟨fun h => hiff.mp h.2, fun h => ⟨hinv.toCoherent, hiff.mpr h⟩⟩

/-- Rising edges at the given times. -/
def risingEdges (timestamps : List Ticks) : List DecoderOp :=
  timestamps.map (.primaryEdge · .rising)

theorem coherent_along_iff_fourMinusOne :
    tryNew fourMinusOne = .ok (initial fourMinusOne 3) ∧
      Coherent (initial fourMinusOne 3) ∧
      Along step (fun d op => Coherent (step d op)) (initial fourMinusOne 3)
        (risingEdges [100, 200, 300, 500, 600] ++ [.secondaryEdge .rising, .reset]) :=
  have hnew : tryNew fourMinusOne = .ok (initial fourMinusOne 3) := rfl
  ⟨hnew, (coherent_along_iff hnew _).mpr (by decide +kernel)⟩

/-- The gap at 500 locks; a second edge at 500 reports a search and keeps the lock. -/
theorem repeated_edge_splits_lock :
    let d := run step (initial fourMinusOne 3) (risingEdges [100, 200, 300, 500, 500])
    tryNew fourMinusOne = .ok (initial fourMinusOne 3) ∧ d.primaryLocked = true ∧
      d.diagnostics.authority.crank = .primarySearching ∧ d.teethSinceGap ≠ d.currentTooth ∧
      ¬ Coherent d := by
  refine ⟨rfl, by decide +kernel, by decide +kernel, by decide +kernel, fun h => ?_⟩
  exact absurd (h.crank.mp (by decide +kernel)) (by decide +kernel)

end Pipoco.TrigCoherence
