import Pipoco.CompatFuel
import Pipoco.Evidence

/-!
When acceleration enrichment is triggered.

Every refresh compares how fast throttle and pressure have changed since the last one with two
thresholds. The rates are computed in 64 bits and narrowed to 16, the rate of the pressure is in
tenths of its threshold's unit, and a refresh at clock zero passes for none.
-/

namespace Pipoco.Acceleration

open Runs Evidence CompatFuel CompatFuel.FuelState

/-- A refresh and when it happens. -/
structure Call where
  time : ℕ
  (cltX10 iatX10 : Int16)
  tpsPercent : UInt8
  mapKpaX10 : UInt16
  deriving DecidableEq

variable (e : FuelState) (delta : ℤ) (x : Call) (dtUs : ℕ)

def refresh : FuelState :=
  e.refreshEnrichments (stamp x.time) x.cltX10 x.iatX10 x.tpsPercent x.mapKpaX10

def tpsdot : Int16 :=
  if e.lastEnrichmentUpdateUs = 0 then 0
  else rate e.lastEnrichmentTpsPercent.toNat x.tpsPercent.toNat
    (stamp x.time - e.lastEnrichmentUpdateUs)

def mapdot : Int16 :=
  if e.lastEnrichmentUpdateUs = 0 then 0
  else rate e.lastEnrichmentMapKpaX10.toNat x.mapKpaX10.toNat
    (stamp x.time - e.lastEnrichmentUpdateUs)

/-- The refresh triggers the enrichment: it leaves it active from now on, with the whole gain. -/
def Triggers : Prop :=
  (refresh e x).aeState = ⟨true, e.aeConfig.percentGain, stamp x.time⟩ ∧
    (refresh e x).aePercent = e.aeConfig.percentGain
  deriving Decidable

/-- The refresh triggers nothing: the time of the last trigger stays, and an enrichment that is off
is left as it is. -/
structure Rests : Prop where
  time : (refresh e x).aeState.lastTriggerUs = e.aeState.lastTriggerUs
  off : e.aeState.active = false → (refresh e x).aeState = e.aeState

/-- The engine state with the last refresh and the time of the last trigger. -/
structure Watched where
  state : FuelState
  last : Option Call
  trigger : Option ℕ

def start : Watched := ⟨e, none, none⟩

variable (w : Watched)

def step (x : Call) : Watched :=
  ⟨refresh w.state x, some x, if Triggers w.state x then some x.time else w.trigger⟩

/-- A change of `delta` in a time is at least `threshold` a second. -/
def AtLeast (threshold delta : ℤ) (dtUs : ℕ) : Prop := threshold * dtUs ≤ delta * 1000000
  deriving Decidable

/-- The change of the throttle, in percent. -/
def tpsDelta (p x : Call) : ℤ := x.tpsPercent.toNat - p.tpsPercent.toNat

/-- The change of the pressure, in tenths of a kilopascal. -/
def mapDelta (p x : Call) : ℤ := x.mapKpaX10.toNat - p.mapKpaX10.toNat

/-- Throttle or pressure changes at least as fast as its threshold. -/
def Fast (cfg : AeConfig) (p x : Call) : Prop :=
  AtLeast cfg.tpsdotThreshPctS.toInt (tpsDelta p x) (x.time - p.time) ∨
    AtLeast (10 * cfg.mapdotThreshKpaS.toInt) (mapDelta p x) (x.time - p.time)

def LockoutOver (x : Call) : Prop :=
  ∀ t ∈ w.trigger, t + w.state.aeConfig.lockoutMs.toNat * 1000 ≤ x.time
  deriving Decidable

/-- **What a refresh owes.** -/
structure Prompt (w : Watched) (x : Call) : Prop where
  fast : ∀ p ∈ w.last, Fast w.state.aeConfig p x → LockoutOver w x → Triggers w.state x
  slow : ∀ p ∈ w.last, 0 < w.state.aeConfig.tpsdotThreshPctS →
    0 < w.state.aeConfig.mapdotThreshKpaS → ¬ Fast w.state.aeConfig p x → Rests w.state x

/-- A quotient that 16 bits hold. -/
def Fits : Prop :=
  -32768 ≤ (delta * 1000000).tdiv dtUs ∧ (delta * 1000000).tdiv dtUs ≤ 32767
  deriving Decidable

/-- The refreshes that meet none of the slips: both rates fit 16 bits, the pressure reaches its
threshold in kilopascal if it does in tenths, the last refresh was neither at clock zero nor a turn
of the clock ago, and the clock has not hidden that the lockout is over. -/
@[mk_iff]
structure Clear (w : Watched) (x : Call) : Prop where
  tps : ∀ p ∈ w.last, Fits (tpsDelta p x) (x.time - p.time)
  map : ∀ p ∈ w.last, Fits (mapDelta p x) (x.time - p.time)
  units : ∀ p ∈ w.last,
    (AtLeast w.state.aeConfig.mapdotThreshKpaS.toInt (mapDelta p x) (x.time - p.time) ↔
      AtLeast (10 * w.state.aeConfig.mapdotThreshKpaS.toInt) (mapDelta p x) (x.time - p.time))
  clock : ∀ p ∈ w.last, stamp p.time ≠ 0 ∧ x.time - p.time < 2 ^ 32
  lockout : LockoutOver w x → ∀ t ∈ w.trigger,
    w.state.aeConfig.lockoutMs.toNat * 1000 % 2 ^ 32 ≤ (x.time - t) % 2 ^ 32

instance (x : Call) : Decidable (Clear w x) := decidable_of_iff' _ (clear_iff w x)

/-- The refresh is later than the one before. -/
def Later (x : Call) : Prop := ∀ p ∈ w.last, p.time < x.time
  deriving Decidable

/-- What the state remembers of the last refresh and the last trigger. -/
structure Inv (w : Watched) : Prop where
  last : ∀ p ∈ w.last, w.state.lastEnrichmentUpdateUs = stamp p.time ∧
    w.state.lastEnrichmentTpsPercent = p.tpsPercent ∧ w.state.lastEnrichmentMapKpaX10 = p.mapKpaX10
  untriggered : w.trigger = none → w.state.aeState = .new
  trigger : ∀ t ∈ w.trigger, w.state.aeState.lastTriggerUs = stamp t ∧ ∃ p ∈ w.last, t ≤ p.time

/-- A rate reaches its threshold and the lockout is over. -/
def Due : Prop :=
  (e.aeConfig.tpsdotThreshPctS ≤ tpsdot e x ∨ e.aeConfig.mapdotThreshKpaS ≤ mapdot e x) ∧
    e.aeState.Ready (stamp x.time) e.aeConfig

section

variable {e : FuelState} {w : Watched} {x : Call}

lemma Due.triggers (h : Due e x) : Triggers e x := by
  have hupdate : e.aeState.update (stamp x.time) (tpsdot e x) (mapdot e x) e.aeConfig =
      (⟨true, e.aeConfig.percentGain, stamp x.time⟩, e.aeConfig.percentGain) := if_pos h
  exact ⟨congrArg Prod.fst hupdate, congrArg Prod.snd hupdate⟩

lemma Rests.of_not_due (h : ¬ Due e x) : Rests e x := by
  have hstate : (refresh e x).aeState =
      if e.aeState.active then e.aeState.decayed (stamp x.time) e.aeConfig else e.aeState :=
    congrArg Prod.fst (if_neg h)
  refine ⟨?_, fun hoff => by rw [hstate, hoff, if_neg Bool.false_ne_true]⟩
  rw [hstate]
  simp only [AeState.decayed]
  split_ifs <;> rfl

lemma Inv.step (h : Inv w) (hx : Later w x) : Inv (step w x) := by
  have hrests (hn : ¬ Triggers w.state x) : Rests w.state x := .of_not_due fun hd => hn hd.triggers
  refine ⟨fun p hp => ?_, fun hn => ?_, fun t ht => ?_⟩
  · cases hp
    exact ⟨rfl, rfl, rfl⟩
  all_goals simp only [Acceleration.step] at *
  · split_ifs at hn with htrig
    have hnew := h.untriggered hn
    exact ((hrests htrig).off (by rw [hnew]; rfl)).trans hnew
  · split_ifs at ht with htrig
    · cases ht
      exact ⟨by rw [htrig.1], x, rfl, le_rfl⟩
    · obtain ⟨hstamp, p, hp, hle⟩ := h.trigger t ht
      exact ⟨(hrests htrig).time.trans hstamp, x, rfl, hle.trans (hx p hp).le⟩

/-- A threshold that the change reaches is one that the rate reaches, and so the other way round if
it is positive. -/
lemma rate_spec {last now p x : ℕ} {threshold : Int16} (hp : p < x) (hlt : x - p < 2 ^ 32)
    (hfits : Fits ((now : ℤ) - last) (x - p)) :
    (AtLeast threshold.toInt ((now : ℤ) - last) (x - p) →
        threshold ≤ rate last now (stamp x - stamp p)) ∧
      (0 < threshold → threshold ≤ rate last now (stamp x - stamp p) →
        AtLeast threshold.toInt ((now : ℤ) - last) (x - p)) := by
  have hdt : (max (stamp x - stamp p) 1).toNat = x - p := by
    have hsub : (stamp x - stamp p).toNat = x - p := by
      rw [toNat_stamp_sub hp.le, Nat.mod_eq_of_lt hlt]
    show (if _ ≤ (1 : UInt32) then 1 else _ : UInt32).toNat = _
    simp only [UInt32.le_iff_toNat_le, hsub, show (1 : UInt32).toNat = 1 from rfl]
    split_ifs with h
    · exact (show x - p = 1 by omega).symm
    · exact hsub
  have hpos : (0 : ℤ) < (x - p : ℕ) := by omega
  have hrate : (rate last now (stamp x - stamp p)).toInt =
      (((now : ℤ) - last) * 1000000).tdiv (x - p : ℕ) := by
    rw [rate, hdt, Int16.toInt_ofInt_of_le hfits.1 (by have := hfits.2; omega)]
  rw [Int16.le_iff_toInt_le, Int16.lt_iff_toInt_lt, hrate, AtLeast, Int16.toInt_zero]
  generalize ((now : ℤ) - last) * 1000000 = n
  rcases le_or_gt 0 n with hn | hn
  · rw [Int.tdiv_eq_ediv_of_nonneg hn, Int.le_ediv_iff_mul_le hpos]
    exact ⟨id, fun _ => id⟩
  · obtain ⟨m, rfl⟩ : ∃ m, n = -m := ⟨-n, (neg_neg n).symm⟩
    have hneg := Int.ediv_nonneg (show 0 ≤ m by omega) hpos.le
    rw [Int.neg_tdiv, Int.tdiv_eq_ediv_of_nonneg (by omega)]
    refine ⟨fun h => ?_, fun h h' => by omega⟩
    have := Int.ediv_le_of_le_mul hpos (show m ≤ -threshold.toInt * (x - p : ℕ) by linarith)
    omega

lemma Prompt.of_clear (hi : Inv w) (hl : Later w x) (hc : Clear w x) : Prompt w x := by
  have hready (hover : LockoutOver w x) : w.state.aeState.Ready (stamp x.time) w.state.aeConfig := by
    cases ht : w.trigger with
    | none =>
      rw [hi.untriggered ht]
      exact .inl ⟨rfl, rfl⟩
    | some t =>
      obtain ⟨hstamp, p, hp, hle⟩ := hi.trigger t ht
      refine .inr ?_
      rw [UInt32.le_iff_toNat_le, hstamp, toNat_stamp_sub (hle.trans (hl p hp).le), UInt32.toNat_mul]
      exact hc.lockout hover t ht
  have htpsdot {p : Call} (hp : w.last = some p) :
      tpsdot w.state x = rate p.tpsPercent.toNat x.tpsPercent.toNat (stamp x.time - stamp p.time) := by
    obtain ⟨hus, htps, -⟩ := hi.last p hp
    rw [tpsdot, hus, htps, if_neg (hc.clock p hp).1]
  have hmapdot {p : Call} (hp : w.last = some p) :
      mapdot w.state x = rate p.mapKpaX10.toNat x.mapKpaX10.toNat (stamp x.time - stamp p.time) := by
    obtain ⟨hus, -, hmap⟩ := hi.last p hp
    rw [mapdot, hus, hmap, if_neg (hc.clock p hp).1]
  refine ⟨fun p hp hfast hover => Due.triggers ⟨?_, hready hover⟩,
    fun p hp htps hmap hslow => .of_not_due fun hdue => hslow ?_⟩
  · rw [htpsdot hp, hmapdot hp]
    refine hfast.imp (rate_spec (hl p hp) (hc.clock p hp).2 (hc.tps p hp)).1 fun h => ?_
    exact (rate_spec (hl p hp) (hc.clock p hp).2 (hc.map p hp)).1 ((hc.units p hp).mpr h)
  · have hfast := hdue.1
    rw [htpsdot hp, hmapdot hp] at hfast
    refine hfast.imp ((rate_spec (hl p hp) (hc.clock p hp).2 (hc.tps p hp)).2 htps) fun h => ?_
    exact (hc.units p hp).mp ((rate_spec (hl p hp) (hc.clock p hp).2 (hc.map p hp)).2 hmap h)

/-- **Acceleration enrichment.** -/
theorem prompt_along {e : FuelState} {calls : List Call} (hnew : e.aeState = .new)
    (hl : Along step Later (start e) calls) (hc : Along step Clear (start e) calls) :
    Along step Prompt (start e) calls := by
  refine along_of_inv (I := Inv) (C := fun w x => Later w x ∧ Clear w x)
    (fun w x hi h => Prompt.of_clear hi h.1 h.2) (fun w x hi h => hi.step h.1) ?_
    (along_and.mpr ⟨hl, hc⟩)
  exact ⟨fun p hp => (by cases hp), fun _ => hnew, fun t ht => (by cases ht)⟩

end

/-- Thirty percent of throttle in a tenth of a second, and back. -/
theorem prompt_along_tipIn :
    Along step Prompt (start .new)
      [⟨1000, 0, 0, 0, 500⟩, ⟨101000, 0, 0, 30, 500⟩, ⟨401000, 0, 0, 0, 500⟩] :=
  prompt_along rfl (by decide +kernel) (by decide +kernel)

/-- Ten percent of throttle within a tenth of a millisecond do not trigger the enrichment; one
kilopascal within a tenth of a second, an eighth of the threshold, does. -/
theorem fast_throttle_ignored :
    ¬ Triggers (refresh .new ⟨1000, 0, 0, 0, 500⟩) ⟨1100, 0, 0, 10, 500⟩ ∧
      Triggers (refresh .new ⟨1000, 0, 0, 0, 500⟩) ⟨101000, 0, 0, 0, 510⟩ := by
  decide +kernel

end Pipoco.Acceleration
