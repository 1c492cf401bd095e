import Pipoco.Control
import Pipoco.Evidence

/-!
The gates and the trim of the lambda planner over whole runs.

A start stores the clock reading at which the startup delay ends, and later readings are compared
with it as numbers. The correction is computed in 16 bits.
-/

namespace Pipoco.LambdaGates

open Runs Domain Control Evidence
open LambdaTrimPlanner (rawTrim)

/-- An update and when it happens. -/
structure Sample where
  time : ℕ
  cltC : Int16
  (justStarted lambdaValid : Bool)
  measured : Lambda100
  requestedOpenLoop : Bool
  load : Kpa10
  (freeze cut : Bool)

variable (cfg : LambdaTrimConfig) (x : Sample)

def Sample.inputs : LambdaTrimInputs :=
  ⟨stamp x.time, x.cltC, x.justStarted, x.lambdaValid, x.measured, x.requestedOpenLoop⟩

/-- A planner, the last start, and the trim of the last active step since the loop closed, or 100. -/
structure Watched where
  planner : LambdaTrimPlanner
  time : ℕ
  started : Option ℕ
  kept : Int16

def start : Watched := ⟨.new, 0, none, 100⟩

variable (w : Watched)

def lastStart (x : Sample) : Option ℕ := if x.justStarted then some x.time else w.started

def result (x : Sample) : Option (LambdaTrimPlanner × LambdaTrimResult) :=
  w.planner.update x.inputs cfg x.load x.freeze x.cut

def step (x : Sample) : Watched :=
  match result cfg w x with
  | none => w
  | some (p, r) => ⟨p, x.time, lastStart w x,
      if r.mode = .openLoop then 100 else if r.active then r.trimX100 else w.kept⟩

/-- The correction before it is clamped, over the integers. -/
def exactTrim : ℤ :=
  100 + (((cfg.closedLoopTarget.toNat : ℤ) - x.measured.toNat) * cfg.gainX10.toNat).tdiv 10

/-- What a result owes. -/
structure Owes (cfg : LambdaTrimConfig) (w : Watched) (x : Sample) (r : LambdaTrimResult) : Prop where
  delayed : r.mode = .closedLoop → ∀ t ∈ lastStart w x, t + cfg.startupDelayUs.toNat ≤ x.time
  released : r.disableReason = .startupDelay →
    ∃ t ∈ lastStart w x, x.time < t + cfg.startupDelayUs.toNat
  active : r.active = true → r.mode = .closedLoop ∧
    r.trimX100.toInt = clampInt (exactTrim cfg x) cfg.minTrimX100.toInt cfg.maxTrimX100.toInt
  openLoop : r.mode = .openLoop → r.trimX100 = 100
  frozen : r.mode = .closedLoop → r.active = false → r.trimX100 = w.kept

/-- The planner answers as it should. -/
def Gated (x : Sample) : Prop := ∃ p r, result cfg w x = some (p, r) ∧ Owes cfg w x r

/-- The end of the delay is a reading of the turn of the start, and a reading of a later turn lies
past it; the product fits 16 bits. -/
structure Fits (cfg : LambdaTrimConfig) (w : Watched) (x : Sample) : Prop where
  deadline : ∀ t ∈ lastStart w x, t % 2 ^ 32 + cfg.startupDelayUs.toNat < 2 ^ 32 ∧
    (x.time / 2 ^ 32 = t / 2 ^ 32 ∨ t % 2 ^ 32 + cfg.startupDelayUs.toNat ≤ x.time % 2 ^ 32)
  product : -2 ^ 15 ≤ ((cfg.closedLoopTarget.toNat : ℤ) - x.measured.toNat) * cfg.gainX10.toNat ∧
    ((cfg.closedLoopTarget.toNat : ℤ) - x.measured.toNat) * cfg.gainX10.toNat < 2 ^ 15

instance (x : Sample) : Decidable (Fits cfg w x) :=
  decidable_of_iff (_ ∧ _) ⟨fun h => ⟨h.1, h.2⟩, fun h => ⟨h.1, h.2⟩⟩

/-- What the planner knows between updates. -/
structure Inv (cfg : LambdaTrimConfig) (w : Watched) : Prop where
  trim : w.planner.lastTrimX100 = w.kept
  deadline : w.planner.startupDelayUntilUs =
    w.started.map fun t => satAdd32 (stamp t) cfg.startupDelayUs
  le : ∀ t ∈ w.started, t ≤ w.time

section

variable {cfg : LambdaTrimConfig} {w : Watched} {x : Sample}

/-- The stored reading is compared with the clock as the times are. -/
lemma lt_deadline_iff {t n : ℕ} {d : UInt32} (hle : t ≤ n) (hd : t % 2 ^ 32 + d.toNat < 2 ^ 32)
    (hn : n / 2 ^ 32 = t / 2 ^ 32 ∨ t % 2 ^ 32 + d.toNat ≤ n % 2 ^ 32) :
    stamp n < satAdd32 (stamp t) d ↔ n < t + d.toNat := by
  have hdead : (satAdd32 (stamp t) d).toNat = t % 2 ^ 32 + d.toNat := by
    simp only [satAdd32, stamp, UInt32.toNat_ofNat']
    omega
  rw [UInt32.lt_iff_toNat_lt, hdead, stamp, UInt32.toNat_ofNat']
  omega

lemma toInt_rawTrim (h : Fits cfg w x) : (rawTrim x.inputs cfg).toInt = exactTrim cfg x := by
  obtain ⟨hlo, hhi⟩ := h.product
  have hread (a : UInt16) : a.toInt16.toInt = (a.toNat : ℤ).bmod (2 ^ 16) :=
    BitVec.toInt_eq_toNat_bmod _
  have hprod : ((cfg.closedLoopTarget.toInt16 - x.measured.toInt16) *
      cfg.gainX10.toUInt16.toInt16).toInt =
      ((cfg.closedLoopTarget.toNat : ℤ) - x.measured.toNat) * cfg.gainX10.toNat := by
    rw [Int16.toInt_mul, Int16.toInt_sub, hread, hread, hread, Int.bmod_sub_bmod, Int.sub_bmod_bmod,
      Int.bmod_mul_bmod, Int.mul_bmod_bmod]
    exact Int.bmod_eq_of_le hlo hhi
  have hq := Int.tdiv_le_tdiv (show (0 : ℤ) < 10 by decide) hlo
  have hq' := Int.tdiv_le_tdiv (show (0 : ℤ) < 10 by decide) hhi.le
  rw [show (-2 ^ 15 : ℤ).tdiv 10 = -3276 from rfl] at hq
  rw [show (2 ^ 15 : ℤ).tdiv 10 = 3276 from rfl] at hq'
  simp only [rawTrim, Sample.inputs, exactTrim, Int16.toInt_add, Int16.toInt_div, hprod,
    show (10 : Int16).toInt = 10 from rfl, show (100 : Int16).toInt = 100 from rfl]
  rw [Int.bmod_eq_of_le (n := Int.tdiv _ _) (by omega) (by omega), Int.bmod_eq_of_le (by omega) (by omega)]

/-- The planner that has looked at the start knows when the delay ends. -/
lemma delayed_deadline (hi : Inv cfg w) :
    (w.planner.delayed x.inputs cfg).startupDelayUntilUs =
      (lastStart w x).map fun t => satAdd32 (stamp t) cfg.startupDelayUs := by
  cases hs : x.justStarted <;>
    simp [LambdaTrimPlanner.delayed, Sample.inputs, lastStart, hs, hi.deadline]

lemma lastStart_le (hi : Inv cfg w) (hle : w.time ≤ x.time) : ∀ t ∈ lastStart w x, t ≤ x.time := by
  intro t ht
  rw [lastStart] at ht
  split_ifs at ht
  · cases ht
    exact le_rfl
  · exact (hi.le t ht).trans hle

lemma delay_iff (hi : Inv cfg w) (hle : w.time ≤ x.time) (h : Fits cfg w x) :
    ((w.planner.delayed x.inputs cfg).startupDelayUntilUs.any fun u => x.inputs.nowUs < u) = true ↔
      ∃ t ∈ lastStart w x, x.time < t + cfg.startupDelayUs.toNat := by
  rw [delayed_deadline hi]
  cases hs : lastStart w x with
  | none => simp
  | some t =>
    obtain ⟨hfit, hturn⟩ := h.deadline t hs
    show decide (stamp x.time < satAdd32 (stamp t) cfg.startupDelayUs) = true ↔ _
    rw [decide_eq_true_iff, lt_deadline_iff (lastStart_le hi hle t hs) hfit hturn]
    simp

lemma result_cases (hlim : cfg.minTrimX100 ≤ cfg.maxTrimX100) :
    let p := w.planner.delayed x.inputs cfg
    let reason := p.disableReason x.inputs cfg x.load
    let trim := max cfg.minTrimX100 (min (rawTrim x.inputs cfg) cfg.maxTrimX100)
    (reason ≠ .none ∧ result cfg w x = some ({ p with lastMode := .openLoop, lastTrimX100 := 100 },
      ⟨.openLoop, false, cfg.openLoopTarget, x.measured, 100, reason⟩)) ∨
    (reason = .none ∧ ∃ why, why ≠ .startupDelay ∧ result cfg w x = some ({ p with lastMode := .closedLoop },
      ⟨.closedLoop, false, cfg.closedLoopTarget, x.measured, p.lastTrimX100, why⟩)) ∨
    (reason = .none ∧ result cfg w x = some ({ p with lastMode := .closedLoop, lastTrimX100 := trim },
      ⟨.closedLoop, true, cfg.closedLoopTarget, x.measured, trim, .none⟩)) := by
  intro p reason trim
  simp only [result, LambdaTrimPlanner.update]
  by_cases hr : reason = .none
  · have hcross : ¬ cfg.minTrimX100 > cfg.maxTrimX100 := Int16.not_lt.mpr hlim
    rw [if_neg (not_not.mpr hr), if_neg hcross]
    cases x.cut with
    | true => exact .inr (.inl ⟨hr, _, by decide, rfl⟩)
    | false =>
      cases x.freeze with
      | true => exact .inr (.inl ⟨hr, _, by decide, rfl⟩)
      | false => exact .inr (.inr ⟨hr, rfl⟩)
  · exact .inl ⟨hr, if_pos hr⟩

/-- What the reason says about the startup delay. -/
lemma disableReason_delay (p : LambdaTrimPlanner) (inputs : LambdaTrimInputs) (load : Kpa10) :
    (p.disableReason inputs cfg load = .none →
        (p.startupDelayUntilUs.any fun u => inputs.nowUs < u) = false) ∧
      (p.disableReason inputs cfg load = .startupDelay →
        (p.startupDelayUntilUs.any fun u => inputs.nowUs < u) = true) := by
  rw [LambdaTrimPlanner.disableReason]
  split_ifs <;> simp_all

lemma Inv.step (hlim : cfg.minTrimX100 ≤ cfg.maxTrimX100) (hi : Inv cfg w) (hle : w.time ≤ x.time)
    (h : Fits cfg w x) : Inv cfg (step cfg w x) ∧ Gated cfg w x := by
  have hdead := delayed_deadline (x := x) hi
  have htrim : (w.planner.delayed x.inputs cfg).lastTrimX100 = w.kept := by
    rw [← hi.trim, LambdaTrimPlanner.delayed]
    split_ifs <;> rfl
  have hlast := lastStart_le hi hle
  have hdelay := delay_iff hi hle h
  obtain ⟨hnone, hshut⟩ := disableReason_delay (w.planner.delayed x.inputs cfg) x.inputs x.load
  have hclosed (hr : (w.planner.delayed x.inputs cfg).disableReason x.inputs cfg x.load = .none) :
      ∀ t ∈ lastStart w x, t + cfg.startupDelayUs.toNat ≤ x.time := by
    intro t ht
    by_contra hlt
    have hany := hdelay.mpr ⟨t, ht, by omega⟩
    rw [hnone hr] at hany
    cases hany
  rcases result_cases (w := w) (x := x) hlim with ⟨hr, heq⟩ | ⟨hr, why, hwhy, heq⟩ | ⟨hr, heq⟩
  · refine ⟨by simpa [LambdaGates.step, heq] using ⟨rfl, hdead, hlast⟩, _, _, heq, ?_⟩
    exact ⟨fun h => (by cases h), fun h => hdelay.mp (hshut h), fun h => (by cases h), fun _ => rfl,
      fun h => (by cases h)⟩
  · refine ⟨by simpa [LambdaGates.step, heq] using ⟨htrim, hdead, hlast⟩, _, _, heq, ?_⟩
    exact ⟨fun _ => hclosed hr, fun h => absurd h hwhy, fun h => (by cases h), fun h => (by cases h),
      fun _ _ => htrim⟩
  · refine ⟨by simpa [LambdaGates.step, heq] using ⟨rfl, hdead, hlast⟩, _, _, heq, ?_⟩
    exact ⟨fun _ => hclosed hr, fun h => (by cases h),
      fun _ => ⟨rfl, by rw [toInt_clamp, toInt_rawTrim h]⟩, fun h => (by cases h), fun _ h => (by cases h)⟩

end

/-- **The gates of the lambda trim.** -/
theorem gated_along {cfg : LambdaTrimConfig} (hmin : cfg.minTrimX100 ≤ 100) (hmax : 100 ≤ cfg.maxTrimX100)
    {xs : List Sample} (hx : Along (step cfg) (fun w x => w.time ≤ x.time) start xs)
    (hf : Along (step cfg) (Fits cfg) start xs) : Along (step cfg) (Gated cfg) start xs := by
  have hlim := Int16.le_trans hmin hmax
  exact along_of_inv (I := Inv cfg) (fun w x hi h => (hi.step hlim h.1 h.2).2)
    (fun w x hi h => (hi.step hlim h.1 h.2).1) ⟨rfl, rfl, fun t ht => (by cases ht)⟩
    (along_and.mpr ⟨hx, hf⟩)

/-- The defaults with half a second of delay: a start, the delay, a lean mixture and a freeze. -/
theorem gated_along_warm :
    let cfg := { LambdaTrimConfig.default with startupDelayUs := 500000 }
    Along (step cfg) (Gated cfg) start
      [⟨1000, 80, true, true, 100, false, 500, false, false⟩,
        ⟨400000, 80, false, true, 100, false, 500, false, false⟩,
        ⟨501000, 80, false, true, 80, false, 500, false, false⟩,
        ⟨601000, 80, false, true, 90, false, 500, true, false⟩] :=
  gated_along (by decide) (by decide) (by decide +kernel) (by decide +kernel)

/-- A start a tenth of a second before the clock turns over: the delay of half a second ends with
the turn of the clock minus one reading, and from there on it is active almost always. With a
measured lambda of 9000 a gain of four gives the richest trim instead of the leanest. -/
theorem delay_outlasts :
    let cfg := { LambdaTrimConfig.default with startupDelayUs := 500000 }
    let began : Watched := step cfg start ⟨2 ^ 32 - 100000, 80, true, true, 100, false, 500, false, false⟩
    ((result cfg began ⟨2 ^ 32 - 1, 80, false, true, 100, false, 500, false, false⟩).map
        fun r => r.2.active) = some true ∧
      ((result cfg began ⟨2 ^ 32 + 10 ^ 9, 80, false, true, 100, false, 500, false, false⟩).map
        fun r => r.2.disableReason) = some .startupDelay ∧
      ((result .default start ⟨0, 80, false, true, 9000, false, 500, false, false⟩).map
        fun r => r.2.trimX100) = some 115 := by
  decide +kernel

end Pipoco.LambdaGates
