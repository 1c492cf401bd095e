import Pipoco.OutProfiles

/-!
The windows the planners plan.

A planner takes the crank from where it is to the angle of an event, turns that angle into
microseconds and adds them to the clock. The clock wraps every 2^32 microseconds and everything
after the planners compares times on it as such, but the planners add with saturation: a window
that reaches past the end of the clock is squeezed against it. Apart from that, and from a coil
without dwell, which is fired one microsecond late, the windows are right.
-/

namespace Pipoco.Planning

open Domain SchedState OutProfiles

/-! ### Angles -/

/-- The angle that takes the crank from `current` to its next passage of `target`. -/
def travel (cycle : ℕ) (current target : ℤ) : ℕ := ((target - current - 1) % cycle + 1).toNat

section travel

variable {cycle : ℕ} (hc : 0 < cycle) (current target : ℤ)

include hc

lemma travel_cast : (travel cycle current target : ℤ) = (target - current - 1) % cycle + 1 := by
  have hpos : (0 : ℤ) < cycle := by exact_mod_cast hc
  have := Int.emod_nonneg (target - current - 1) hpos.ne'
  unfold travel
  omega

lemma travel_le : travel cycle current target ≤ cycle := by
  have hpos : (0 : ℤ) < cycle := by exact_mod_cast hc
  have := Int.emod_lt_of_pos (target - current - 1) hpos
  have := travel_cast hc current target
  omega

/-- It is the least positive angle that does. -/
theorem travel_isLeast :
    IsLeast {d : ℕ | 0 < d ∧ (current + d) % cycle = target % cycle}
      (travel cycle current target) := by
  have hpos : (0 : ℤ) < cycle := by exact_mod_cast hc
  have hcast := travel_cast hc current target
  have hnonneg := Int.emod_nonneg (target - current - 1) hpos.ne'
  refine ⟨⟨by omega, ?_⟩, ?_⟩
  · rw [hcast]
    calc (current + ((target - current - 1) % cycle + 1)) % cycle
        = (current + 1 + (target - current - 1) % cycle) % cycle := by ring_nf
      _ = (current + 1 + (target - current - 1)) % cycle := by rw [Int.add_emod_emod]
      _ = target % cycle := by ring_nf
  · rintro d ⟨hd, h⟩
    have hmod : (target - current - 1) % cycle = ((d - 1 : ℕ) : ℤ) % cycle := by
      have hsub := (Int.emod_sub_cancel_right (current + 1)).mpr h.symm
      rw [show target - (current + 1) = target - current - 1 by ring,
        show current + d - (current + 1) = ((d - 1 : ℕ) : ℤ) by omega] at hsub
      exact hsub
    have hle : (((d - 1 : ℕ) : ℤ) % cycle) ≤ ((d - 1 : ℕ) : ℤ) := by
      exact_mod_cast Nat.mod_le (d - 1) cycle
    omega

/-- What the planners compute from the two angles, each taken into the cycle first. -/
lemma forwardAngleDeltaDeg10_eq :
    forwardAngleDeltaDeg10 (normDeg10 current cycle) (normDeg10 target cycle) cycle =
      travel cycle current target := by
  have hpos : (0 : ℤ) < cycle := by exact_mod_cast hc
  have hcast := travel_cast hc current target
  have hmod : (target - current - 1) % cycle = (target % cycle - current % cycle - 1) % cycle :=
    (((Int.mod_modEq target cycle).sub (Int.mod_modEq current cycle)).sub_right 1).symm
  have hc₀ := Int.emod_nonneg current hpos.ne'
  have hc₁ := Int.emod_lt_of_pos current hpos
  have ht₀ := Int.emod_nonneg target hpos.ne'
  have ht₁ := Int.emod_lt_of_pos target hpos
  rw [hmod] at hcast
  unfold forwardAngleDeltaDeg10 normDeg10
  by_cases h : current % cycle < target % cycle
  · rw [Int.emod_eq_of_lt (by omega) (by omega)] at hcast
    split_ifs <;> omega
  · rw [← Int.add_emod_right, Int.emod_eq_of_lt (by omega) (by omega)] at hcast
    split_ifs <;> omega

end travel

/-! ### Times -/

/-- The whole microseconds in which the crank travels `d`, at least one. -/
def delayUs (d : ℕ) (rpm : Rpm) : ℕ := max 1 (60000000 * d / (3600 * rpm.toNat))

lemma delayUs_le {d : ℕ} (hd : d ≤ 7200) (rpm : Rpm) (hr : rpm ≠ 0) :
    delayUs d rpm ≤ 120000000 := by
  have hpos : 0 < rpm.toNat := by
    rcases Nat.eq_zero_or_pos rpm.toNat with h | h
    · exact absurd (UInt16.toNat_inj.mp h) hr
    · exact h
  have hdiv : 60000000 * d / (3600 * rpm.toNat) ≤ 60000000 * d / 3600 :=
    Nat.div_le_div_left (Nat.le_mul_of_pos_right _ hpos) (by omega)
  unfold delayUs
  omega

lemma microsForAngleDelta_toNat {d : ℕ} (hd : d ≤ 7200) {rpm : Rpm} (hr : rpm ≠ 0) :
    (microsForAngleDelta d rpm).toNat = delayUs d rpm := by
  have hle := delayUs_le hd rpm hr
  rw [microsForAngleDelta, if_neg hr, UInt32.toNat_ofNat', crankRevDegrees10]
  unfold delayUs at hle ⊢
  omega

lemma toNat_satAdd32 (a b : UInt32) :
    (satAdd32 a b).toNat = min (a.toNat + b.toNat) 4294967295 := by
  rw [satAdd32, UInt32.toNat_ofNat']
  omega

/-- How far the wrapping clock runs from one time to another. -/
def elapsed (a b : Micros) : ℕ := (b - a).toNat

lemma elapsed_of_le {a b : Micros} (h : a.toNat ≤ b.toNat) : elapsed a b = b.toNat - a.toNat :=
  UInt32.toNat_sub_of_le b a (UInt32.le_iff_toNat_le.mpr h)

/-- One time is after another on the wrapping clock. -/
def After (a b : Micros) : Prop := 0 < elapsed a b ∧ elapsed a b < 2147483648
  deriving Decidable

/-! ### Spark windows -/

variable (crank : CrankSnapshot) {delay : ℕ}

/-- The window of a spark: the spark is after its delay and the coil is charged for the dwell
before it; when the delay is too short for that, the coil is charged from now on. -/
@[mk_iff]
structure SparkWindow (now startAt endAt : Micros) (delay dwell : ℕ) : Prop where
  starts : After now startAt
  fires : After startAt endAt
  charged : dwell < delay → elapsed now endAt = delay ∧ elapsed startAt endAt = max dwell 1
  short : delay ≤ dwell → elapsed now startAt = 1 ∧ elapsed now endAt = max delay 2

lemma planSpark_times (tdc modulo : ℕ) (channel : ChannelId) (spark : SparkPlan) (hm : 0 < modulo)
    (hm' : modulo ≤ 7200) (hr : crank.rpm ≠ 0) : let w := planSpark crank tdc modulo channel spark
    let now := crank.nowUs.toNat
    let delay := delayUs (travel modulo crank.angleDeg10.toInt (tdc - spark.advance.toInt)) crank.rpm
    let dwell := spark.dwell.toNat
    w.startAt.toNat = min (now + if dwell < delay then delay - dwell else 1) 4294967295 ∧
      w.endAt.toNat =
        if w.startAt.toNat < min (now + delay) 4294967295 then min (now + delay) 4294967295
        else min (w.startAt.toNat + 1) 4294967295 := by
  intro w now delay dwell
  have hd : travel modulo crank.angleDeg10.toInt (tdc - spark.advance.toInt) ≤ 7200 :=
    (travel_le hm _ _).trans hm'
  have hdelay : (microsForAngleDelta (forwardAngleDeltaDeg10
      (normDeg10 crank.angleDeg10.toInt modulo)
      (normDeg10 (tdc - spark.advance.toInt) modulo) modulo) crank.rpm).toNat = delay := by
    rw [forwardAngleDeltaDeg10_eq hm, microsForAngleDelta_toNat hd hr]
  have hdwell : spark.dwell.toUInt32.toNat = dwell := UInt16.toNat_toUInt32 _
  have hone : (1 : UInt32).toNat = 1 := rfl
  have hstart : w.startAt.toNat =
      min (now + if dwell < delay then delay - dwell else 1) 4294967295 := by
    simp only [w, planSpark, gt_iff_lt, UInt32.lt_iff_toNat_lt, hdelay, hdwell]
    split_ifs with h
    · rw [toNat_satAdd32, UInt32.toNat_sub_of_le, hdelay, hdwell]
      rw [UInt32.le_iff_toNat_le, hdelay, hdwell]
      exact h.le
    · rw [toNat_satAdd32, hone]
  refine ⟨hstart, ?_⟩
  have hend (delta : Micros) : (if satAdd32 crank.nowUs delta > w.startAt then
      satAdd32 crank.nowUs delta else satAdd32 w.startAt 1).toNat = _ := apply_ite UInt32.toNat _ _ _
  refine (hend _).trans ?_
  simp only [gt_iff_lt, UInt32.lt_iff_toNat_lt, toNat_satAdd32, hdelay, hone]
  rfl

/-- On the numbers alone: saturation keeps the window in order, and it is right when it fits the
clock and there is a dwell. -/
lemma spark_numbers {now s e dwell : ℕ}
    (hs : s = min (now + if dwell < delay then delay - dwell else 1) 4294967295)
    (he : e = if s < min (now + delay) 4294967295 then min (now + delay) 4294967295
      else min (s + 1) 4294967295)
    (hnow : now < 4294967296) (hpos : 1 ≤ delay) (hle : delay ≤ 120000000) (hdwell : dwell < 65536) :
    now ≤ s ∧ s ≤ e ∧
    (((0 < s - now ∧ s - now < 2147483648) ∧ (0 < e - s ∧ e - s < 2147483648) ∧
      (dwell < delay → e - now = delay ∧ e - s = max dwell 1) ∧
      (delay ≤ dwell → s - now = 1 ∧ e - now = max delay 2)) ↔
    dwell ≠ 0 ∧ now + max delay 2 < 4294967296) := by
  have hlast : e ≤ 4294967295 := by
    rw [he]
    split_ifs <;> exact min_le_right _ _
  by_cases hlong : dwell < delay
  · rw [if_pos hlong] at hs
    refine ⟨by omega, by split_ifs at he <;> omega, ?_⟩
    constructor
    · rintro ⟨-, -, hcharged, -⟩
      obtain ⟨hend, hwidth⟩ := hcharged hlong
      omega
    · rintro ⟨hne, hroom⟩
      have hstart : s = now + (delay - dwell) := by omega
      have hend : min (now + delay) 4294967295 = now + delay := min_eq_left (by omega)
      rw [hend, if_pos (by omega)] at he
      refine ⟨by omega, by omega, fun _ => by omega, fun h => by omega⟩
  · rw [if_neg hlong] at hs
    refine ⟨by omega, by split_ifs at he <;> omega, ?_⟩
    constructor
    · rintro ⟨-, -, -, hshort⟩
      obtain ⟨hstart, hend⟩ := hshort (by omega)
      omega
    · rintro ⟨hne, hroom⟩
      have hstart : s = now + 1 := by omega
      have hend : e = now + max delay 2 := by split_ifs at he <;> omega
      refine ⟨by omega, by omega, fun h => by omega, fun _ => by omega⟩

lemma planSpark_iff (tdc modulo : ℕ) (channel : ChannelId) (spark : SparkPlan) (hm : 0 < modulo)
    (hm' : modulo ≤ 7200) (hr : crank.rpm ≠ 0) : let w := planSpark crank tdc modulo channel spark
    let delay := delayUs (travel modulo crank.angleDeg10.toInt (tdc - spark.advance.toInt)) crank.rpm
    SparkWindow crank.nowUs w.startAt w.endAt delay spark.dwell.toNat ↔
      spark.dwell ≠ 0 ∧ crank.nowUs.toNat + max delay 2 < 4294967296 := by
  intro w delay
  obtain ⟨hstart, hend⟩ := planSpark_times crank tdc modulo channel spark hm hm' hr
  have hdwell : spark.dwell ≠ 0 ↔ spark.dwell.toNat ≠ 0 := by
    rw [ne_eq, ← UInt16.toNat_inj]; rfl
  rw [hdwell]
  obtain ⟨h₁, h₂, hiff⟩ := spark_numbers hstart hend crank.nowUs.toNat_lt (le_max_left _ _)
    (delayUs_le ((travel_le hm _ _).trans hm') _ hr) spark.dwell.toNat_lt
  rw [sparkWindow_iff, After, After, elapsed_of_le h₁, elapsed_of_le h₂,
    elapsed_of_le (h₁.trans h₂)]
  exact hiff

/-! ### Pulse windows -/

/-- The window of a pulse: it starts after its delay and is as long as the pulse. -/
@[mk_iff]
structure PulseWindow (now startAt endAt : Micros) (delay width : ℕ) : Prop where
  starts : After now startAt
  ends : After startAt endAt
  delayed : elapsed now startAt = delay
  wide : elapsed startAt endAt = max width 1

lemma pulse_numbers {now s e width : ℕ} (hs : s = min (now + delay) 4294967295)
    (he : e = max (min (s + width) 4294967295) (min (s + 1) 4294967295)) (hnow : now < 4294967296)
    (hpos : 1 ≤ delay) (hle : delay ≤ 120000000) (hwidth : width < 65536) :
    now ≤ s ∧ s ≤ e ∧
    (((0 < s - now ∧ s - now < 2147483648) ∧ (0 < e - s ∧ e - s < 2147483648) ∧
      s - now = delay ∧ e - s = max width 1) ↔
    now + delay + max width 1 < 4294967296) := by
  refine ⟨by omega, by omega, ?_⟩
  constructor
  · rintro ⟨-, -, hstart, hlength⟩
    have hlast : e ≤ 4294967295 := by
      rw [he]
      exact max_le (min_le_right _ _) (min_le_right _ _)
    omega
  · intro hroom
    have hstart : s = now + delay := by omega
    have hlength : e = s + max width 1 := by omega
    omega

/-- **When a pulse window is right.** The target is an angle of the cycle. -/
lemma planPulse_iff {target modulo : ℕ} (channel : ChannelId) (fuel : FuelPlan)
    (ht : target < modulo) (hm' : modulo ≤ 7200) (hr : crank.rpm ≠ 0) :
    let w := planPulse crank target modulo channel fuel
    let delay := delayUs (travel modulo crank.angleDeg10.toInt target) crank.rpm
    PulseWindow crank.nowUs w.startAt w.endAt delay fuel.pulseWidth.toNat ↔
      crank.nowUs.toNat + delay + max fuel.pulseWidth.toNat 1 < 4294967296 := by
  intro w delay
  have hm : 0 < modulo := by omega
  have htravel := (travel_isLeast hm crank.angleDeg10.toInt target).1.1
  have hd := (travel_le hm crank.angleDeg10.toInt target).trans hm'
  have hnorm : normDeg10 target modulo = target := by
    rw [normDeg10, Int.emod_eq_of_lt (by omega) (by omega)]; omega
  have hforward := forwardAngleDeltaDeg10_eq hm crank.angleDeg10.toInt target
  rw [hnorm] at hforward
  have hdelay : (microsForAngleDelta (max (forwardAngleDeltaDeg10
      (normDeg10 crank.angleDeg10.toInt modulo) target modulo) 1) crank.rpm).toNat = delay := by
    rw [hforward, max_eq_left (by omega), microsForAngleDelta_toNat hd hr]
  have hstart : w.startAt.toNat = min (crank.nowUs.toNat + delay) 4294967295 := by
    rw [← hdelay]; exact toNat_satAdd32 _ _
  have hend : w.endAt.toNat =
      max (min (w.startAt.toNat + fuel.pulseWidth.toNat) 4294967295)
        (min (w.startAt.toNat + 1) 4294967295) := by
    show (max (satAdd32 w.startAt fuel.pulseWidth.toUInt32) (satAdd32 w.startAt 1)).toNat = _
    rw [map_max UInt32.le_iff_toNat_le, toNat_satAdd32, toNat_satAdd32, UInt16.toNat_toUInt32]
    rfl
  obtain ⟨h₁, h₂, hiff⟩ := pulse_numbers hstart hend crank.nowUs.toNat_lt (le_max_left _ _)
    (delayUs_le hd _ hr) fuel.pulseWidth.toNat_lt
  rw [pulseWindow_iff, After, After, elapsed_of_le h₁, elapsed_of_le h₂]
  exact hiff

/-! ### The four planners -/

lemma injection_slot_lt (p : FuelOutputProfile) (i : ℕ) :
    i % max p.eventsPerPulse 1 * max (crankRevDegrees10 / max p.eventsPerPulse 1) 1 <
      crankRevDegrees10 := by
  have hle : max p.eventsPerPulse 1 ≤ 8 := max_le p.eventsPerPulse_le (by decide)
  have hlt : i % max p.eventsPerPulse 1 < max p.eventsPerPulse 1 := Nat.mod_lt _ (by omega)
  unfold crankRevDegrees10
  generalize max p.eventsPerPulse 1 = n at *
  have hwide : 1 ≤ 3600 / n := (Nat.one_le_div_iff (by omega)).mpr (by omega)
  rw [max_eq_left hwide]
  calc i % n * (3600 / n) < n * (3600 / n) := Nat.mul_lt_mul_of_pos_right hlt (by omega)
    _ ≤ 3600 := Nat.mul_div_le 3600 n

lemma fullCycleSlotAngleDeg10_lt (i : ℕ) {n : ℕ} (hn : n ≤ fullEcuMaxCylinders) :
    fullCycleSlotAngleDeg10 i n < engineCycleDegrees10 := by
  have hle : max n 1 ≤ 8 := max_le hn (by decide)
  have hlt : i % max n 1 < max n 1 := Nat.mod_lt _ (by omega)
  simp only [fullCycleSlotAngleDeg10, engineCycleDegrees10, crankRevDegrees10]
  generalize max n 1 = m at *
  generalize i % m = k at *
  have hprod : (UInt32.ofNat k * UInt32.ofNat (3600 * 2)).toNat = k * 7200 := by
    rw [UInt32.toNat_mul, UInt32.toNat_ofNat', UInt32.toNat_ofNat']
    omega
  have hm : (UInt32.ofNat m).toNat = m := by rw [UInt32.toNat_ofNat']; omega
  have hquot : (UInt32.ofNat k * UInt32.ofNat (3600 * 2) / UInt32.ofNat m).toNat = k * 7200 / m := by
    rw [UInt32.toNat_div, hprod, hm]
  rw [hquot]
  have hdiv : k * 7200 / m < 7200 := by
    rw [Nat.div_lt_iff_lt_mul (by omega)]
    omega
  exact lt_of_le_of_lt (Nat.mod_le _ _) hdiv

/-- **The planned windows.** For a turning crank and any clock, each planner's window is right
exactly when it ends before the clock wraps, and, for a spark, the coil has a dwell at all. -/
theorem planned_windows_iff (crank : CrankSnapshot) (hr : crank.rpm ≠ 0) (eventIndex : ℕ) :
    (∀ (p : SparkOutputProfile) (spark : SparkPlan),
      let w := ignitionSchedulerPlanEvent p crank eventIndex spark
      let delay := delayUs (travel crankRevDegrees10 crank.angleDeg10.toInt
        (p.eventTdcAngleDeg10 eventIndex - spark.advance.toInt)) crank.rpm
      SparkWindow crank.nowUs w.startAt w.endAt delay spark.dwell.toNat ↔
        spark.dwell ≠ 0 ∧ crank.nowUs.toNat + max delay 2 < 4294967296) ∧
    (∀ (p : IgnitionOutputProfile) (eventCount : ℕ) (spark : SparkPlan),
      let w := fullEcuIgnitionSchedulerPlanEvent p eventCount crank eventIndex spark
      let delay := delayUs (travel engineCycleDegrees10 crank.angleDeg10.toInt
        (fullCycleSlotAngleDeg10 eventIndex eventCount - spark.advance.toInt)) crank.rpm
      SparkWindow crank.nowUs w.startAt w.endAt delay spark.dwell.toNat ↔
        spark.dwell ≠ 0 ∧ crank.nowUs.toNat + max delay 2 < 4294967296) ∧
    (∀ (p : FuelOutputProfile) (fuel : FuelPlan),
      let w := injectionSchedulerPlanEvent p crank eventIndex fuel
      let slotAngle := eventIndex % max p.eventsPerPulse 1 *
        max (crankRevDegrees10 / max p.eventsPerPulse 1) 1
      let delay := delayUs (travel crankRevDegrees10 crank.angleDeg10.toInt slotAngle) crank.rpm
      PulseWindow crank.nowUs w.startAt w.endAt delay fuel.pulseWidth.toNat ↔
        crank.nowUs.toNat + delay + max fuel.pulseWidth.toNat 1 < 4294967296) ∧
    ∀ (p : InjectionOutputProfile) (fuel : FuelPlan),
      let w := fullEcuInjectionSchedulerPlanEvent p crank eventIndex fuel
      let slotAngle := fullCycleSlotAngleDeg10 eventIndex p.eventCount
      let delay := delayUs (travel engineCycleDegrees10 crank.angleDeg10.toInt slotAngle) crank.rpm
      PulseWindow crank.nowUs w.startAt w.endAt delay fuel.pulseWidth.toNat ↔
        crank.nowUs.toNat + delay + max fuel.pulseWidth.toNat 1 < 4294967296 := by
  refine ⟨fun p spark => ?_, fun p n spark => ?_, fun p fuel => ?_, fun p fuel => ?_⟩
  · exact planSpark_iff crank _ crankRevDegrees10 _ spark (by decide) (by decide) hr
  · exact planSpark_iff crank _ engineCycleDegrees10 _ spark (by decide) (by decide) hr
  · exact planPulse_iff crank _ fuel (injection_slot_lt p eventIndex) (by decide) hr
  · exact planPulse_iff crank _ fuel (fullCycleSlotAngleDeg10_lt eventIndex p.eventCount_le)
      (by decide) hr

/-- A four-cylinder engine at 3000 rpm, with ten degrees of advance and two milliseconds of dwell. -/
def sparkProfile : SparkOutputProfile := ⟨4, .wastedSpark⟩

def sparkPlan : SparkPlan := ⟨2000, 100⟩

def crankAt (now : Micros) : CrankSnapshot := ⟨now, 3000, 0, .none⟩

theorem planned_windows_in_range :
    let w := ignitionSchedulerPlanEvent sparkProfile (crankAt 1000) 0 sparkPlan
    (crankAt 1000).rpm ≠ 0 ∧ w.startAt = 18444 ∧ w.endAt = 20444 ∧
      SparkWindow 1000 w.startAt w.endAt (delayUs (travel crankRevDegrees10 0
        (sparkProfile.eventTdcAngleDeg10 0 - sparkPlan.advance.toInt)) 3000) 2000 :=
  ⟨by decide, by decide +kernel, by decide +kernel,
    ((planned_windows_iff (crankAt 1000) (by decide) 0).1 sparkProfile sparkPlan).mpr
      ⟨by decide, by decide +kernel⟩⟩

/-- At the end of the clock the window is empty: it starts and ends at the last microsecond. -/
theorem planned_window_at_rollover :
    let w := ignitionSchedulerPlanEvent sparkProfile (crankAt 0xFFFFFFFF) 0 sparkPlan
    w.startAt = 0xFFFFFFFF ∧ w.endAt = 0xFFFFFFFF ∧
      ¬ SparkWindow 0xFFFFFFFF w.startAt w.endAt (delayUs (travel crankRevDegrees10 0
        (sparkProfile.eventTdcAngleDeg10 0 - sparkPlan.advance.toInt)) 3000) 2000 := by
  intro w
  have hs : w.startAt = 0xFFFFFFFF := by decide +kernel
  have he : w.endAt = 0xFFFFFFFF := by decide +kernel
  refine ⟨hs, he, fun h => ?_⟩
  have hpos := h.fires.1
  exact absurd hpos (by decide)

end Pipoco.Planning
