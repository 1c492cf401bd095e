import Pipoco.Domain
import Pipoco.Evidence

/-!
Vehicle speed from pulses.

The clock reading of the last pulse is compared with later readings as a number. A reading that is
smaller counts as no time at all, so the speed of a period in which the clock turns over is lost,
and a pulse of an earlier turn looks fresh when its reading comes round again.
-/

namespace Pipoco.VehicleSpeed

open Domain Runs Evidence

inductive VehicleSpeedPulseConfigError
  | zeroPulsesPerKm | zeroTimeout | zeroMaxSpeed
deriving DecidableEq, Repr

structure VehicleSpeedPulseConfig where
  (pulsesPerKm timeoutUs : UInt32)
  maxSpeedKph10 : UInt16

structure VehicleSpeedPulseState where
  lastPulseUs : Option Micros
  speedKph10 : UInt16

def VehicleSpeedPulseState.default : VehicleSpeedPulseState := ⟨none, 0⟩

structure VehicleSpeedPulseInput where
  nowUs : Micros
  pulseSeen : Bool

structure VehicleSpeedPulseResult where
  speedKph10 : UInt16
  signalPresent : Bool
  nextState : VehicleSpeedPulseState

variable (config : VehicleSpeedPulseConfig)

def VehicleSpeedPulseConfig.validate : Except VehicleSpeedPulseConfigError Unit :=
  if config.pulsesPerKm = 0 then .error .zeroPulsesPerKm
  else if config.timeoutUs = 0 then .error .zeroTimeout
  else if config.maxSpeedKph10 = 0 then .error .zeroMaxSpeed
  else .ok ()

def monotonicElapsedUs (last now : Micros) : Option UInt32 :=
  if last ≤ now then some (now - last) else none

def speedFromPeriodUs (periodUs : UInt32) : UInt16 :=
  UInt16.ofNat (min (36000000000 / (periodUs.toNat * config.pulsesPerKm.toNat))
    config.maxSpeedKph10.toNat)

def vehicleSpeedPulseStep (state : VehicleSpeedPulseState) (input : VehicleSpeedPulseInput) :
    VehicleSpeedPulseResult :=
  match config.validate with
  | .error _ => ⟨0, false, .default⟩
  | .ok () =>
    if input.pulseSeen then
      let speed := match state.lastPulseUs with
        | none => state.speedKph10
        | some last => match monotonicElapsedUs last input.nowUs with
          | some periodUs => if 0 < periodUs then speedFromPeriodUs config periodUs else state.speedKph10
          | none => 0
      ⟨speed, true, ⟨some input.nowUs, speed⟩⟩
    else match state.lastPulseUs with
      | none => ⟨state.speedKph10, false, state⟩
      | some last => match monotonicElapsedUs last input.nowUs with
        | some elapsedUs =>
          if elapsedUs > config.timeoutUs then ⟨0, false, { state with speedKph10 := 0 }⟩
          else ⟨state.speedKph10, true, state⟩
        | none => ⟨0, false, { state with speedKph10 := 0 }⟩

/-! ### Runs in real time -/

/-- A step, when it happens and whether with a pulse. -/
structure Sample where
  time : ℕ
  pulse : Bool

/-- The state, the time of the last step and that of the last pulse. -/
structure Watched where
  state : VehicleSpeedPulseState
  time : ℕ
  last : Option ℕ

def start : Watched := ⟨.default, 0, none⟩

def result (w : Watched) (x : Sample) : VehicleSpeedPulseResult :=
  vehicleSpeedPulseStep config w.state ⟨stamp x.time, x.pulse⟩

def step (w : Watched) (x : Sample) : Watched :=
  ⟨(result config w x).nextState, x.time, if x.pulse then some x.time else w.last⟩

/-- **What a step owes**: no signal without a fresh pulse, and the speed of the last period. -/
structure Owes (w : Watched) (x : Sample) : Prop where
  fresh : x.pulse = false → (result config w x).signalPresent = true →
    ∃ t ∈ w.last, x.time ≤ t + config.timeoutUs.toNat
  exact : x.pulse = true → ∀ t ∈ w.last, t < x.time → x.time - t < 2 ^ 32 →
    (result config w x).speedKph10.toNat =
      min (36000000000 / ((x.time - t) * config.pulsesPerKm.toNat)) config.maxSpeedKph10.toNat

/-- The clock does not turn over between two pulses that give a speed, nor back to a reading within
the timeout of a pulse that is older. -/
def Clear (w : Watched) (x : Sample) : Prop :=
  ∀ t ∈ w.last,
    (x.pulse = true → t < x.time → x.time - t < 2 ^ 32 →
      stamp t ≤ stamp x.time ∨ 36000000000 < (x.time - t) * config.pulsesPerKm.toNat) ∧
    (x.pulse = false → stamp t ≤ stamp x.time → stamp x.time - stamp t ≤ config.timeoutUs →
      x.time ≤ t + config.timeoutUs.toNat)
  deriving Decidable

/-- What the state remembers. -/
structure Inv (w : Watched) : Prop where
  last : w.state.lastPulseUs = w.last.map stamp
  le : ∀ t ∈ w.last, t ≤ w.time

variable {config} {w : Watched} {x : Sample}

lemma validate_ok (h : config.validate = .ok ()) :
    0 < config.pulsesPerKm.toNat ∧ 0 < config.maxSpeedKph10.toNat := by
  unfold VehicleSpeedPulseConfig.validate at h
  split_ifs at h with hppk _ hmax
  exact ⟨UInt32.pos_iff_ne_zero.mpr hppk, UInt16.pos_iff_ne_zero.mpr hmax⟩

lemma Inv.step (h : config.validate = .ok ()) (hi : Inv w) (hx : w.time ≤ x.time) :
    Inv (step config w x) := by
  obtain ⟨⟨last, speed⟩, time, t⟩ := w
  obtain rfl : last = t.map stamp := hi.last
  obtain ⟨now, _ | _⟩ := x
  · refine ⟨?_, fun t ht => (hi.le t ht).trans hx⟩
    cases t with
    | none => simp [VehicleSpeed.step, result, vehicleSpeedPulseStep, h]
    | some t =>
      simp only [VehicleSpeed.step, result, vehicleSpeedPulseStep, h, Option.map_some]
      cases monotonicElapsedUs (stamp t) (stamp now) with
      | none => rfl
      | some elapsed => by_cases he : elapsed > config.timeoutUs <;> simp [he]
  · refine ⟨by simp [VehicleSpeed.step, result, vehicleSpeedPulseStep, h], ?_⟩
    rintro t ⟨⟩
    exact le_rfl

/-- The speed of a period, or none if the clock has turned over. -/
lemma exact_iff (h : config.validate = .ok ()) {t now : ℕ} (hlt : t < now) (hnear : now - t < 2 ^ 32)
    (s : VehicleSpeedPulseState) (hs : s.lastPulseUs = some (stamp t)) :
    (vehicleSpeedPulseStep config s ⟨stamp now, true⟩).speedKph10.toNat =
        min (36000000000 / ((now - t) * config.pulsesPerKm.toNat)) config.maxSpeedKph10.toNat ↔
      stamp t ≤ stamp now ∨ 36000000000 < (now - t) * config.pulsesPerKm.toNat := by
  have hperiod := toNat_stamp_sub hlt.le
  rw [Nat.mod_eq_of_lt hnear] at hperiod
  obtain ⟨hppk, hmax⟩ := validate_ok h
  have hden : 0 < (now - t) * config.pulsesPerKm.toNat := Nat.mul_pos (by omega) hppk
  have hlim := config.maxSpeedKph10.toNat_lt
  by_cases hle : stamp t ≤ stamp now
  · have hpos : 0 < stamp now - stamp t := by
      rw [UInt32.lt_iff_toNat_lt, hperiod]
      exact Nat.sub_pos_of_lt hlt
    refine iff_of_true ?_ (.inl hle)
    simp only [vehicleSpeedPulseStep, h, hs, monotonicElapsedUs, if_pos hle, if_pos hpos, if_true,
      speedFromPeriodUs, hperiod, UInt16.toNat_ofNat']
    exact Nat.mod_eq_of_lt (by omega)
  · rw [or_iff_right hle, ← Nat.div_eq_zero_iff_lt hden]
    simp only [vehicleSpeedPulseStep, h, hs, monotonicElapsedUs, if_neg hle, if_true,
      show (0 : UInt16).toNat = 0 from rfl]
    omega

/-- A signal that is present shows a pulse, unless the clock has come round to it. -/
lemma present_iff (h : config.validate = .ok ()) (t now : ℕ) (s : VehicleSpeedPulseState)
    (hs : s.lastPulseUs = some (stamp t)) :
    (vehicleSpeedPulseStep config s ⟨stamp now, false⟩).signalPresent = true ↔
      stamp t ≤ stamp now ∧ stamp now - stamp t ≤ config.timeoutUs := by
  simp only [vehicleSpeedPulseStep, h, hs, monotonicElapsedUs]
  by_cases hle : stamp t ≤ stamp now
  · by_cases hout : stamp now - stamp t > config.timeoutUs
    · simp [hle, hout]
    · simp [hle, hout, UInt32.not_lt.mp hout]
  · simp [hle]

lemma owes_iff (h : config.validate = .ok ()) (hi : Inv w) : Owes config w x ↔ Clear config w x := by
  obtain ⟨⟨last, speed⟩, time, t⟩ := w
  obtain rfl : last = t.map stamp := hi.last
  obtain ⟨now, pulse⟩ := x
  cases t with
  | none =>
    refine iff_of_true ⟨?_, fun _ t ht => (by cases ht)⟩ fun t ht => (by cases ht)
    rintro rfl hp
    simp [result, vehicleSpeedPulseStep, h] at hp
  | some t =>
    have hexact := fun (hlt : t < now) hnear => exact_iff h hlt hnear ⟨_, speed⟩ rfl
    have hpresent := present_iff h t now ⟨_, speed⟩ rfl
    constructor
    · rintro ⟨hfresh, hspeed⟩ t ⟨⟩
      refine ⟨?_, ?_⟩
      · rintro rfl hlt hnear
        exact (hexact hlt hnear).mp (hspeed rfl t rfl hlt hnear)
      · rintro rfl hle hin
        obtain ⟨t, ⟨⟩, ht⟩ := hfresh rfl (hpresent.mpr ⟨hle, hin⟩)
        exact ht
    · intro hc
      obtain ⟨hspeed, hfresh⟩ := hc t rfl
      refine ⟨?_, ?_⟩
      · rintro rfl hp
        exact ⟨t, rfl, hfresh rfl (hpresent.mp hp).1 (hpresent.mp hp).2⟩
      · rintro rfl t ⟨⟩ hlt hnear
        exact (hexact hlt hnear).mpr (hspeed rfl hlt hnear)

/-- **Vehicle speed.** A run is fresh and exact at every step exactly if the clock never turns over
between two pulses and never comes round to an old one. -/
theorem owes_along_iff (h : config.validate = .ok ()) {xs : List Sample}
    (hx : Along (step config) (fun w x => w.time ≤ x.time) start xs) :
    Along (step config) (Owes config) start xs ↔ Along (step config) (Clear config) start xs :=
  along_iff_of_inv (I := Inv) (fun _ _ hi _ => owes_iff h hi) (fun _ _ hi hx _ => hi.step h hx)
    ⟨rfl, fun t ht => (by cases ht)⟩ hx

/-- Four pulses a metre and a second of timeout. -/
def metres : VehicleSpeedPulseConfig := ⟨4000, 1000000, 3000⟩

theorem owes_along_iff_driving : Along (step metres) (Owes metres) start
    [⟨1000000, true⟩, ⟨1500000, true⟩, ⟨2000000, false⟩, ⟨4000000, false⟩] :=
  (owes_along_iff rfl (by decide +kernel)).mpr (by decide +kernel)

/-- A pulse a second before the clock turns over: half a second later the speed of 1.8 km/h is
exact, with another second it is lost. A turn of the clock later the pulse is fresh again. -/
theorem speed_lost :
    let first := step metres start ⟨2 ^ 32 - 1000000, true⟩
    (result metres first ⟨2 ^ 32 - 500000, true⟩).speedKph10 = 18 ∧
      (result metres first ⟨2 ^ 32 + 500000, true⟩).speedKph10 = 0 ∧
      (result metres first ⟨2 ^ 33 - 500000, false⟩).signalPresent = true := by
  decide +kernel

end Pipoco.VehicleSpeed
