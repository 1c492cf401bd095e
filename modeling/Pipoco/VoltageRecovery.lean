import Pipoco.CompatState
import Pipoco.Evidence

/-!
The voltage monitor over whole histories of readings.

The monitor cuts fuel and limits the engine speed at low voltage, and gives both back after a
voltage that lasts. An overvoltage hides that they are active: the next ordinary reading takes the
overvoltage for all there was and declares the supply normal, and once it is declared normal the
timer that would give them back does not start any more. A warning reading gives the fuel back at
once, a single critical reading does not stop the timer, and a timer started at clock zero counts
as not started.
-/

namespace Pipoco.VoltageRecovery

open Domain Runs Compat Evidence

/-! ### What a reading does -/

variable (m : VoltageMonitor) {v : UInt16}

/-- The timer runs and has run for the recovery time. -/
def Recovers (nowUs : UInt32) : Prop :=
  m.recoveryStartUs ≠ 0 ∧ recoveryTimeUs ≤ nowUs - m.recoveryStartUs
  deriving Decidable

/-- A voltage that counts towards the recovery. -/
def InBand (voltageMv : UInt16) : Prop := recoveryMv ≤ voltageMv ∧ voltageMv ≤ overvoltageMv
  deriving Decidable

/-- An overvoltage is over with the first reading that is neither too high nor too low. -/
def settle (state : PowerState) : PowerState := if state = .overvoltage then .normal else state

/-- The ways a reading can go, one for each path of the update. -/
inductive Reads (m : VoltageMonitor) (v : UInt16) (nowUs : UInt32) : VoltageMonitor → Prop
  | overvoltage (hv : overvoltageMv < v) :
      Reads m v nowUs { m with lastVoltageMv := v, state := .overvoltage, criticalCount := 0 }
  | glitch (hv : v < brownoutCriticalMv) (c : UInt8) :
      Reads m v nowUs { m with lastVoltageMv := v, criticalCount := c }
  | critical (hv : v < brownoutCriticalMv) (c : UInt8) :
      Reads m v nowUs ⟨.critical, v, m.warningStartUs, 0, c, true, true⟩
  | warning (hlow : brownoutCriticalMv ≤ v) (hv : v < brownoutWarningMv) (t : UInt32) :
      Reads m v nowUs ⟨.warning, v, t, 0, 0, false, true⟩
  | low (hlow : brownoutWarningMv ≤ v) (hv : v < recoveryMv) :
      Reads m v nowUs { m with lastVoltageMv := v, state := settle m.state, recoveryStartUs := 0,
                               criticalCount := 0 }
  | waits (hv : InBand v) (hwait : ¬ Recovers m nowUs) :
      Reads m v nowUs { m with
        lastVoltageMv := v, state := settle m.state, criticalCount := 0
        recoveryStartUs :=
          if m.recoveryStartUs = 0 ∧ m.state ≠ .normal then nowUs else m.recoveryStartUs }
  | recovers (hv : InBand v) (hdone : Recovers m nowUs) :
      Reads m v nowUs ⟨.normal, v, m.warningStartUs, 0, 0, false, false⟩

variable {m} in
lemma recover_eq {nowUs : UInt32} (hv : recoveryMv ≤ v) :
    m.recover v nowUs =
      if Recovers m nowUs then
        { m with state := .normal, fuelCutActive := false, limpActive := false,
                 recoveryStartUs := 0 }
      else
        { m with recoveryStartUs :=
                   if m.recoveryStartUs = 0 ∧ m.state ≠ .normal then nowUs
                   else m.recoveryStartUs } := by
  unfold VoltageMonitor.recover Recovers
  rw [if_pos hv]
  by_cases hstart : m.recoveryStartUs = 0 ∧ m.state ≠ .normal
  · -- a timer that starts now has not run out
    have hpos : recoveryTimeUs ≠ 0 := by decide
    simp [hstart.1, hstart.2, hpos]
  · simp only [if_neg hstart]

lemma reads_update (v : UInt16) (nowUs : UInt32) : Reads m v nowUs (m.update v nowUs) := by
  unfold VoltageMonitor.update
  by_cases hover : v > overvoltageMv
  · rw [if_pos hover]
    exact .overvoltage hover
  rw [if_neg hover]
  by_cases hcrit : v < brownoutCriticalMv
  · rw [if_pos hcrit]
    by_cases hcount : criticalDebounceCount ≤ satAdd8 m.criticalCount 1
    · simp only [hcount, if_true]
      exact .critical hcrit _
    · simp only [hcount, if_false]
      exact .glitch hcrit _
  rw [if_neg hcrit]
  by_cases hwarn : v < brownoutWarningMv
  · simp only [hwarn, if_true]
    exact .warning (UInt16.not_lt.mp hcrit) hwarn _
  simp only [hwarn, if_false]
  by_cases hrec : recoveryMv ≤ v
  · have hband : InBand v := ⟨hrec, UInt16.not_lt.mp hover⟩
    simp only [recover_eq hrec]
    by_cases hdone : Recovers m nowUs
    · have hcopy : Recovers { m with lastVoltageMv := v, criticalCount := 0 } nowUs := hdone
      simp only [hcopy, if_true, reduceCtorEq, if_false]
      exact .recovers hband hdone
    · have hcopy : ¬ Recovers { m with lastVoltageMv := v, criticalCount := 0 } nowUs := hdone
      have hreads := Reads.waits hband hdone
      simp only [hcopy, if_false]
      by_cases hstate : m.state = .overvoltage
      · simpa only [settle, hstate, if_true] using hreads
      · simpa only [settle, hstate, if_false] using hreads
  · have hreads : Reads m v nowUs _ := .low (UInt16.not_lt.mp hwarn) (UInt16.not_le.mp hrec)
    simp only [VoltageMonitor.recover, hrec, if_false]
    by_cases hstate : m.state = .overvoltage
    · simpa only [settle, hstate, if_true] using hreads
    · simpa only [settle, hstate, if_false] using hreads

/-- A reading in the band waits for the recovery or completes it. -/
lemma Reads.of_inBand {m m' : VoltageMonitor} {nowUs : UInt32} (h : Reads m v nowUs m')
    (hv : InBand v) :
    (¬ Recovers m nowUs ∧ m'.limpActive = m.limpActive ∧ m'.recoveryStartUs =
        if m.recoveryStartUs = 0 ∧ m.state ≠ .normal then nowUs else m.recoveryStartUs) ∨
      (Recovers m nowUs ∧ m'.limpActive = false) := by
  obtain ⟨hlow, hhigh⟩ := hv
  cases h with
  | overvoltage hv => exact absurd hv (UInt16.not_lt.mpr hhigh)
  | glitch hv c | critical hv c | warning _ hv t =>
    exact absurd (UInt16.lt_of_lt_of_le hv (by decide)) (UInt16.not_lt.mpr hlow)
  | low _ hv => exact absurd hv (UInt16.not_lt.mpr hlow)
  | waits hv hwait => exact .inl ⟨hwait, rfl, rfl⟩
  | recovers hv hdone => exact .inr ⟨hdone, rfl⟩

/-! ### Histories of readings -/

structure Reading where
  voltageMv : UInt16
  time : ℕ

open Reading

/-- The monitor, with the time its recovery timer was started at. -/
structure Timed where
  monitor : VoltageMonitor
  since : ℕ

namespace Timed

def new : Timed := ⟨.new, 0⟩

def update (m : Timed) (x : Reading) : Timed :=
  ⟨m.monitor.update x.voltageMv (stamp x.time),
    if m.monitor.recoveryStartUs = 0 then x.time else m.since⟩

end Timed

abbrev History := Recorded Timed Reading

variable (x : Reading)

def High (_ : List Reading) : Prop := recoveryMv ≤ x.voltageMv

def Good (_ : List Reading) : Prop := InBand x.voltageMv

/-- **What the monitor owes.** -/
structure Coherent (r : History) (x : Reading) : Prop where
  /-- A supply that is declared normal restricts nothing. -/
  normal : (r.state.update x).monitor.state = .normal →
    (r.state.update x).monitor.fuelCutActive = false ∧ (r.state.update x).monitor.limpActive = false
  /-- Fuel is given back only after a high voltage for the recovery time. -/
  released : r.state.monitor.fuelCutActive = true →
    (r.state.update x).monitor.fuelCutActive = false →
      HeldFor time High recoveryTimeUs.toNat x r.past
  /-- A good voltage for the recovery time gives everything back. -/
  recovered : HeldFor time Good recoveryTimeUs.toNat x r.past →
    (r.state.update x).monitor.fuelCutActive = false ∧ (r.state.update x).monitor.limpActive = false

/-- The readings that meet none of the slips of the update. -/
@[mk_iff]
structure Harmless (r : History) (x : Reading) : Prop where
  /-- no warning reading during a fuel cut -/
  warning : r.state.monitor.fuelCutActive = true →
    ¬ (brownoutCriticalMv ≤ x.voltageMv ∧ x.voltageMv < brownoutWarningMv)
  /-- an overvoltage during a restriction ends with a low reading or with the recovery -/
  overvoltage : r.state.monitor.state = .overvoltage → r.state.monitor.limpActive = true →
    brownoutWarningMv ≤ x.voltageMv → x.voltageMv ≤ overvoltageMv →
      recoveryMv ≤ x.voltageMv ∧ Recovers r.state.monitor (stamp x.time)
  /-- no critical reading while the timer runs during a fuel cut -/
  glitch : r.state.monitor.fuelCutActive = true → r.state.monitor.recoveryStartUs ≠ 0 →
    brownoutCriticalMv ≤ x.voltageMv
  /-- the timer does not start at clock zero -/
  zero : r.state.monitor.limpActive = true → r.state.monitor.recoveryStartUs = 0 →
    InBand x.voltageMv → stamp x.time ≠ 0
  /-- the clock has not hidden that the recovery time is over -/
  near : r.state.monitor.limpActive = true → r.state.monitor.recoveryStartUs ≠ 0 →
    InBand x.voltageMv → r.state.since + recoveryTimeUs.toNat ≤ x.time →
      recoveryTimeUs.toNat ≤ (x.time - r.state.since) % 2 ^ 32

set_option synthInstance.maxSize 512 in
instance (r : History) (x : Reading) : Decidable (Harmless r x) :=
  decidable_of_iff' _ (harmless_iff r x)

/-! ### The invariant -/

structure Inv (r : History) : Prop where
  limp : r.state.monitor.fuelCutActive = true → r.state.monitor.limpActive = true
  normal : r.state.monitor.state = .normal → r.state.monitor.limpActive = false
  start : r.state.monitor.recoveryStartUs ≠ 0 →
    r.state.monitor.recoveryStartUs = stamp r.state.since ∧ ∃ y ∈ r.past, y.time = r.state.since
  high : r.state.monitor.fuelCutActive = true → r.state.monitor.recoveryStartUs ≠ 0 →
    Since time High r.state.since r.past
  good : r.state.monitor.limpActive = true → ∀ t, Since time Good t r.past →
    r.state.monitor.recoveryStartUs ≠ 0 ∧ r.state.since ≤ t

lemma inv_start : Inv (.start .new) :=
  ⟨nofun, fun _ => rfl, fun h => absurd rfl h, nofun, nofun⟩

/-! ### One reading -/

section reading

variable {r : History} {x : Reading} {m : VoltageMonitor}

lemma Inv.fuelCutActive_of_not_limp (hi : Inv r) (h : r.state.monitor.limpActive = false) :
    r.state.monitor.fuelCutActive = false := by
  by_contra hcut
  rw [hi.limp (Bool.not_eq_false _ ▸ hcut)] at h
  cases h

/-- Only an overvoltage would turn normal with a restriction left. -/
lemma Inv.limp_of_settle (hi : Inv r)
    (hover : r.state.monitor.state = .overvoltage → r.state.monitor.limpActive = false)
    (h : settle r.state.monitor.state = .normal) : r.state.monitor.limpActive = false := by
  by_cases hstate : r.state.monitor.state = .overvoltage
  · exact hover hstate
  · rw [settle, if_neg hstate] at h
    exact hi.normal h

/-- A timer that has run out during a fuel cut has seen a high voltage all along. -/
lemma Inv.heldFor_high (hi : Inv r) (hord : r.InOrder time x)
    (hcut : r.state.monitor.fuelCutActive = true) (hv : recoveryMv ≤ x.voltageMv)
    (hdone : Recovers r.state.monitor (stamp x.time)) :
    HeldFor time High recoveryTimeUs.toNat x r.past := by
  obtain ⟨hrun, hover⟩ := hdone
  have htimes : Times time High r.state.monitor.recoveryStartUs r.past :=
    ⟨r.state.since, hi.high hcut hrun, (hi.start hrun).1.symm⟩
  exact (htimes.later hv).heldFor hord (UInt32.le_iff_toNat_le.mp hover)

/-- A good voltage for the recovery time is one the timer has seen. -/
lemma Inv.recovers (hi : Inv r) (hh : Harmless r x) (hord : r.InOrder time x)
    (hlimp : r.state.monitor.limpActive = true)
    (hheld : HeldFor time Good recoveryTimeUs.toNat x r.past) :
    Recovers r.state.monitor (stamp x.time) := by
  obtain ⟨t, hsince, ht⟩ := hheld
  have hpos : 0 < recoveryTimeUs.toNat := by decide
  rcases hsince.cases_cons with hnow | hbefore
  · omega
  · obtain ⟨hrun, hle⟩ := hi.good hlimp t hbefore
    obtain ⟨hstart, y, hy, hyt⟩ := hi.start hrun
    have hsinceLe : r.state.since ≤ x.time := hyt ▸ hord y hy
    have hnear := hh.near hlimp hrun hsince.head (by omega)
    refine ⟨hrun, ?_⟩
    rw [hstart, UInt32.le_iff_toNat_le, toNat_stamp_sub hsinceLe]
    exact hnear

lemma since_update (r : History) (x : Reading) : (r.state.update x).since =
    if r.state.monitor.recoveryStartUs = 0 then x.time else r.state.since := rfl

/-- A timer that runs after a reading ran before it or was started by it. -/
lemma Reads.timer {m' : VoltageMonitor} {nowUs : UInt32} (h : Reads m v nowUs m')
    (hrun : m'.recoveryStartUs ≠ 0) :
    (m.recoveryStartUs ≠ 0 ∧ m'.recoveryStartUs = m.recoveryStartUs) ∨
      (m.recoveryStartUs = 0 ∧ InBand v ∧ m'.recoveryStartUs = nowUs) := by
  cases h with
  | overvoltage hv | glitch hv c => exact .inl ⟨hrun, rfl⟩
  | waits hv hwait =>
    by_cases hstart : m.recoveryStartUs = 0 ∧ m.state ≠ .normal
    · exact .inr ⟨hstart.1, hv, if_pos hstart⟩
    · simp only [if_neg hstart] at hrun ⊢
      exact .inl ⟨hrun, trivial⟩
  | _ => exact absurd rfl hrun

/-! A reading and the monitor after it. -/

variable (hi : Inv r) (h : Reads r.state.monitor x.voltageMv (stamp x.time) m) (hh : Harmless r x)
  (hord : r.InOrder time x)
include hi h

lemma Inv.limp_of_reads (hcut : m.fuelCutActive = true) : m.limpActive = true := by
  cases h with
  | critical hv c => rfl
  | warning hlow hv t => rfl
  | recovers hv hdone => cases hcut
  | _ => exact hi.limp hcut

lemma Inv.start_of_reads (hrun : m.recoveryStartUs ≠ 0) :
    m.recoveryStartUs = stamp (r.state.update x).since ∧
      ∃ y ∈ x :: r.past, y.time = (r.state.update x).since := by
  rw [since_update]
  rcases h.timer hrun with ⟨hold, heq⟩ | ⟨hold, -, heq⟩
  · obtain ⟨hstart, y, hy, hyt⟩ := hi.start hold
    rw [if_neg hold, heq]
    exact ⟨hstart, y, List.mem_cons_of_mem _ hy, hyt⟩
  · rw [if_pos hold]
    exact ⟨heq, x, (.head _), rfl⟩

include hh

lemma Inv.normal_of_reads (hnormal : m.state = .normal) : m.limpActive = false := by
  cases h with
  | overvoltage hv => cases hnormal
  | glitch hv c => exact hi.normal hnormal
  | critical hv c | warning hlow hv t => cases hnormal
  | low hlow hv =>
    refine hi.limp_of_settle (fun hover => ?_) hnormal
    by_contra hlimp
    have hle : x.voltageMv ≤ overvoltageMv := UInt16.le_trans (UInt16.le_of_lt hv) (by decide)
    have hrec := (hh.overvoltage hover (Bool.not_eq_false _ ▸ hlimp) hlow hle).1
    exact absurd hv (UInt16.not_lt.mpr hrec)
  | waits hv hwait =>
    refine hi.limp_of_settle (fun hover => ?_) hnormal
    by_contra hlimp
    have hlow : brownoutWarningMv ≤ x.voltageMv := UInt16.le_trans (by decide) hv.1
    exact hwait (hh.overvoltage hover (Bool.not_eq_false _ ▸ hlimp) hlow hv.2).2
  | recovers hv hdone => rfl

lemma Inv.high_of_reads (hcut : m.fuelCutActive = true) (hrun : m.recoveryStartUs ≠ 0) :
    Since time High (r.state.update x).since (x :: r.past) := by
  rw [since_update]
  rcases h.timer hrun with ⟨hold, heq⟩ | ⟨hold, hband, heq⟩
  · rw [if_neg hold]
    -- of the readings that keep the timer, only a critical one is not high
    cases h with
    | overvoltage hv =>
      have hhigh : recoveryMv ≤ x.voltageMv := UInt16.le_trans (by decide) (UInt16.le_of_lt hv)
      exact .later hhigh (hi.high hcut hold)
    | glitch hv c => exact absurd hv (UInt16.not_lt.mpr (hh.glitch hcut hold))
    | waits hv hwait => exact .later hv.1 (hi.high hcut hold)
    | recovers hv hdone => cases hcut
    | _ => exact absurd rfl hrun
  · rw [if_pos hold]
    exact .first hband.1 rfl

include hord

lemma Inv.released_of_reads (hcut : r.state.monitor.fuelCutActive = true)
    (hfree : m.fuelCutActive = false) :
    HeldFor time High recoveryTimeUs.toNat x r.past := by
  cases h with
  | critical hv c => cases hfree
  | warning hlow hv t => exact absurd ⟨hlow, hv⟩ (hh.warning hcut)
  | recovers hv hdone => exact hi.heldFor_high hord hcut hv.1 hdone
  | _ => exact absurd (hcut.symm.trans hfree) (by decide)

lemma Inv.recovered_of_reads (hheld : HeldFor time Good recoveryTimeUs.toNat x r.past) :
    m.limpActive = false := by
  rcases h.of_inBand hheld.head with ⟨hwait, hlimp, -⟩ | ⟨-, hlimp⟩
  · rw [hlimp]
    by_contra hactive
    exact hwait (hi.recovers hh hord (Bool.not_eq_false _ ▸ hactive) hheld)
  · exact hlimp

lemma Inv.good_of_reads (hlimp : m.limpActive = true) (t : ℕ)
    (hsince : Since time Good t (x :: r.past)) :
    m.recoveryStartUs ≠ 0 ∧ (r.state.update x).since ≤ t := by
  have hband : InBand x.voltageMv := hsince.head
  rw [since_update]
  rcases h.of_inBand hband with ⟨-, heq, htimer⟩ | ⟨-, hfree⟩
  · rw [heq] at hlimp
    rw [htimer]
    by_cases hold : r.state.monitor.recoveryStartUs = 0
    · -- no stretch was going on, so this reading begins one and starts the timer
      have hstate : r.state.monitor.state ≠ .normal := by
        intro hnormal
        rw [hi.normal hnormal] at hlimp
        cases hlimp
      rcases hsince.cases_cons with rfl | hbefore
      · rw [if_pos ⟨hold, hstate⟩, if_pos hold]
        exact ⟨hh.zero hlimp hold hband, le_rfl⟩
      · exact absurd hold (hi.good hlimp t hbefore).1
    · rw [if_neg (fun h => hold h.1), if_neg hold]
      refine ⟨hold, ?_⟩
      rcases hsince.cases_cons with rfl | hbefore
      · obtain ⟨-, y, hy, hyt⟩ := hi.start hold
        exact hyt ▸ hord y hy
      · exact (hi.good hlimp t hbefore).2
  · rw [hfree] at hlimp
    cases hlimp

end reading

/-! ### Whole histories -/

variable {r : History}

variable {x}

lemma Inv.step (hi : Inv r) (hh : Harmless r x) (hord : r.InOrder time x) :
    Inv (r.step Timed.update x) := by
  have hreads := reads_update r.state.monitor x.voltageMv (stamp x.time)
  exact ⟨hi.limp_of_reads hreads, hi.normal_of_reads hreads hh, hi.start_of_reads hreads,
    hi.high_of_reads hreads hh, hi.good_of_reads hreads hh hord⟩

lemma coherent_of_harmless (hi : Inv r) (hh : Harmless r x) (hord : r.InOrder time x) :
    Coherent r x := by
  have hreads := reads_update r.state.monitor x.voltageMv (stamp x.time)
  have hnext := hi.step hh hord
  refine ⟨fun h => ?_, hi.released_of_reads hreads hh hord, fun h => ?_⟩
  · have hlimp := hi.normal_of_reads hreads hh h
    exact ⟨hnext.fuelCutActive_of_not_limp hlimp, hlimp⟩
  · have hlimp := hi.recovered_of_reads hreads hh hord h
    exact ⟨hnext.fuelCutActive_of_not_limp hlimp, hlimp⟩

variable (x)

/-- **Voltage protection.** In every history of readings in order that meets none of the slips, a
normal supply restricts nothing, fuel is given back only after the recovery time at a high voltage,
and the recovery time at a good voltage gives everything back. -/
theorem protection_coherent {readings : List Reading}
    (hord : readings.Pairwise fun x y => x.time ≤ y.time)
    (hh : Along (Recorded.step Timed.update) Harmless (.start .new) readings) :
    Along (Recorded.step Timed.update) Coherent (.start .new) readings := by
  have hin : Along (Recorded.step Timed.update) (Recorded.InOrder time) (.start .new)
      readings := Recorded.along_inOrder hord
  refine along_of_inv (I := Inv) ?_ ?_ inv_start (along_and.mpr ⟨hh, hin⟩)
  · exact fun r x hi h => coherent_of_harmless hi h.1 h.2
  · exact fun r x hi h => hi.step h.1 h.2

/-- Three critical readings, a fuel cut. -/
def brownout : List Reading := [⟨7000, 1000000⟩, ⟨7000, 1100000⟩, ⟨7000, 1200000⟩]

/-- A cut, two seconds at twelve volts with a load dump in between, and the fuel is back. -/
theorem protection_coherent_brownout :
    Along (Recorded.step Timed.update) Coherent (.start .new)
        (brownout ++ [⟨12000, 2000000⟩, ⟨17000, 3000000⟩, ⟨12000, 4000000⟩]) ∧
      (run (Recorded.step Timed.update) (.start .new)
        (brownout ++ [⟨12000, 2000000⟩, ⟨17000, 3000000⟩, ⟨12000, 4000000⟩])).state.monitor.fuelCutActive
          = false :=
  ⟨protection_coherent (by decide +kernel) (by decide +kernel), by decide +kernel⟩

/-- A cut, a load dump and a reading of eleven volts: the supply is declared normal while fuel is
cut, and ten seconds at twelve volts do not give it back. -/
theorem load_dump_hides_cut :
    ¬ Along (Recorded.step Timed.update) Coherent (.start .new)
        (brownout ++ [⟨17000, 1300000⟩, ⟨11000, 1400000⟩, ⟨12000, 2000000⟩, ⟨12000, 12000000⟩]) := by
  intro h
  obtain ⟨-, -, -, -, hsettled, -⟩ := h
  exact absurd (hsettled.normal (by decide +kernel)).1 (by decide +kernel)

end Pipoco.VoltageRecovery
