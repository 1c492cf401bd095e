import Pipoco.Domain
import Pipoco.Evidence

/-!
How fast knock retard is given back.

Every recovery update gives back the whole units that have accrued since the last one, and drops the
fraction. Frequent updates may give back nothing at all. The product of rate and time is taken in 32
bits, and the cylinder table has eight entries whatever the configuration says.
-/

namespace Pipoco.KnockRecovery

open Domain Runs Evidence

structure KnockConfig where
  enable : Bool
  (threshold retardStepX10 retardMaxX10 recoveryRateX10 : UInt16)
  (debounceCount maxCylinders : UInt8)

def KnockConfig.default : KnockConfig := ⟨true, 100, 20, 150, 10, 2, 4⟩

structure CylinderKnockState where
  (retardX10 knockCount : UInt16)
  consecutiveKnocks : UInt8
  lastKnockUs : UInt32

structure KnockState where
  cylinders : Fin 8 → CylinderKnockState
  globalRetardX10 : UInt16
  (lastRecoveryUs totalKnockCount : UInt32)
  peakKnockLevel : UInt16

namespace KnockState

def new : KnockState := ⟨fun _ => ⟨0, 0, 0, 0⟩, 0, 0, 0, 0⟩

variable (s : KnockState) (config : KnockConfig)

/-- The knock of one cylinder, counted and answered with retard once it is confirmed. -/
def knocked (cyl : CylinderKnockState) (nowUs : UInt32) : CylinderKnockState × Bool :=
  let consecutive := satAdd8 cyl.consecutiveKnocks 1
  if consecutive ≥ config.debounceCount then
    let retard := satAdd16 cyl.retardX10 config.retardStepX10
    (⟨if retard > config.retardMaxX10 then config.retardMaxX10 else retard,
      satAdd16 cyl.knockCount 1, 0, nowUs⟩, true)
  else ({ cyl with consecutiveKnocks := consecutive }, false)

/-- A sample outside the table stops the firmware. -/
def processSample (cylinder : UInt8) (level : UInt16) (nowUs : UInt32) : Option (KnockState × Bool) :=
  if config.enable = false ∨ cylinder ≥ config.maxCylinders then some (s, false)
  else
    let s := { s with peakKnockLevel := max level s.peakKnockLevel }
    if h : cylinder.toNat < 8 then
      let cyl := s.cylinders ⟨cylinder.toNat, h⟩
      let r := if level ≥ config.threshold then knocked config cyl nowUs
        else ({ cyl with consecutiveKnocks := 0 }, false)
      some ({ s with
        cylinders := Function.update s.cylinders ⟨cylinder.toNat, h⟩ r.1
        totalKnockCount := if r.2 then satAdd32 s.totalKnockCount 1 else s.totalKnockCount }, r.2)
    else none

def recoveryAmount (nowUs : UInt32) : UInt32 :=
  config.recoveryRateX10.toUInt32 * (nowUs - s.lastRecoveryUs) / 1000000

/-- So does an update over more cylinders than the table has. -/
def updateRecovery (nowUs : UInt32) : Option KnockState :=
  if config.enable = false then some s
  else
    let amount := s.recoveryAmount config nowUs
    let s := { s with lastRecoveryUs := nowUs }
    if amount = 0 then some s
    else if 8 < config.maxCylinders.toNat then none
    else some { s with
      cylinders := fun i => if i.val < config.maxCylinders.toNat then
          { s.cylinders i with retardX10 := satSub16 (s.cylinders i).retardX10 amount.toUInt16 }
        else s.cylinders i
      globalRetardX10 := satSub16 s.globalRetardX10 amount.toUInt16 }

end KnockState

open KnockState

/-! ### Runs in real time -/

inductive Call
  | sample (cylinder : UInt8) (level : UInt16) (time : ℕ)
  | recover (time : ℕ)

def Call.time : Call → ℕ
  | .sample _ _ time => time
  | .recover time => time

variable (config : KnockConfig) (s : KnockState)

def call : Call → Option KnockState
  | .sample cylinder level time => (s.processSample config cylinder level (stamp time)).map Prod.fst
  | .recover time => s.updateRecovery config (stamp time)

def step (op : Call) : KnockState := (call config s op).getD s

/-- The call stays inside the table, and no retard exceeds the limit. -/
def Bounded (op : Call) : Prop :=
  (call config s op).isSome = true ∧ ∀ c, ((step config s op).cylinders c).retardX10 ≤ config.retardMaxX10

/-- The call detects no knock of the cylinder. -/
def Quiet (c : Fin 8) (s : KnockState) : Call → Prop
  | .sample cylinder level time => cylinder.toNat = c.val →
      (s.processSample config cylinder level (stamp time)).map Prod.snd = some false
  | .recover _ => True

/-- The retard of a cylinder after the calls. -/
def retard (ops : List Call) (c : Fin 8) : ℕ :=
  ((run (step config) .new ops).cylinders c).retardX10.toNat

/-! ### What the updates of a stretch add up to -/

/-- The times between the updates, the last one before the stretch having been at `t`. -/
def gaps (t : ℕ) : List Call → List ℕ
  | [] => []
  | .sample _ _ _ :: ops => gaps t ops
  | .recover u :: ops => (u - t) :: gaps u ops

/-- The whole units given back. -/
def given (rate : ℕ) (gaps : List ℕ) : ℕ := (gaps.map (rate * · / 1000000)).sum

/-- The millionths dropped. -/
def lost (rate : ℕ) (gaps : List ℕ) : ℕ := (gaps.map (rate * · % 1000000)).sum

lemma given_add_lost (rate : ℕ) (gaps : List ℕ) :
    rate * gaps.sum = 1000000 * given rate gaps + lost rate gaps := by
  induction gaps with
  | nil => rfl
  | cons g gaps ih =>
    simp only [given, lost, List.map_cons, List.sum_cons, Nat.mul_add] at ih ⊢
    omega

abbrev InOrder (ops : List Call) : Prop := ops.Pairwise fun x y => x.time ≤ y.time

lemma InOrder.drop {x y : Call} {ops : List Call} (h : InOrder (x :: y :: ops)) : InOrder (x :: ops) :=
  h.sublist ((List.sublist_cons_self y ops).cons_cons x)

lemma sum_gaps {t u : ℕ} {ops : List Call} (h : InOrder (.recover t :: (ops ++ [.recover u]))) :
    (gaps t (ops ++ [.recover u])).sum = u - t := by
  induction ops generalizing t with
  | nil => simp [gaps]
  | cons op ops ih =>
    cases op with
    | sample _ _ _ => exact ih h.drop
    | recover v =>
      have htv : t ≤ v := (List.pairwise_cons.mp h).1 _ (.head _)
      have hvu : v ≤ u := (List.pairwise_cons.mp h.tail).1 (.recover u) (by simp)
      have hsum := ih h.tail
      simp only [List.cons_append, gaps, List.sum_cons, hsum]
      omega

/-! ### One call -/

section call

variable {config} {s} (hmax : config.maxCylinders.toNat ≤ 8)
include hmax

/-- A sample changes the retard of the cylinder whose knock it detects. -/
lemma processSample_spec (cylinder : UInt8) (level : UInt16) (nowUs : UInt32) :
    ∃ s' r, s.processSample config cylinder level nowUs = some (s', r) ∧
      s'.lastRecoveryUs = s.lastRecoveryUs ∧
      ∀ c : Fin 8, (s'.cylinders c).retardX10 = (s.cylinders c).retardX10 ∨
        cylinder.toNat = c.val ∧ c.val < config.maxCylinders.toNat ∧ r = true ∧
          (s'.cylinders c).retardX10 ≤ config.retardMaxX10 := by
  unfold processSample
  by_cases hoff : config.enable = false ∨ cylinder ≥ config.maxCylinders
  · exact ⟨s, false, if_pos hoff, rfl, fun c => .inl rfl⟩
  have hlt : cylinder.toNat < config.maxCylinders.toNat :=
    UInt8.lt_iff_toNat_lt.mp (UInt8.not_le.mp fun h => hoff (.inr h))
  have hin : cylinder.toNat < 8 := by omega
  rw [if_neg hoff, dif_pos hin]
  refine ⟨_, _, rfl, rfl, fun c => ?_⟩
  by_cases hc : c = ⟨cylinder.toNat, hin⟩
  · subst hc
    simp only [Function.update_self, knocked]
    by_cases hlevel : level ≥ config.threshold
    · rw [if_pos hlevel]
      split_ifs with hdebounce hover
      · exact .inr ⟨trivial, hlt, rfl, UInt16.le_refl _⟩
      · exact .inr ⟨trivial, hlt, rfl, UInt16.not_lt.mp hover⟩
      · exact .inl rfl
    · rw [if_neg hlevel]
      exact .inl rfl
  · simp only [Function.update_of_ne hc]
    exact .inl trivial

variable (hen : config.enable = true)
include hen

lemma updateRecovery_spec (nowUs : UInt32) :
    ∃ s', s.updateRecovery config nowUs = some s' ∧ s'.lastRecoveryUs = nowUs ∧
      ∀ c : Fin 8, (s'.cylinders c).retardX10 = if c.val < config.maxCylinders.toNat then
        satSub16 (s.cylinders c).retardX10 (s.recoveryAmount config nowUs).toUInt16
        else (s.cylinders c).retardX10 := by
  simp only [updateRecovery, hen, Bool.true_eq_false, if_false, not_lt.mpr hmax]
  split_ifs with hzero
  · refine ⟨_, rfl, rfl, fun c => ?_⟩
    rw [hzero]
    split_ifs
    · exact UInt16.toNat_inj.mp (by rw [toNat_satSub16]; rfl)
    · rfl
  · refine ⟨_, rfl, rfl, fun c => ?_⟩
    dsimp only
    split_ifs <;> rfl

/-- No retard exceeds the limit, and cylinders that are not there have none. -/
def Inv (config : KnockConfig) (s : KnockState) : Prop :=
  ∀ c : Fin 8, (s.cylinders c).retardX10 ≤ config.retardMaxX10 ∧
    (config.maxCylinders.toNat ≤ c.val → (s.cylinders c).retardX10 = 0)

lemma Inv.step (hi : Inv config s) (op : Call) :
    Bounded config s op ∧ Inv config (step config s op) := by
  suffices h : ∃ s', call config s op = some s' ∧ Inv config s' by
    obtain ⟨s', hcall, hi'⟩ := h
    have hstep : KnockRecovery.step config s op = s' := by
      rw [KnockRecovery.step, hcall, Option.getD_some]
    exact ⟨⟨by rw [hcall]; rfl, fun c => hstep ▸ (hi' c).1⟩, hstep ▸ hi'⟩
  cases op with
  | sample cylinder level time =>
    obtain ⟨s', r, hcall, -, hretard⟩ := processSample_spec (s := s) hmax cylinder level (stamp time)
    refine ⟨s', by rw [call, hcall]; rfl, fun c => ?_⟩
    rcases hretard c with hsame | ⟨-, hlt, -, hle⟩
    · exact hsame ▸ hi c
    · exact ⟨hle, fun h => absurd hlt (not_lt.mpr h)⟩
  | recover time =>
    obtain ⟨s', hcall, -, hretard⟩ := updateRecovery_spec (s := s) hmax hen (stamp time)
    refine ⟨s', hcall, fun c => ?_⟩
    rw [hretard]
    split_ifs with hc
    · have := UInt16.le_iff_toNat_le.mp (hi c).1
      refine ⟨?_, fun h => absurd hc (not_lt.mpr h)⟩
      rw [UInt16.le_iff_toNat_le, toNat_satSub16]
      omega
    · exact hi c

end call

/-! ### Whole runs -/

section runs

variable {config} {s} (hmax : config.maxCylinders.toNat ≤ 8) (hen : config.enable = true)
include hmax hen

/-- Over a quiet stretch the whole units given back add up. -/
lemma retard_run {c : Fin 8} (hc : c.val < config.maxCylinders.toNat) {t : ℕ} {ops : List Call}
    (hlast : s.lastRecoveryUs = stamp t) (hord : InOrder (.recover t :: ops))
    (hfits : ∀ g ∈ gaps t ops, config.recoveryRateX10.toNat * g < 2 ^ 32)
    (hq : Along (step config) (Quiet config c) s ops) :
    ((run (step config) s ops).cylinders c).retardX10.toNat =
      (s.cylinders c).retardX10.toNat - given config.recoveryRateX10.toNat (gaps t ops) := by
  induction ops generalizing s t with
  | nil => rfl
  | cons op ops ih =>
    rw [run_cons]
    cases op with
    | sample cylinder level time =>
      obtain ⟨s', r, hcall, hsame, hretard⟩ := processSample_spec (s := s) hmax cylinder level (stamp time)
      have hstep : step config s (.sample cylinder level time) = s' := by rw [step, call, hcall]; rfl
      have hkept : (s'.cylinders c).retardX10 = (s.cylinders c).retardX10 := by
        rcases hretard c with h | ⟨hcyl, -, rfl, -⟩
        · exact h
        · have := hq.1 hcyl
          rw [hcall] at this
          cases this
      have hrest := hq.2
      rw [hstep] at hrest ⊢
      rw [ih (hsame.trans hlast) hord.drop hfits hrest, hkept, gaps]
    | recover u =>
      obtain ⟨s', hcall, hlast', hretard⟩ := updateRecovery_spec (s := s) hmax hen (stamp u)
      have hstep : step config s (.recover u) = s' := by rw [step, call, hcall]; rfl
      have htu : t ≤ u := (List.pairwise_cons.mp hord).1 _ (.head _)
      have hfit := hfits (u - t) (.head _)
      have hamount : (s.recoveryAmount config (stamp u)).toNat =
          config.recoveryRateX10.toNat * (u - t) / 1000000 := by
        rw [recoveryAmount, hlast, UInt32.toNat_div, UInt32.toNat_mul, UInt16.toNat_toUInt32,
          toNat_stamp_sub htu, Nat.mul_mod_mod, Nat.mod_eq_of_lt hfit]
        rfl
      have hrest := hq.2
      rw [hstep] at hrest ⊢
      rw [ih hlast' hord.tail (fun g hg => hfits g (.tail _ hg)) hrest, hretard, if_pos hc,
        toNat_satSub16, UInt32.toNat_toUInt16, hamount]
      simp only [given, gaps, List.map_cons, List.sum_cons]
      omega

end runs

/-- The retard falls by rate times time, up to a unit, and stops at zero. -/
def Recovers (rate T before after : ℕ) : Prop :=
  before ≤ after + rate * T / 1000000 + 1 ∧ (after = 0 ∨ after + rate * T / 1000000 ≤ before + 1)

/-- **Knock recovery.** Every call stays inside the table and every retard within its limit. Over a
stretch without knock from an update to an update the retard falls by rate times time up to a unit
exactly if the updates give back all of it or drop less than two units. -/
theorem recovers_iff {config : KnockConfig} (hen : config.enable = true)
    (hmax : config.maxCylinders.toNat ≤ 8) (before stretch : List Call) (t u : ℕ)
    (hord : InOrder (.recover t :: (stretch ++ [.recover u])))
    (hfits : ∀ g ∈ gaps t (stretch ++ [.recover u]), config.recoveryRateX10.toNat * g < 2 ^ 32) :
    Along (step config) (Bounded config) .new (before ++ .recover t :: (stretch ++ [.recover u])) ∧
      ∀ c, Along (step config) (Quiet config c) (run (step config) .new (before ++ [.recover t]))
          (stretch ++ [.recover u]) →
        (Recovers config.recoveryRateX10.toNat (u - t) (retard config (before ++ [.recover t]) c)
            (retard config (before ++ .recover t :: (stretch ++ [.recover u])) c) ↔
          retard config (before ++ [.recover t]) c ≤
              given config.recoveryRateX10.toNat (gaps t (stretch ++ [.recover u])) ∨
            lost config.recoveryRateX10.toNat (gaps t (stretch ++ [.recover u])) < 2000000) := by
  have hinv : Inv config .new := fun c => ⟨UInt16.le_iff_toNat_le.mpr (Nat.zero_le _), fun _ => rfl⟩
  refine ⟨along_of_inv (I := Inv config) (C := fun _ _ => True) (fun s op hi _ => (hi.step hmax hen op).1)
    (fun s op hi _ => (hi.step hmax hen op).2) hinv along_true,
    fun c hq => ?_⟩
  have hsplit : before ++ .recover t :: (stretch ++ [.recover u]) =
      (before ++ [.recover t]) ++ (stretch ++ [.recover u]) := by simp
  obtain ⟨s', hcall, hlast, -⟩ := updateRecovery_spec (s := run (step config) .new before) hmax hen (stamp t)
  have hsum := given_add_lost config.recoveryRateX10.toNat (gaps t (stretch ++ [.recover u]))
  rw [sum_gaps hord] at hsum
  have hafter : retard config (before ++ .recover t :: (stretch ++ [.recover u])) c =
      retard config (before ++ [.recover t]) c -
        given config.recoveryRateX10.toNat (gaps t (stretch ++ [.recover u])) := by
    by_cases hc : c.val < config.maxCylinders.toNat
    · rw [hsplit, retard, run_append]
      refine retard_run hmax hen hc ?_ hord hfits hq
      rw [run_append, run_cons, run_nil, step, call, hcall]
      exact hlast
    · have hi := fun ops => (run_inv (I := Inv config) (fun s op hi => (hi.step hmax hen op).2) hinv ops c).2
        (not_lt.mp hc)
      simp [retard, hi]
  rw [Recovers, hafter]
  omega

/-- Two knocks of the first cylinder, then two seconds with an update in the middle. -/
theorem recovers_iff_calm : Recovers 10 2000000 20 (retard .default
    [.sample 0 200 0, .sample 0 200 1000, .recover 2000, .recover 1002000, .recover 2002000] 0) :=
  ((@recovers_iff .default rfl (by decide) [.sample 0 200 0, .sample 0 200 1000]
    [.recover 1002000] 2000 2002000 (by decide +kernel) (by decide +kernel)).2 0
      ⟨trivial, trivial, trivial⟩).mpr (.inr (by decide +kernel))

/-- At one degree a second, updates every 50 ms give back nothing of 2.0 degrees in a second. At the
largest rate an update after 65.538 ms gives back nothing of 42.9 degrees. A configuration may have a
ninth cylinder, which is outside the table. -/
theorem frequent_updates_recover_nothing :
    retard .default ([.sample 0 200 0, .sample 0 200 1000] ++
      (List.range 21).map fun i => .recover (2000 + 50000 * i)) 0 = 20 ∧
    retard ⟨true, 100, 429, 500, 65535, 1, 4⟩
      [.recover 1000, .sample 0 200 1000, .recover 66538] 0 = 429 ∧
    (call ⟨true, 100, 20, 150, 10, 1, 9⟩ .new (.sample 8 200 0)).isSome = false := by
  decide +kernel

end Pipoco.KnockRecovery
