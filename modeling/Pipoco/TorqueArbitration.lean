import Pipoco.Runs
import Pipoco.Torque

/-!
What torque arbitration gives for requests from the builders.

Limp mode overrides every other source and the rev limiter every source but limp mode; among the
others the least request wins. So one more request can raise the torque only if it is the request
of limp mode. Down to the injectors, less torque is never more fuel.
-/

namespace Pipoco.TorqueArbitration

open Runs Torque TorqueConverter TorqueArbiter

/-! ### Signed sixteen-bit numbers -/

lemma toInt_min (a b : Int16) : (min a b).toInt = min a.toInt b.toInt := by
  show (if a ≤ b then a else b).toInt = _
  simp only [Int16.le_iff_toInt_le]
  split_ifs <;> omega

lemma toInt_max (a b : Int16) : (max a b).toInt = max a.toInt b.toInt := by
  show (if a ≤ b then b else a).toInt = _
  simp only [Int16.le_iff_toInt_le]
  split_ifs <;> omega

/-! ### Arbiters filled by the builders -/

variable (a : TorqueArbiter)

/-- Every slot holds a request of its own source, and every active one was built. -/
structure Filled (a : TorqueArbiter) : Prop where
  source : ∀ s, (a.requests s).source = s
  built : ∀ s, (a.requests s).active = true → Built (a.requests s)

inductive Op
  | request (req : TorqueRequest) (built : Built req)
  | clear (source : TorqueSource)
  | arbitrate (maxAvailableX10 : Int16)

/-- The arbiter after a call. A call that stops the firmware leaves it as it is. -/
def step : Op → TorqueArbiter
  | .request req _ => a.request req
  | .clear source => a.clear source
  | .arbitrate maxAvailableX10 => ((a.arbitrate maxAvailableX10).map Prod.fst).getD a

section filled

variable {a : TorqueArbiter} {req : TorqueRequest} {avail : Int16}

lemma requests_arbitrate (a : TorqueArbiter) (avail : Int16) :
    (step a (.arbitrate avail)).requests = a.requests := by
  simp only [step, arbitrate]
  split_ifs <;> rfl

lemma Filled.step (h : Filled a) (op : Op) : Filled (step a op) := by
  cases op with
  | request req hreq =>
    constructor <;> intro s <;>
      simp only [TorqueArbitration.step, request, Function.update_apply]
    · split_ifs with hs
      · exact hs.symm
      · exact h.source s
    · split_ifs
      · exact fun _ => hreq
      · exact h.built s
  | clear source =>
    constructor <;> intro s <;>
      simp only [TorqueArbitration.step, clear, Function.update_apply]
    · split_ifs with hs
      · exact hs ▸ h.source s
      · exact h.source s
    · split_ifs
      · exact fun hactive => (by cases hactive)
      · exact h.built s
  | arbitrate avail =>
    have hsame := requests_arbitrate a avail
    exact ⟨hsame ▸ h.source, hsame ▸ h.built⟩

lemma filled_run (ops : List Op) : Filled (run TorqueArbitration.step .new ops) :=
  run_inv (fun _ op h => h.step op) ⟨fun _ => rfl, fun _ h => (by cases h)⟩ ops

/-- Thirty percent of a torque is a torque, and not the unlimited one. -/
lemma limp_torque_lt (max : Int16) (now : UInt32) :
    (limpTorqueRequest true max now).torqueNmX10 < Int16.maxValue := by
  have hge := max.le_toInt
  have hlt := max.toInt_lt
  have hlo : (-32768 * 30 : ℤ).tdiv 100 ≤ (max.toInt * 30).tdiv 100 :=
    Int.tdiv_le_tdiv (by decide) (by omega)
  have hhi : (max.toInt * 30).tdiv 100 ≤ (32767 * 30 : ℤ).tdiv 100 :=
    Int.tdiv_le_tdiv (by decide) (by omega)
  rw [show (-32768 * 30 : ℤ).tdiv 100 = -9830 by decide] at hlo
  rw [show (32767 * 30 : ℤ).tdiv 100 = 9830 by decide] at hhi
  show Int16.ofInt ((max.toInt * 30).tdiv 100) < Int16.maxValue
  rw [Int16.lt_iff_toInt_lt, Int16.toInt_maxValue, Int16.toInt_ofInt_of_le (by omega) (by omega)]
  omega

/-- What an active request may override with: limp mode with its torque, the rev limiter with
none, and no other source. -/
lemma overrides_of_built (h : Built req) (hactive : req.active = true) :
    match req.source with
    | .limp => req.priority = Priority.limp ∧ req.torqueNmX10 < Int16.maxValue
    | .revLimiter => req.priority = Priority.revLimiter ∧ req.torqueNmX10 = 0
    | _ => req.priority < Priority.revLimiter := by
  cases h with
  | driver => show Priority.driver < Priority.revLimiter; decide
  | idle h =>
    simp only [idleTorqueRequest] at h
    split_ifs at h
    cases h
    show Priority.idle < Priority.revLimiter
    decide
  | revLimiter b now =>
    obtain rfl : b = true := hactive
    exact ⟨rfl, rfl⟩
  | limp b max now =>
    obtain rfl : b = true := hactive
    exact ⟨rfl, limp_torque_lt max now⟩
  | knock => show Priority.knock < Priority.revLimiter; decide
  | antiStall =>
    unfold antiStallTorqueRequest
    split_ifs <;> (show Priority.antiStall < Priority.revLimiter; decide)
  | traction =>
    unfold tractionTorqueRequest
    split_ifs <;> (show Priority.traction < Priority.revLimiter; decide)

end filled

/-! ### What arbitration gives -/

variable (avail : Int16)

/-- The arbitrated torque, unless the firmware stops. -/
def arbitrated : Option Int16 := (a.arbitrate avail).map Prod.snd

/-- The torque the second loop leaves. -/
def least : Int16 := (a.slots.foldl (MinWins.step avail) ⟨avail, none, false⟩).minTorque

section arbitrated

variable {a : TorqueArbiter} {avail : Int16}

/-- A slot of the first loop: its source takes over if it may override what was found before. -/
lemma Filled.override_step (h : Filled a) (o : Override) (s : TorqueSource) :
    o.step (a.requests s) =
      if s = .limp ∧ (a.requests s).active = true ∧ o.highestPriority < Priority.limp then
        ⟨Priority.limp, (a.requests s).torqueNmX10, some .limp⟩
      else if s = .revLimiter ∧ (a.requests s).active = true ∧
          o.highestPriority < Priority.revLimiter then ⟨Priority.revLimiter, 0, some .revLimiter⟩
      else o := by
  by_cases hactive : (a.requests s).active = true
  · have hover := overrides_of_built (h.built s hactive) hactive
    have hs := h.source s
    rw [hs] at hover
    have hle : Priority.revLimiter ≤ Priority.limp := by decide
    have hzero : (0 : Int16) < Int16.maxValue := by decide
    cases s <;> simp only [reduceCtorEq, false_and, true_and, if_false, hactive, Override.step, hs]
      <;> simp only at hover
    case limp => simp [hover, hle]
    case revLimiter => simp [hover, hzero]
    all_goals simp [UInt8.not_le.mpr hover]
  · simp [Override.step, hactive]

/-- Limp mode overrides whatever else is active, and the rev limiter all the rest. -/
lemma Filled.foldl_override (h : Filled a) :
    a.slots.foldl Override.step ⟨0, avail, none⟩ =
      if (a.requests .limp).active = true then
        ⟨Priority.limp, (a.requests .limp).torqueNmX10, some .limp⟩
      else if (a.requests .revLimiter).active = true then
        ⟨Priority.revLimiter, 0, some .revLimiter⟩
      else ⟨0, avail, none⟩ := by
  have h₂ : (0 : UInt8) < Priority.revLimiter := by decide
  have h₃ : Priority.revLimiter < Priority.limp := by decide
  simp only [slots, TorqueSource.all, List.map_cons, List.map_nil, List.foldl_cons,
    List.foldl_nil, h.override_step, reduceCtorEq, false_and, true_and, if_false]
  split_ifs <;> simp_all

/-! #### The least request -/

variable {m : MinWins}

lemma effectiveRequest_le (req : TorqueRequest) (avail : Int16) :
    (effectiveRequest req avail).toInt ≤ avail.toInt := by
  unfold effectiveRequest
  split_ifs
  · exact le_rfl
  · rw [toInt_min]
    exact min_le_right _ _

/-- While nothing has won the least torque is what is available. -/
structure Sound (avail : Int16) (m : MinWins) : Prop where
  le : m.minTorque.toInt ≤ avail.toInt
  fresh : m.winning = none → m.minTorque = avail
  idle : m.anyActive = false → m.minTorque = avail

lemma Sound.step (h : Sound avail m) (req : TorqueRequest) :
    Sound avail (m.step avail req) ∧ ∀ x : ℤ, x ≤ (m.step avail req).minTorque.toInt ↔
      x ≤ m.minTorque.toInt ∧ (req.active = true → x ≤ (effectiveRequest req avail).toInt) := by
  have he := effectiveRequest_le req avail
  have hle := h.le
  simp only [MinWins.step, Int16.lt_iff_toInt_lt]
  split_ifs with hactive hlt hnone
  · simp only [Bool.not_eq_true'] at hactive
    exact ⟨h, fun x => by simp [hactive]⟩
  all_goals simp only [Bool.not_eq_true', Bool.not_eq_false] at hactive
  · refine ⟨⟨he, fun h => (by cases h), fun h => (by cases h)⟩, fun x => ?_⟩
    simp only [hactive, forall_const]
    omega
  · -- nothing has won yet, so the request asks for all there is
    have hm := congrArg Int16.toInt (h.fresh (Option.isNone_iff_eq_none.mp hnone))
    refine ⟨⟨he, fun h => (by cases h), fun h => (by cases h)⟩, fun x => ?_⟩
    simp only [hactive, forall_const]
    omega
  · refine ⟨⟨hle, fun hn => absurd (Option.isNone_iff_eq_none.mpr hn) hnone,
      fun h => (by cases h)⟩, fun x => ?_⟩
    simp only [hactive, forall_const]
    omega

lemma Sound.foldl (h : Sound avail m) (l : List TorqueRequest) :
    Sound avail (l.foldl (MinWins.step avail) m) ∧
      ∀ x : ℤ, x ≤ (l.foldl (MinWins.step avail) m).minTorque.toInt ↔
        x ≤ m.minTorque.toInt ∧
          ∀ req ∈ l, req.active = true → x ≤ (effectiveRequest req avail).toInt := by
  induction l generalizing m with
  | nil => exact ⟨h, fun x => by simp⟩
  | cons req l ih =>
    obtain ⟨hs, hstep⟩ := h.step req
    obtain ⟨hl, hfold⟩ := ih hs
    refine ⟨hl, fun x => ?_⟩
    rw [List.foldl_cons, hfold, hstep, List.forall_mem_cons, and_assoc]

lemma sound_start (avail : Int16) : Sound avail ⟨avail, none, false⟩ :=
  ⟨le_rfl, fun _ => rfl, fun _ => rfl⟩

/-- **Min wins.** The least request, and no more than is available. -/
lemma le_least_iff {x : ℤ} : x ≤ (least a avail).toInt ↔ x ≤ avail.toInt ∧
    ∀ s, (a.requests s).active = true → x ≤ (effectiveRequest (a.requests s) avail).toInt := by
  have hall (s : TorqueSource) : s ∈ TorqueSource.all := by cases s <;> decide
  rw [least, ((sound_start avail).foldl a.slots).2 x]
  simp only [slots, List.forall_mem_map]
  exact and_congr_right fun _ => ⟨fun h s => h s (hall s), fun h s _ => h s⟩

lemma Filled.arbitrated_eq (h : Filled a) :
    arbitrated a avail =
      if (a.requests .limp).active = true then
        some (max (min (a.requests .limp).torqueNmX10 avail) 0)
      else if (a.requests .revLimiter).active = true then some 0
      else if avail < 0 then none else some (max 0 (min (least a avail) avail)) := by
  have hidle := ((sound_start avail).foldl a.slots).1.idle
  have hzero : max (min 0 avail) 0 = 0 := by
    rw [← Int16.toInt_inj, toInt_max, toInt_min, Int16.toInt_zero]
    omega
  unfold arbitrated arbitrate
  simp only [h.foldl_override]
  by_cases hlimp : (a.requests .limp).active = true
  · simp only [hlimp, if_true]
    rfl
  by_cases hrev : (a.requests .revLimiter).active = true
  · simp only [hlimp, hrev, if_true]
    exact congrArg some hzero
  · have hno : ¬ Priority.revLimiter ≤ 0 := by decide
    split_ifs with hneg hany
    · rfl
    · exact congrArg (fun t => some (max 0 (min t avail))) (hidle (by simpa using hany)).symm
    · rfl

end arbitrated

/-! ### One more request -/

/-- A request of a source that was silent. -/
structure Activates (a : TorqueArbiter) (req : TorqueRequest) : Prop where
  built : Built req
  active : req.active = true
  silent : (a.requests req.source).active = false

section activates

variable {a : TorqueArbiter} {avail t u : Int16} {req : TorqueRequest}

/-- An active source is another than the one that was silent, and keeps its request. -/
lemma Activates.requests_of_active (h : Activates a req) {s : TorqueSource}
    (hs : (a.requests s).active = true) : (a.request req).requests s = a.requests s := by
  refine Function.update_of_ne (fun heq => ?_) _ _
  rw [heq, h.silent] at hs
  cases hs

lemma Activates.least_le (h : Activates a req) :
    (least (a.request req) avail).toInt ≤ (least a avail).toInt := by
  obtain ⟨havail, hall⟩ := le_least_iff.mp (le_refl (least (a.request req) avail).toInt)
  refine le_least_iff.mpr ⟨havail, fun s hs => ?_⟩
  have hkeep := h.requests_of_active hs
  rw [← hkeep] at hs ⊢
  exact hall s hs

/-- One more request raises nothing, unless limp mode makes it. -/
lemma Filled.arbitrated_request_le (h : Filled a) (hreq : Activates a req)
    (hsource : req.source ≠ .limp) (ht : arbitrated a avail = some t)
    (hu : arbitrated (a.request req) avail = some u) : u ≤ t := by
  have h' : Filled (a.request req) := h.step (.request req hreq.built)
  have hlimp : (a.request req).requests .limp = a.requests .limp :=
    Function.update_of_ne hsource.symm _ _
  have hrev (hr : (a.requests .revLimiter).active = true) :
      ((a.request req).requests .revLimiter).active = true := by
    rw [hreq.requests_of_active hr, hr]
  have hleast : (least (a.request req) avail).toInt ≤ (least a avail).toInt := hreq.least_le
  rw [h.arbitrated_eq] at ht
  rw [h'.arbitrated_eq, hlimp] at hu
  rw [Int16.le_iff_toInt_le]
  split_ifs at ht hu
  all_goals cases ht; cases hu
  all_goals simp only [toInt_max, toInt_min, Int16.toInt_zero, le_refl]
  all_goals first | omega | exact absurd (hrev ‹_›) ‹_›

/-- Arbitration gives a torque between zero and what is available, if something is or if a source
overrides. -/
lemma Filled.arbitrated_mem (h : Filled a)
    (havail : 0 ≤ avail ∨ (a.requests .limp).active = true ∨
      (a.requests .revLimiter).active = true) :
    ∃ t, arbitrated a avail = some t ∧ 0 ≤ t ∧ t ≤ max avail 0 := by
  rw [h.arbitrated_eq]
  split_ifs with hlimp hrev hneg
  · refine ⟨_, rfl, ?_⟩
    simp only [Int16.le_iff_toInt_le, toInt_max, toInt_min, Int16.toInt_zero]
    omega
  · refine ⟨_, rfl, ?_⟩
    simp only [Int16.le_iff_toInt_le, toInt_max, Int16.toInt_zero]
    omega
  · simp only [hlimp, hrev, or_false, Bool.false_eq_true] at havail
    exact absurd havail (Int16.not_le.mpr hneg)
  · refine ⟨_, rfl, ?_⟩
    simp only [Int16.le_iff_toInt_le, toInt_max, toInt_min, Int16.toInt_zero]
    omega

end activates

/-! ### Fuel -/

section fuel

variable {target target' maxX10 : Int16} (base : UInt16)

/-- The share of fuel left by the default configuration: timing takes the first thirty percent,
fuel the next thirty, and a reduction beyond cuts the fuel. -/
def fuelShare (reduction : ℤ) : ℤ :=
  if reduction ≤ 30 then 100 else if reduction ≤ 60 then 130 - reduction else 0

/-- The share of fuel for a target. -/
def share (target maxX10 : Int16) : ℤ :=
  if maxX10 ≤ 0 then 0 else fuelShare (reductionPercent target maxX10)

lemma reductionPercent_mem (target : Int16) (hmax : 0 < maxX10) :
    0 ≤ reductionPercent target maxX10 ∧ reductionPercent target maxX10 ≤ 100 := by
  simp only [Int16.lt_iff_toInt_lt, Int16.toInt_zero] at hmax
  simp only [reductionPercent, Int16.le_iff_toInt_le, Int16.toInt_zero]
  split_ifs with h₁ h₂
  · omega
  · omega
  · refine ⟨Int.tdiv_nonneg (by omega) (by omega), ?_⟩
    calc ((maxX10.toInt - target.toInt) * 100).tdiv maxX10.toInt
        ≤ (100 * maxX10.toInt).tdiv maxX10.toInt := Int.tdiv_le_tdiv hmax (by omega)
      _ = 100 := Int.mul_tdiv_cancel _ (by omega)

lemma reductionPercent_anti (hmax : 0 < maxX10) (h : target ≤ target') :
    reductionPercent target' maxX10 ≤ reductionPercent target maxX10 := by
  have hm := reductionPercent_mem target hmax
  have hm' := reductionPercent_mem target' hmax
  simp only [Int16.lt_iff_toInt_lt, Int16.le_iff_toInt_le, Int16.toInt_zero, reductionPercent]
    at h hmax hm hm' ⊢
  split_ifs at hm hm' ⊢
  all_goals try omega
  exact Int.tdiv_le_tdiv hmax (by omega)

lemma share_mono (h : target ≤ target') : share target maxX10 ≤ share target' maxX10 := by
  unfold share
  split_ifs with hmax
  · exact le_rfl
  · have hanti := reductionPercent_anti (Int16.not_le.mp hmax) h
    unfold fuelShare
    split_ifs <;> omega

lemma timingFirst_new {r : ℤ} (hpos : 0 ≤ r) (hle : r ≤ 100) :
    ∃ targets, new.timingFirst r = some targets ∧
      (targets.fuelCut = true → targets.fuelMultX100 = 0) ∧
      (targets.fuelMultX100.toNat : ℤ) = fuelShare r := by
  have hcapacity : (new.config.maxTimingRetardX10.toInt * 2).tdiv 10 = 30 := by
    decide
  have hlo : ((new.config.minFuelMultX100.toNat : ℕ) : ℤ) = 70 := by decide
  simp only [timingFirst, hcapacity, hlo, UInt8.le_iff_toNat_le, fuelShare]
  rw [if_neg (show ¬ (100 : ℤ) < 70 by decide)]
  by_cases htiming : r ≤ 30
  · rw [if_pos htiming, if_pos htiming]
    exact ⟨_, rfl, fun h => (by cases h), rfl⟩
  have hclamp : Control.clampInt (100 - (r - 30)) 70 100 = max 70 (130 - r) := by
    simp only [Control.clampInt]
    omega
  have hmult : ((UInt8.ofInt (max 70 (130 - r))).toNat : ℤ) = max 70 (130 - r) := by
    rw [UInt8.ofInt, UInt8.toNat_ofNat']
    omega
  rw [if_neg htiming, if_neg htiming, hclamp]
  by_cases hcut : r ≤ 60
  · rw [if_pos hcut, if_neg (by omega)]
    exact ⟨_, rfl, fun h => (by cases h), hmult.trans (by omega)⟩
  · rw [if_neg hcut, if_pos (by omega)]
    exact ⟨_, rfl, fun _ => rfl, rfl⟩

lemma convert_new (target maxX10 : Int16) (rpm : UInt16) :
    ∃ targets, new.convert target maxX10 rpm = some targets ∧
      (targets.fuelCut = true → targets.fuelMultX100 = 0) ∧
      (targets.fuelMultX100.toNat : ℤ) = share target maxX10 := by
  unfold convert share
  by_cases hmax : maxX10 ≤ 0
  · simp [hmax]
  · have hm := reductionPercent_mem target (Int16.not_le.mp hmax)
    simp only [hmax, if_false, show new.config.preferTiming = true from rfl, if_true]
    split_ifs with hzero hall
    · exact ⟨_, rfl, fun h => (by cases h), by rw [hzero]; rfl⟩
    · refine ⟨_, rfl, fun _ => rfl, ?_⟩
      rw [le_antisymm hm.2 hall]
      rfl
    · exact timingFirst_new hm.1 hm.2

lemma toNat_applyToFuel {targets : ActuatorTargets}
    (hcut : targets.fuelCut = true → targets.fuelMultX100 = 0)
    (hmult : targets.fuelMultX100.toNat ≤ 100) :
    (applyToFuel base targets).toNat = base.toNat * targets.fuelMultX100.toNat / 100 := by
  have hbase := base.toNat_lt
  have hmul := Nat.mul_le_mul_left base.toNat hmult
  unfold applyToFuel
  by_cases hzero : targets.fuelMultX100 = 0
  · simp [hzero]
  · rw [if_neg fun h => hzero (h.elim hcut id), UInt16.toNat_ofNat']
    omega

/-- The pulse the default converter makes of a target. -/
def pulse (target maxX10 : Int16) (rpm : UInt16) : Option UInt16 :=
  (new.convert target maxX10 rpm).map (applyToFuel base)

lemma pulse_eq (target maxX10 : Int16) (rpm : UInt16) :
    ∃ p, pulse base target maxX10 rpm = some p ∧
      p.toNat = base.toNat * (share target maxX10).toNat / 100 := by
  obtain ⟨targets, hconvert, hcut, hshare⟩ := convert_new target maxX10 rpm
  have hle : targets.fuelMultX100.toNat ≤ 100 := by
    unfold share fuelShare at hshare
    split_ifs at hshare <;> omega
  refine ⟨_, by rw [pulse, hconvert, Option.map_some], ?_⟩
  rw [toNat_applyToFuel base hcut hle, ← hshare, Int.toNat_natCast]

lemma pulse_mono (maxX10 : Int16) (rpm : UInt16) (h : target ≤ target') :
    ∃ p p', pulse base target maxX10 rpm = some p ∧ pulse base target' maxX10 rpm = some p' ∧
      p ≤ p' := by
  obtain ⟨p, hp, hps⟩ := pulse_eq base target maxX10 rpm
  obtain ⟨p', hp', hps'⟩ := pulse_eq base target' maxX10 rpm
  refine ⟨p, p', hp, hp', ?_⟩
  rw [UInt16.le_iff_toNat_le, hps, hps']
  exact Nat.div_le_div_right (Nat.mul_le_mul_left _ (Int.toNat_le_toNat (share_mono h)))

lemma pulse_zero (maxX10 : Int16) (rpm : UInt16) : pulse base 0 maxX10 rpm = some 0 := by
  obtain ⟨p, hp, hps⟩ := pulse_eq base 0 maxX10 rpm
  have hzero : share 0 maxX10 = 0 := by
    unfold share reductionPercent
    split_ifs with h₁ h₂
    · rfl
    · rfl
    · exact absurd Int16.le_rfl h₂
  rw [hzero, Int.toNat_zero, Nat.mul_zero, Nat.zero_div] at hps
  rw [hp, ← UInt16.toNat_inj.mp (hps.trans UInt16.toNat_zero.symm)]

end fuel

/-! ### All requests -/

/-- **Torque arbitration by priority.** After any calls with requests from the builders: with torque
available or an overriding source active, the result lies between zero and what is available; limp
mode gives its own torque, the rev limiter without limp mode gives zero, and without either the
least active request wins; one more request raises nothing, unless limp mode makes it. Less torque
is never a longer pulse, and no torque is no pulse. -/
theorem arbitration_by_priority (ops : List Op) (avail : Int16) :
    let a := run step .new ops
    (0 ≤ avail ∨ (a.requests .limp).active = true ∨ (a.requests .revLimiter).active = true →
        ∃ t, arbitrated a avail = some t ∧ 0 ≤ t ∧ t ≤ max avail 0) ∧
      ((a.requests .limp).active = true →
        arbitrated a avail = some (max (min (a.requests .limp).torqueNmX10 avail) 0)) ∧
      ((a.requests .limp).active = false → (a.requests .revLimiter).active = true →
        arbitrated a avail = some 0) ∧
      ((a.requests .limp).active = false → (a.requests .revLimiter).active = false → 0 ≤ avail →
        ∃ t, arbitrated a avail = some t ∧ ∀ x : ℤ, x ≤ t.toInt ↔ x ≤ 0 ∨ x ≤ avail.toInt ∧
          ∀ s, (a.requests s).active = true → x ≤ (effectiveRequest (a.requests s) avail).toInt) ∧
      (∀ req t u, Activates a req → req.source ≠ .limp → arbitrated a avail = some t →
        arbitrated (a.request req) avail = some u → u ≤ t) ∧
      (∀ base rpm target target', target ≤ target' →
        ∃ p p', pulse base target avail rpm = some p ∧ pulse base target' avail rpm = some p' ∧
          p ≤ p') ∧
      ∀ base rpm, pulse base 0 avail rpm = some 0 := by
  intro a
  have h : Filled a := filled_run ops
  refine ⟨h.arbitrated_mem, fun hlimp => ?_, fun hlimp hrev => ?_, fun hlimp hrev hpos => ?_,
    fun req t u hreq hsource => h.arbitrated_request_le hreq hsource,
    fun base rpm target target' => pulse_mono base avail rpm, fun base rpm => pulse_zero base avail rpm⟩
  · simp [h.arbitrated_eq, hlimp]
  · simp [h.arbitrated_eq, hlimp, hrev]
  · refine ⟨max 0 (min (least a avail) avail), ?_, fun x => ?_⟩
    · simp [h.arbitrated_eq, hlimp, hrev, Int16.not_lt.mpr hpos]
    · rw [toInt_max, toInt_min, Int16.toInt_zero, le_max_iff, le_min_iff, le_least_iff]
      exact or_congr_right ⟨fun hx => hx.1, fun hx => ⟨hx, hx.1⟩⟩

/-- The driver asks for a tenth of the torque; with limp mode on top it is three tenths, and limp
mode also takes over from an active rev limiter. -/
theorem limp_raises_torque :
    arbitrated (run step .new [.request _ (.driver 10 3000 2000 0)]) 2000 = some 200 ∧
      arbitrated (run step .new [.request _ (.driver 10 3000 2000 0),
        .request _ (.limp true 2000 0)]) 2000 = some 600 ∧
      arbitrated (run step .new [.request _ (.revLimiter true 0)]) 2000 = some 0 ∧
      arbitrated (run step .new [.request _ (.revLimiter true 0),
        .request _ (.limp true 2000 0)]) 2000 = some 600 := by
  decide +kernel

end Pipoco.TorqueArbitration
