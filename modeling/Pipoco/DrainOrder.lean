import Pipoco.Draws
import Pipoco.Keyed
import Pipoco.SchedQueue

/-!
The order in which a drain hands out transitions.

The transitions have an order of their own: the one further behind the clock first, and at one
deadline by kind, channel and level. A drain should be the draw of the first ones in that order,
and then the slots they sit in could not be told from the outside.

The scan that picks the next transition does compare equal deadlines in the type's order, but
after a comparison of times that already holds between equal ones, so of equal deadlines it picks
the one in the last slot. `Orderly` says when this makes no difference, and
`drainDue_draws_iff` that nothing else does.
-/

namespace Pipoco.DrainOrder

open Domain Slots SchedState SchedQueue Draws Keyed ScheduledTransitionQueue

/-! ### The order of the transitions -/

variable (now : Micros) (t : ScheduledTransition)

/-- The place of a transition in the order of a drain at `now`. -/
def rank : ℕᵒᵈ ×ₗ ℕ ×ₗ ℕ ×ₗ ℕ :=
  toLex (OrderDual.toDual (age now t.atUs),
    toLex (kindRank t.kind, toLex (t.channel.toNat, levelRank t.level)))

def due : Bool := isDue now t.atUs

lemma kindRank_inj {a b : ScheduledTransitionKind} (h : kindRank a = kindRank b) : a = b := by
  cases a <;> cases b <;> first | rfl | cases h

lemma levelRank_inj {a b : ScheduledLevel} (h : levelRank a = levelRank b) : a = b := by
  cases a <;> cases b <;> first | rfl | cases h

lemma rank_injective : Function.Injective (rank now) := by
  rintro ⟨at₁, kind₁, channel₁, level₁⟩ ⟨at₂, kind₂, channel₂, level₂⟩ h
  simp only [rank, EmbeddingLike.apply_eq_iff_eq, Prod.mk.injEq] at h
  obtain ⟨hage, hkind, hchannel, hlevel⟩ := h
  obtain rfl := age_inj hage
  obtain rfl := kindRank_inj hkind
  obtain rfl := UInt8.toNat_inj.mp hchannel
  obtain rfl := levelRank_inj hlevel
  rfl

variable {now t}

lemma rank_lt_iff_of_atUs_eq {u : ScheduledTransition} (h : t.atUs = u.atUs) :
    rank now t < rank now u ↔ transitionLt t u = true := by
  have hirrefl : ¬ u.atUs < u.atUs := by rw [UInt32.lt_iff_toNat_lt]; omega
  simp only [rank, Prod.Lex.toLex_lt_toLex, h, lt_irrefl, true_and, false_or, transitionLt,
    Bool.or_eq_true, Bool.and_eq_true, decide_eq_true_eq, hirrefl, UInt8.lt_iff_toNat_lt,
    UInt8.toNat_inj]

/-- An older transition comes first, and never after one of the same deadline that the type's
order puts behind it. -/
lemma rank_le_iff {u : ScheduledTransition} :
    rank now t ≤ rank now u ↔
      age now u.atUs < age now t.atUs ∨ t.atUs = u.atUs ∧ transitionLt u t = false := by
  by_cases h : t.atUs = u.atUs
  · rw [← not_lt, rank_lt_iff_of_atUs_eq h.symm, Bool.not_eq_true]
    simp [h]
  · have hage : age now t.atUs ≠ age now u.atUs := fun he => h (age_inj he)
    have hdual : OrderDual.toDual (age now t.atUs) ≠ OrderDual.toDual (age now u.atUs) := by
      simpa using hage
    simp only [rank, Prod.Lex.toLex_le_toLex, hdual, false_and, or_false, h,
      OrderDual.toDual_lt_toDual]

variable (now t)

/-! ### Ties -/

/-- How many due transitions the scan prefers to `t`, the slots behind it holding `post`: those
with an older deadline anywhere, and those with its own deadline in a later slot. -/
def ahead (items : List ScheduledTransition) (t : ScheduledTransition)
    (post : List ScheduledTransition) : ℕ :=
  items.countP (fun v => due now v && decide (age now t.atUs < age now v.atUs)) +
    post.countP fun v => v.atUs = t.atUs

/-- A due transition has no earlier slot with its deadline that should come before it, unless
`m` others leave the queue first. -/
def TiesInOrder (m : ℕ) (items : List ScheduledTransition) : Prop :=
  ∀ pre t post, items = pre ++ t :: post → due now t = true →
    ∀ u ∈ pre, u.atUs = t.atUs → transitionLt u t = true → m ≤ ahead now items t post

/-- The buffer is one the drain accepts, or not needed, and no tie is decided by the slots. -/
structure Orderly (now : Micros) (m : ℕ) (items : List ScheduledTransition) : Prop where
  buffer : maxMetadataCapacity < m → ∀ t ∈ items, due now t = false
  ties : TiesInOrder now m items

/-- The scan would pick `t` between `pre` and `post`. -/
structure Picks (now : Micros) (pre : List ScheduledTransition) (t : ScheduledTransition)
    (post : List ScheduledTransition) : Prop where
  isDue : due now t = true
  before : ∀ u ∈ pre, due now u = true → age now u.atUs ≤ age now t.atUs
  after : ∀ u ∈ post, due now u = true → age now u.atUs < age now t.atUs

section picks

variable {now : Micros} {pre post : List ScheduledTransition} {t : ScheduledTransition}
  {x : ScheduledTransition}

lemma due_of_atUs_eq {u : ScheduledTransition} (h : u.atUs = t.atUs) : due now u = due now t := by
  rw [due, due, h]

lemma Picks.atUs_ne (hp : Picks now pre t post) (hx : x ∈ post) : x.atUs ≠ t.atUs := by
  intro h
  have := hp.after x hx ((due_of_atUs_eq h).trans hp.isDue)
  rw [h] at this
  omega

lemma Picks.ahead_eq_zero (hp : Picks now pre t post) : ahead now (pre ++ t :: post) t post = 0 := by
  have holder : (pre ++ t :: post).countP
      (fun v => due now v && decide (age now t.atUs < age now v.atUs)) = 0 := by
    rw [List.countP_eq_zero]
    intro v hv
    simp only [Bool.and_eq_true, decide_eq_true_eq, not_and, not_lt]
    intro hdue
    rcases List.mem_append.mp hv with hv | hv
    · exact hp.before v hv hdue
    rcases List.mem_cons.mp hv with rfl | hv
    · exact le_refl _
    · exact (hp.after v hv hdue).le
  have hsame : post.countP (fun v => v.atUs = t.atUs) = 0 := by
    rw [List.countP_eq_zero]
    intro v hv
    simpa using hp.atUs_ne hv
  rw [ahead, holder, hsame]

/-- A transition in front of the one the scan picks loses one that is ahead of it. -/
lemma Picks.ahead_before (hp : Picks now pre t post) {p s : List ScheduledTransition}
    (hpre : pre = p ++ x :: s) (hx : due now x = true) :
    ahead now (pre ++ t :: post) x (s ++ t :: post) = ahead now (pre ++ post) x (s ++ post) + 1 := by
  have hle : age now x.atUs ≤ age now t.atUs := hp.before x (by simp [hpre]) hx
  have hdue : due now t = true := hp.isDue
  rcases hle.lt_or_eq with hlt | heq
  · have hne : ¬ t.atUs = x.atUs := fun h => by rw [h] at hlt; omega
    simp only [ahead, List.countP_append, List.countP_cons, hdue, hlt, hne, decide_true,
      decide_false, Bool.and_true, Bool.false_eq_true, if_true, if_false]
    omega
  · have hat : t.atUs = x.atUs := (age_inj heq).symm
    simp only [ahead, List.countP_append, List.countP_cons, hdue, hat, lt_irrefl, decide_true,
      decide_false, Bool.and_false, Bool.false_eq_true, if_true, if_false]
    omega

lemma Picks.ahead_after (hp : Picks now pre t post) (s : List ScheduledTransition)
    (hpost : x ∈ post) (hx : due now x = true) :
    ahead now (pre ++ t :: post) x s = ahead now (pre ++ post) x s + 1 := by
  have hlt : age now x.atUs < age now t.atUs := hp.after x hpost hx
  have hdue : due now t = true := hp.isDue
  simp only [ahead, List.countP_append, List.countP_cons, hdue, hlt, decide_true, Bool.and_true,
    if_true]
  omega

/-- One pick: the ties of what remains are in order, and so are those of what was picked. -/
lemma Picks.tiesInOrder_iff (hp : Picks now pre t post) {m : ℕ} :
    TiesInOrder now (m + 1) (pre ++ t :: post) ↔
      TiesInOrder now m (pre ++ post) ∧ ∀ u ∈ pre, u.atUs = t.atUs → transitionLt u t = false := by
  constructor
  · intro h
    refine ⟨fun p x s hsplit hx u hu hat hlt => ?_, fun u hu hat => ?_⟩
    · rcases split_cases hsplit with ⟨s', hpre, rfl⟩ | ⟨p', rfl, hpost⟩
      · have hroom := h p x (s' ++ t :: post) (by simp [hpre]) hx u hu hat hlt
        rw [hp.ahead_before hpre hx] at hroom
        omega
      · have hu' : u ∈ pre ++ t :: p' := by
          rcases List.mem_append.mp hu with hu | hu
          · exact List.mem_append_left _ hu
          · exact List.mem_append_right _ (List.mem_cons_of_mem t hu)
        have hroom := h (pre ++ t :: p') x s (by simp [hpost]) hx u hu' hat hlt
        rw [hp.ahead_after s (by simp [hpost]) hx] at hroom
        omega
    · by_contra hlt
      have hroom := h pre t post rfl hp.isDue u hu hat (by simpa using hlt)
      rw [hp.ahead_eq_zero] at hroom
      omega
  · rintro ⟨hrest, hpick⟩ p x s hsplit hx u hu hat hlt
    rcases split_cases hsplit with ⟨s', hpre, rfl⟩ | ⟨p', rfl, hpost⟩
    · rw [hp.ahead_before hpre hx]
      have := hrest p x (s' ++ post) (by simp [hpre]) hx u hu hat hlt
      omega
    cases p' with
    | nil =>
      obtain ⟨rfl, rfl⟩ := List.cons.inj hpost
      rw [List.append_nil] at hu
      rw [hpick u hu hat] at hlt
      cases hlt
    | cons y p' =>
      obtain ⟨rfl, rfl⟩ := List.cons.inj hpost
      have hxpost : x ∈ p' ++ x :: s := by simp
      rw [hp.ahead_after s hxpost hx]
      rcases List.mem_append.mp hu with hu | hu
      · have := hrest (pre ++ p') x s (by simp) hx u (List.mem_append_left _ hu) hat hlt
        omega
      rcases List.mem_cons.mp hu with rfl | hu
      · exact absurd hat.symm (hp.atUs_ne hxpost)
      · have := hrest (pre ++ p') x s (by simp) hx u (List.mem_append_right _ hu) hat hlt
        omega

/-- What was picked comes first, as far as its ties are in order. -/
lemma Picks.rank_le_iff (hp : Picks now pre t post) :
    (∀ b ∈ pre ++ post, due now b = true → rank now t ≤ rank now b) ↔
      ∀ u ∈ pre, u.atUs = t.atUs → transitionLt u t = false := by
  constructor
  · intro h u hu hat
    have hle := h u (List.mem_append_left _ hu) ((due_of_atUs_eq hat).trans hp.isDue)
    rcases DrainOrder.rank_le_iff.mp hle with hlt | ⟨-, hlt⟩
    · rw [hat] at hlt; omega
    · exact hlt
  · intro h b hb hdue
    rw [DrainOrder.rank_le_iff]
    rcases List.mem_append.mp hb with hb | hb
    · rcases (hp.before b hb hdue).lt_or_eq with hlt | heq
      · exact .inl hlt
      · exact .inr ⟨(age_inj heq).symm, h b hb (age_inj heq)⟩
    · exact .inl (hp.after b hb hdue)

end picks

/-! ### A whole drain -/

variable {n : ℕ}

lemma tiesInOrder_of_not_due {now : Micros} {m : ℕ} {items : List ScheduledTransition}
    (h : ∀ t ∈ items, due now t = false) : TiesInOrder now m items := by
  rintro pre t post rfl hdue
  rw [h t (by simp)] at hdue
  cases hdue

/-- The loop draws in order exactly when no tie it reaches is decided by the slots. -/
lemma drainLoop_draws_iff (room : ℕ) (q : ScheduledTransitionQueue n) :
    Draw (rank now) (due now) room q.pending (drainLoop now room q).2
        (drainLoop now room q).1.pending ↔
      TiesInOrder now room q.pending := by
  induction room generalizing q with
  | zero =>
    refine iff_of_true (draw_nil_iff.mpr (.inl rfl)) ?_
    intro pre t post _ _ u _ _ _
    exact Nat.zero_le _
  | succ room ih =>
    rcases drainLoop_cases now room q with
      ⟨he, hall⟩ | ⟨taken, t, pre, post, he, hsplit, hp, ht, h₁, h₂⟩
    · rw [he]
      exact iff_of_true (draw_nil_iff.mpr (.inr hall)) (tiesInOrder_of_not_due hall)
    · have hpick : Picks now pre t post := ⟨ht, h₁, h₂⟩
      have hih := ih taken
      rw [hp] at hih
      rw [he, hsplit, draw_cons_iff hpick.isDue, hih, hpick.tiesInOrder_iff, hpick.rank_le_iff]

/-- A buffer the drain refuses gets nothing, which is right only when nothing is due. -/
lemma drainDue_draws_iff_orderly (q : ScheduledTransitionQueue n) (now : Micros) (m : ℕ) :
    Draw (rank now) (due now) m q.pending (q.drainDue now m).2 (q.drainDue now m).1.pending ↔
      Orderly now m q.pending := by
  unfold drainDue
  split_ifs with hm
  · have hne : m ≠ 0 := by unfold maxMetadataCapacity at hm; omega
    rw [pending_setLastDrainCount, draw_nil_iff]
    constructor
    · intro h
      have hall := h.resolve_left hne
      exact ⟨fun _ => hall, tiesInOrder_of_not_due hall⟩
    · intro h
      exact .inr (h.buffer hm)
  · rw [pending_setLastDrainCount, drainLoop_draws_iff]
    exact ⟨fun h => ⟨fun hlt => absurd hlt hm, h⟩, fun h => h.ties⟩

/-- **When a drain is canonical.** A drain takes the first due transitions that fit, in their own
order, exactly when the contents of the queue are orderly for it. It never loses or repeats a
transition, and two queues with the same orderly contents, wherever they sit, give the same
drain. -/
theorem drainDue_draws_iff (q : ScheduledTransitionQueue n) (now : Micros) (m : ℕ) :
    (Draw (rank now) (due now) m q.pending (q.drainDue now m).2 (q.drainDue now m).1.pending ↔
      Orderly now m q.pending) ∧
    ((q.drainDue now m).2 ++ (q.drainDue now m).1.pending).Perm q.pending ∧
    ∀ (n' : ℕ) (q' : ScheduledTransitionQueue n'), q.pending.Perm q'.pending →
      Orderly now m q.pending → Orderly now m q'.pending →
      (q.drainDue now m).2 = (q'.drainDue now m).2 ∧
        (q.drainDue now m).1.pending.Perm (q'.drainDue now m).1.pending := by
  refine ⟨drainDue_draws_iff_orderly q now m, (q.drainDue_spec now m).perm, ?_⟩
  intro n' q' hperm ho ho'
  exact ((drainDue_draws_iff_orderly q now m).mpr ho).unique (rank_injective now)
    ((drainDue_draws_iff_orderly q' now m).mpr ho') hperm

/-- The two transitions of one deadline in the source's own test of equal timestamps: an injector
opens and a coil fires, the injector enqueued first. -/
def tied : ScheduledTransitionQueue 2 :=
  ⟨⟨[some ⟨500, .injector, 1, .high⟩, some ⟨500, .ignition, 2, .low⟩], rfl⟩, .new⟩

/-- The drain hands out the coil first, although the type's order puts the injector first. -/
theorem drainDue_tied_not_draw :
    transitionLt ⟨500, .injector, 1, .high⟩ ⟨500, .ignition, 2, .low⟩ = true ∧
    (tied.drainDue 600 4).2 = [⟨500, .ignition, 2, .low⟩, ⟨500, .injector, 1, .high⟩] ∧
    ¬ Draw (rank 600) (due 600) 4 tied.pending (tied.drainDue 600 4).2
      (tied.drainDue 600 4).1.pending := by
  have hout : (tied.drainDue 600 4).2 =
      [⟨500, .ignition, 2, .low⟩, ⟨500, .injector, 1, .high⟩] := by decide +kernel
  refine ⟨by decide, hout, fun h => ?_⟩
  have hsorted := h.sorted
  have hle := (List.pairwise_cons.mp hsorted).1 _ (.head _)
  rcases DrainOrder.rank_le_iff.mp hle with hlt | ⟨-, hlt⟩
  · exact absurd hlt (by decide)
  · cases hlt

end Pipoco.DrainOrder
