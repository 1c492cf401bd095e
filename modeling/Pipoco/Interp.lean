import Mathlib.Tactic

/-!
Interpolation in integers, rounded down.

A point on a line between two others is a weighted mean of their heights, and rounding it down
keeps every order between such means. So the rounded value stays between its neighbours, is exact
at them, grows with the heights and, on a rising line, with the point.

Along an axis each point lies in one segment. Because the values agree where two segments meet, what
holds in one segment holds along the whole axis; a table is interpolated along one axis and then,
between the results, along the other.
-/

namespace Pipoco.Interp

/-- The height at `x` of the line from `(x₀, y₀)` to `(x₁, y₁)`, rounded down. -/
def lerp (x₀ x₁ y₀ y₁ x : ℤ) : ℤ := y₀ + (y₁ - y₀) * (x - x₀) / (x₁ - x₀)

section Line

variable {x₀ x₁ y₀ y₁ x : ℤ}

lemma lerp_eq_mean (h : x₀ < x₁) :
    lerp x₀ x₁ y₀ y₁ x = (y₀ * (x₁ - x) + y₁ * (x - x₀)) / (x₁ - x₀) := by
  have hsum : y₀ * (x₁ - x) + y₁ * (x - x₀) = (y₁ - y₀) * (x - x₀) + y₀ * (x₁ - x₀) := by ring
  have hne : x₁ - x₀ ≠ 0 := by omega
  rw [hsum, Int.add_mul_ediv_right _ _ hne, lerp, add_comm]

@[simp] lemma lerp_left (x₀ x₁ y₀ y₁ : ℤ) : lerp x₀ x₁ y₀ y₁ x₀ = y₀ := by simp [lerp]

lemma lerp_right (h : x₀ < x₁) : lerp x₀ x₁ y₀ y₁ x₁ = y₁ := by
  have hne : x₁ - x₀ ≠ 0 := by omega
  rw [lerp, Int.mul_ediv_cancel _ hne]
  ring

@[simp] lemma lerp_const (x₀ x₁ y x : ℤ) : lerp x₀ x₁ y y x = y := by simp [lerp]

lemma lerp_le_lerp {z₀ z₁ : ℤ} (h : x₀ < x₁) (hl : x₀ ≤ x) (hr : x ≤ x₁) (h₀ : y₀ ≤ z₀)
    (h₁ : y₁ ≤ z₁) : lerp x₀ x₁ y₀ y₁ x ≤ lerp x₀ x₁ z₀ z₁ x := by
  have hleft : 0 ≤ x - x₀ := by omega
  have hright : 0 ≤ x₁ - x := by omega
  rw [lerp_eq_mean h, lerp_eq_mean h]
  refine Int.ediv_le_ediv (by omega) ?_
  exact add_le_add (mul_le_mul_of_nonneg_right h₀ hright) (mul_le_mul_of_nonneg_right h₁ hleft)

lemma lerp_le_max (h : x₀ < x₁) (hl : x₀ ≤ x) (hr : x ≤ x₁) : lerp x₀ x₁ y₀ y₁ x ≤ max y₀ y₁ := by
  calc lerp x₀ x₁ y₀ y₁ x ≤ lerp x₀ x₁ (max y₀ y₁) (max y₀ y₁) x :=
        lerp_le_lerp h hl hr (le_max_left _ _) (le_max_right _ _)
    _ = max y₀ y₁ := lerp_const _ _ _ _

lemma min_le_lerp (h : x₀ < x₁) (hl : x₀ ≤ x) (hr : x ≤ x₁) : min y₀ y₁ ≤ lerp x₀ x₁ y₀ y₁ x := by
  calc min y₀ y₁ = lerp x₀ x₁ (min y₀ y₁) (min y₀ y₁) x := (lerp_const _ _ _ _).symm
    _ ≤ lerp x₀ x₁ y₀ y₁ x := lerp_le_lerp h hl hr (min_le_left _ _) (min_le_right _ _)

lemma lerp_mono {x' : ℤ} (h : x₀ < x₁) (hy : y₀ ≤ y₁) (hx : x ≤ x') :
    lerp x₀ x₁ y₀ y₁ x ≤ lerp x₀ x₁ y₀ y₁ x' := by
  refine Int.add_le_add_left (Int.ediv_le_ediv (by omega) ?_) y₀
  exact mul_le_mul_of_nonneg_left (by omega) (by omega)

end Line

/-! ### Along an axis -/

variable (a : ℕ → ℤ)

/-- The first `n` points come in strictly increasing order. -/
def Increasing (n : ℕ) : Prop := ∀ i, i + 1 < n → a i < a (i + 1)

/-- The point lies in the segment that begins at index `i`: closed on the left and open on the
right, but for the last, which is closed. -/
structure IsSegment (a : ℕ → ℤ) (n : ℕ) (x : ℤ) (i : ℕ) : Prop where
  next_lt : i + 1 < n
  left : a i ≤ x
  right : x < a (i + 1) ∨ i + 2 = n ∧ x = a (i + 1)

/-- The interpolated value in the segment that begins at index `i`. -/
def along (v : ℕ → ℤ) (i : ℕ) (x : ℤ) : ℤ := lerp (a i) (a (i + 1)) (v i) (v (i + 1)) x

section Axis

variable {a v w : ℕ → ℤ} {n i j : ℕ} {x x' : ℤ}

lemma le_of_steps (hv : ∀ k, k + 1 < n → v k ≤ v (k + 1)) (hij : i ≤ j) (hj : j < n) :
    v i ≤ v j := by
  induction j with
  | zero =>
    obtain rfl : i = 0 := by omega
    exact le_rfl
  | succ j ih =>
    rcases Nat.lt_or_eq_of_le hij with hlt | rfl
    · exact (ih (by omega) (by omega)).trans (hv j hj)
    · exact le_rfl

lemma Increasing.le_of_le (h : Increasing a n) (hij : i ≤ j) (hj : j < n) : a i ≤ a j :=
  le_of_steps (fun k hk => (h k hk).le) hij hj

lemma Increasing.lt_of_lt (h : Increasing a n) (hij : i < j) (hj : j < n) : a i < a j :=
  (h i (by omega)).trans_le (h.le_of_le hij hj)

lemma IsSegment.le_right (h : IsSegment a n x i) : x ≤ a (i + 1) := by
  rcases h.right with hlt | ⟨-, heq⟩
  · exact hlt.le
  · exact heq.le

lemma exists_segment (hn : 2 ≤ n) (hl : a 0 ≤ x) (hr : x ≤ a (n - 1)) : ∃ i, IsSegment a n x i := by
  by_cases h : ∃ k, k + 1 < n ∧ x < a (k + 1)
  · -- the first point past `x` ends its segment
    classical
    obtain ⟨hlt, hright⟩ := Nat.find_spec h
    have hleft : a (Nat.find h) ≤ x := by
      rcases Nat.eq_zero_or_pos (Nat.find h) with hzero | hpos
      · rwa [hzero]
      · have hmin := Nat.find_min h (Nat.sub_lt hpos one_pos)
        have hpred : Nat.find h - 1 + 1 = Nat.find h := by omega
        rw [hpred] at hmin
        by_contra hcon
        exact hmin ⟨by omega, by omega⟩
    exact ⟨Nat.find h, hlt, hleft, Or.inl hright⟩
  · push Not at h
    have hlast : n - 2 + 1 = n - 1 := by omega
    have hend : a (n - 1) ≤ x := hlast ▸ h (n - 2) (by omega)
    have hleft : a (n - 2) ≤ x := by
      rcases Nat.eq_or_lt_of_le hn with rfl | hlt
      · exact hl
      · have hprev : n - 3 + 1 = n - 2 := by omega
        exact hprev ▸ h (n - 3) (by omega)
    exact ⟨n - 2, by omega, hleft, Or.inr ⟨by omega, by rw [hlast]; omega⟩⟩

/-- Segments come in the order of the points. -/
lemma IsSegment.le_of_le (ha : Increasing a n) (hi : IsSegment a n x i) (hj : IsSegment a n x' j)
    (hx : x ≤ x') : i ≤ j := by
  by_contra hlt
  have hle : a (j + 1) ≤ a i := ha.le_of_le (by omega) (by have := hi.next_lt; omega)
  have hleft := hi.left
  rcases hj.right with hright | ⟨hlast, -⟩
  · omega
  · have := hi.next_lt
    omega

/-- A value is exact at the points of the axis. -/
lemma along_point (ha : Increasing a n) {k : ℕ} (hk : k < n) (h : IsSegment a n (a k) i) :
    along a v i (a k) = v k := by
  have hstep := ha i h.next_lt
  rcases Nat.lt_or_ge i k with hlt | hge
  · -- the point is the right end, so the segment is the last
    have hle : a (i + 1) ≤ a k := ha.le_of_le hlt hk
    have hlast : i + 2 = n := by
      rcases h.right with hright | ⟨hlast, -⟩
      · omega
      · exact hlast
    obtain rfl : k = i + 1 := by omega
    exact lerp_right hstep
  · have hle : a k ≤ a i := ha.le_of_le hge (by have := h.next_lt; omega)
    have heq : a k = a i := le_antisymm hle h.left
    obtain rfl : k = i := by
      by_contra hne
      have := ha.lt_of_lt (i := k) (j := i) (by omega) (by have := h.next_lt; omega)
      omega
    exact lerp_left _ _ _ _

lemma along_le_max (ha : Increasing a n) (h : IsSegment a n x i) :
    along a v i x ≤ max (v i) (v (i + 1)) :=
  lerp_le_max (ha i h.next_lt) h.left h.le_right

lemma min_le_along (ha : Increasing a n) (h : IsSegment a n x i) :
    min (v i) (v (i + 1)) ≤ along a v i x :=
  min_le_lerp (ha i h.next_lt) h.left h.le_right

lemma along_le_along (ha : Increasing a n) (h : IsSegment a n x i)
    (hvw : ∀ k, k < n → v k ≤ w k) : along a v i x ≤ along a w i x := by
  have hlt := h.next_lt
  exact lerp_le_lerp (ha i hlt) h.left h.le_right (hvw i (by omega)) (hvw (i + 1) hlt)

/-- **Values that rise along the axis are interpolated to values that rise**, also across the ends
of segments. -/
lemma along_mono (ha : Increasing a n) (hv : ∀ k, k + 1 < n → v k ≤ v (k + 1))
    (hi : IsSegment a n x i) (hj : IsSegment a n x' j) (hx : x ≤ x') :
    along a v i x ≤ along a v j x' := by
  have hi1 := hi.next_lt
  have hj1 := hj.next_lt
  rcases Nat.lt_or_eq_of_le (hi.le_of_le ha hj hx) with hlt | rfl
  · calc along a v i x ≤ max (v i) (v (i + 1)) := along_le_max ha hi
      _ = v (i + 1) := max_eq_right (hv i hi1)
      _ ≤ v j := le_of_steps hv hlt (by omega)
      _ = min (v j) (v (j + 1)) := (min_eq_left (hv j hj1)).symm
      _ ≤ along a v j x' := min_le_along ha hj
  · exact lerp_mono (ha i hi1) (hv i hi1) hx

end Axis

/-! ### Tables -/

/-- The interpolated value of a table, rows first: `t k` are the values of row `k` along the axis
`a`, and the rows lie along the axis `b`. -/
def bilerp (b : ℕ → ℤ) (t : ℕ → ℕ → ℤ) (i j : ℕ) (x y : ℤ) : ℤ :=
  along b (fun k => along a (t k) i x) j y

section Table

variable {a b : ℕ → ℤ} {t : ℕ → ℕ → ℤ} {m n i i' j j' : ℕ} {x x' y y' : ℤ}

lemma bilerp_le_max (ha : Increasing a m) (hb : Increasing b n) (hi : IsSegment a m x i)
    (hj : IsSegment b n y j) :
    bilerp a b t i j x y ≤ max (max (t j i) (t j (i + 1))) (max (t (j + 1) i) (t (j + 1) (i + 1))) :=
  (along_le_max hb hj).trans (max_le_max (along_le_max ha hi) (along_le_max ha hi))

lemma min_le_bilerp (ha : Increasing a m) (hb : Increasing b n) (hi : IsSegment a m x i)
    (hj : IsSegment b n y j) :
    min (min (t j i) (t j (i + 1))) (min (t (j + 1) i) (t (j + 1) (i + 1))) ≤ bilerp a b t i j x y :=
  (min_le_min (min_le_along ha hi) (min_le_along ha hi)).trans (min_le_along hb hj)

lemma bilerp_point (ha : Increasing a m) (hb : Increasing b n) {k l : ℕ} (hk : k < m) (hl : l < n)
    (hi : IsSegment a m (a k) i) (hj : IsSegment b n (b l) j) :
    bilerp a b t i j (a k) (b l) = t l k := by
  rw [bilerp, along_point hb hl hj, along_point ha hk hi]

/-- **Rising rows** give values that rise along the first axis. -/
lemma bilerp_mono_left (ha : Increasing a m) (hb : Increasing b n)
    (ht : ∀ l, l < n → ∀ k, k + 1 < m → t l k ≤ t l (k + 1)) (hi : IsSegment a m x i)
    (hi' : IsSegment a m x' i') (hj : IsSegment b n y j) (hx : x ≤ x') :
    bilerp a b t i j x y ≤ bilerp a b t i' j x' y :=
  along_le_along hb hj fun l hl => along_mono ha (ht l hl) hi hi' hx

/-- **Rising columns** give values that rise along the second axis. -/
lemma bilerp_mono_right (ha : Increasing a m) (hb : Increasing b n)
    (ht : ∀ k, k < m → ∀ l, l + 1 < n → t l k ≤ t (l + 1) k) (hi : IsSegment a m x i)
    (hj : IsSegment b n y j) (hj' : IsSegment b n y' j') (hy : y ≤ y') :
    bilerp a b t i j x y ≤ bilerp a b t i j' x y' :=
  along_mono hb (fun l hl => along_le_along ha hi fun k hk => ht k hk l hl) hj hj' hy

end Table

end Pipoco.Interp
