import Pipoco.Interp
import Pipoco.SemSchedule

/-!
Reading the tables of the semantic evaluators.

Between its cells a table is interpolated along rpm in two rows and then along load between them.
On validated axes every one of these steps is the rounded line of `Interp`: the quotient with its
signed correction rounds down, the segment that is searched for is the one the clipped point lies
in, and no cast cuts anything off. What holds of rounded lines then holds of every table.
-/

namespace Pipoco.SemTables

open Domain SemFuel SemSchedule Interp

/-! ### Axes -/

variable (axis : RuntimeSemanticAxis16) (x : UInt16)

def points (i : ℕ) : ℤ := (cell axis.values i).toNat

def clip : UInt16 := clampU16 x (cell axis.values 0) (cell axis.values (axis.len.toNat - 1))

structure AxisOk (axis : RuntimeSemanticAxis16) : Prop where
  two_le : 2 ≤ axis.len.toNat
  le_sixteen : axis.len.toNat ≤ 16
  increasing : Increasing (points axis) axis.len.toNat

variable {axis} in
lemma axisOk_of_validateAxis (h : validateAxis axis = .ok ()) : AxisOk axis := by
  simp only [validateAxis] at h
  split_ifs at h with hlen hord
  refine ⟨hlen.1, hlen.2, fun i hi => ?_⟩
  rw [List.any_eq_true] at hord
  by_contra hge
  refine hord ⟨i, List.mem_range.mpr (by omega), ?_⟩
  rw [decide_eq_true_eq, ge_iff_le, UInt16.le_iff_toNat_le]
  unfold points at hge
  omega

lemma toNat_clampU16 {lo hi : UInt16} (h : lo.toNat ≤ hi.toNat) (x : UInt16) :
    (clampU16 x lo hi).toNat = max lo.toNat (min x.toNat hi.toNat) := by
  unfold clampU16
  simp only [UInt16.lt_iff_toNat_lt, gt_iff_lt]
  split_ifs <;> omega

lemma clampU16_mono {lo hi x x' : UInt16} (h : lo.toNat ≤ hi.toNat) (hx : x ≤ x') :
    (clampU16 x lo hi).toNat ≤ (clampU16 x' lo hi).toNat := by
  rw [UInt16.le_iff_toNat_le] at hx
  rw [toNat_clampU16 h, toNat_clampU16 h]
  omega

/-- What the search asks of a segment. -/
def testSegment (clipped : UInt16) (idx : ℕ) : Bool :=
  clipped ≥ cell axis.values idx && (clipped < cell axis.values (idx + 1) ||
    (idx + 1 = axis.len.toNat - 1 && clipped = cell axis.values (idx + 1)))

variable {axis} in
lemma findSegment_eq (h : 2 ≤ axis.len.toNat) (x : UInt16) :
    semanticFindSegment axis x = ((List.range (axis.len.toNat - 1)).find?
      (testSegment axis (clip axis x))).getD (axis.len.toNat - 2) :=
  if_neg (Nat.not_lt.mpr h)

namespace AxisOk

variable {axis : RuntimeSemanticAxis16} (h : AxisOk axis) (x : UInt16)
include h

lemma first_le_last :
    (cell axis.values 0).toNat ≤ (cell axis.values (axis.len.toNat - 1)).toNat := by
  have hle := h.increasing.le_of_le (Nat.zero_le (axis.len.toNat - 1))
    (by have := h.two_le; omega)
  unfold points at hle
  omega

lemma toNat_clip :
    (clip axis x).toNat = max (cell axis.values 0).toNat
      (min x.toNat (cell axis.values (axis.len.toNat - 1)).toNat) :=
  toNat_clampU16 h.first_le_last x

lemma clip_mono {x x' : UInt16} (hx : x ≤ x') : (clip axis x).toNat ≤ (clip axis x').toNat :=
  clampU16_mono h.first_le_last hx

@[simp] lemma clip_clip : clip axis (clip axis x) = clip axis x := by
  apply UInt16.toNat_inj.mp
  rw [h.toNat_clip, h.toNat_clip]
  omega

lemma clip_point {i : ℕ} (hi : i < axis.len.toNat) :
    clip axis (cell axis.values i) = cell axis.values i := by
  apply UInt16.toNat_inj.mp
  have hfirst := h.increasing.le_of_le (Nat.zero_le i) hi
  have hlast := h.increasing.le_of_le (Nat.le_sub_one_of_lt hi) (by omega)
  unfold points at hfirst hlast
  rw [h.toNat_clip]
  omega

lemma testSegment_iff {idx : ℕ} (hidx : idx < axis.len.toNat - 1) :
    testSegment axis (clip axis x) idx = true ↔
      IsSegment (points axis) axis.len.toNat (clip axis x).toNat idx := by
  simp only [testSegment, Bool.and_eq_true, Bool.or_eq_true, decide_eq_true_eq, ge_iff_le,
    UInt16.le_iff_toNat_le, UInt16.lt_iff_toNat_lt, ← UInt16.toNat_inj]
  constructor
  · rintro ⟨hleft, hright⟩
    refine ⟨by omega, by unfold points; omega, ?_⟩
    unfold points
    omega
  · rintro ⟨-, hleft, hright⟩
    unfold points at hleft hright
    omega

/-- **The search finds the segment of the clipped point.** -/
lemma isSegment :
    IsSegment (points axis) axis.len.toNat (clip axis x).toNat (semanticFindSegment axis x) := by
  have h2 := h.two_le
  have hclip := h.toNat_clip x
  have hends := h.first_le_last
  obtain ⟨i, hi⟩ := exists_segment (a := points axis) (x := (clip axis x).toNat) h2
    (by unfold points; omega) (by unfold points; omega)
  rw [findSegment_eq h2]
  cases hfind : (List.range (axis.len.toNat - 1)).find? (testSegment axis (clip axis x)) with
  | none =>
    rw [List.find?_eq_none] at hfind
    have hlt : i < axis.len.toNat - 1 := by have := hi.next_lt; omega
    exact absurd ((h.testSegment_iff x hlt).mpr hi) (hfind i (List.mem_range.mpr hlt))
  | some j =>
    have hlt := List.mem_range.mp (List.mem_of_find?_eq_some hfind)
    exact (h.testSegment_iff x hlt).mp (List.find?_some hfind)

lemma segment_lt :
    cell axis.values (semanticFindSegment axis x) <
      cell axis.values (semanticFindSegment axis x + 1) := by
  have hstep := h.increasing _ (h.isSegment x).next_lt
  exact UInt16.lt_iff_toNat_lt.mpr (Int.ofNat_lt.mp hstep)

/-- Clipping to the segment that was found is clipping to the axis. -/
lemma clampU16_segment :
    clampU16 x (cell axis.values (semanticFindSegment axis x))
      (cell axis.values (semanticFindSegment axis x + 1)) = clip axis x := by
  have hseg := h.isSegment x
  have hnext := hseg.next_lt
  have hfirst := h.increasing.le_of_le (Nat.zero_le (semanticFindSegment axis x)) (by omega)
  have hstep := h.increasing _ hnext
  have hlast := h.increasing.le_of_le (Nat.le_sub_one_of_lt hnext) (by omega)
  have hleft := hseg.left
  have hright := hseg.le_right
  have hclip := h.toNat_clip x
  unfold points at hfirst hstep hlast hleft hright
  apply UInt16.toNat_inj.mp
  rw [toNat_clampU16 (by omega)]
  omega

lemma findSegment_clip : semanticFindSegment axis (clip axis x) = semanticFindSegment axis x := by
  have hclip := h.isSegment (clip axis x)
  rw [h.clip_clip] at hclip
  exact le_antisymm (hclip.le_of_le h.increasing (h.isSegment x) le_rfl)
    ((h.isSegment x).le_of_le h.increasing hclip le_rfl)

end AxisOk

/-! ### Lines -/

lemma floorDiv_eq {den : ℤ} (h : 0 < den) (product : ℤ) : floorDiv product den = product / den := by
  unfold floorDiv
  rw [Int.tdiv_eq_ediv, Int.sign_eq_one_of_pos h]
  have hdvd : den ∣ product ↔ product.tmod den = 0 := Int.dvd_iff_tmod_eq_zero
  split_ifs with h₁ h₂ h₂
  · omega
  · omega
  · omega
  · push Not at h₁ h₂
    exact absurd (hdvd.mpr (h₂ h₁.1)) h₁.2

lemma lerp_eq_sum {x0 x1 : UInt16} (h : x0 < x1) (y0 y1 : ℤ) (x : UInt16) :
    y0 + floorDiv ((y1 - y0) * ((clampU16 x x0 x1 - x0).toNat : ℕ)) ((x1 - x0).toNat : ℕ) =
      lerp x0.toNat x1.toNat y0 y1 (clampU16 x x0 x1).toNat := by
  have hlt := UInt16.lt_iff_toNat_lt.mp h
  have hclip := toNat_clampU16 hlt.le x
  have hnum : (clampU16 x x0 x1 - x0).toNat = (clampU16 x x0 x1).toNat - x0.toNat :=
    UInt16.toNat_sub_of_le _ _ (UInt16.le_iff_toNat_le.mpr (by omega))
  have hden : (x1 - x0).toNat = x1.toNat - x0.toNat :=
    UInt16.toNat_sub_of_le _ _ (UInt16.le_iff_toNat_le.mpr hlt.le)
  rw [hnum, hden, floorDiv_eq (by omega), lerp, Nat.cast_sub (by omega), Nat.cast_sub hlt.le]

/-- A lerp of the source is the rounded line on values of its width. -/
structure ExactLerp {β : Type} (val : β → ℤ) (lo hi : ℤ)
    (lerpβ : UInt16 → UInt16 → β → β → UInt16 → β) : Prop where
  val_lerp : ∀ {x0 x1 : UInt16} {y0 y1 : β} (x : UInt16), x0 < x1 → val y0 ∈ Set.Icc lo hi →
    val y1 ∈ Set.Icc lo hi →
    val (lerpβ x0 x1 y0 y1 x) = lerp x0.toNat x1.toNat (val y0) (val y1) (clampU16 x x0 x1).toNat

def val32 (y : UInt32) : ℤ := y.toNat

lemma lerp_mem_Icc {x0 x1 : UInt16} (h : x0 < x1) {y0 y1 lo hi : ℤ} (h0 : y0 ∈ Set.Icc lo hi)
    (h1 : y1 ∈ Set.Icc lo hi) (x : UInt16) :
    lerp x0.toNat x1.toNat y0 y1 (clampU16 x x0 x1).toNat ∈ Set.Icc lo hi := by
  have hlt := UInt16.lt_iff_toNat_lt.mp h
  have hclip := toNat_clampU16 hlt.le x
  constructor
  · exact (le_min h0.1 h1.1).trans (min_le_lerp (by omega) (by omega) (by omega))
  · exact (lerp_le_max (by omega) (by omega) (by omega)).trans (max_le h0.2 h1.2)

lemma toNat_ofInt32 {z : ℤ} (h : z ∈ Set.Icc (0 : ℤ) 4294967295) :
    ((UInt32.ofInt z).toNat : ℤ) = z := by
  have hlo := h.1
  have hhi := h.2
  unfold UInt32.ofInt
  rw [UInt32.toNat_ofNat']
  omega

/-- The lerp of the narrow tables on widened cells. -/
def wideLerpU16 (x0 x1 : UInt16) (y0 y1 : UInt32) (x : UInt16) : UInt32 :=
  semanticLerpU16 x0 x1 y0.toUInt16 y1.toUInt16 x

lemma exactLerp_u16 : ExactLerp val32 0 65535 wideLerpU16 := by
  refine ⟨fun {x0 x1 y0 y1} x hlt h0 h1 => ?_⟩
  have hy : ∀ y : UInt32, val32 y ∈ Set.Icc (0 : ℤ) 65535 → (y.toUInt16.toNat : ℤ) = val32 y := by
    intro y hy
    have hle := hy.2
    unfold val32 at hle ⊢
    rw [UInt32.toNat_toUInt16]
    omega
  have hmem := lerp_mem_Icc hlt h0 h1 x
  unfold wideLerpU16 semanticLerpU16
  rw [if_neg (UInt16.not_le.mpr hlt)]
  dsimp only
  rw [lerp_eq_sum hlt, hy y0 h0, hy y1 h1]
  exact toNat_ofInt32 ⟨hmem.1, hmem.2.trans (by decide)⟩

lemma exactLerp_u32 : ExactLerp val32 0 4294967295 semanticLerpU32 := by
  refine ⟨fun {x0 x1 y0 y1} x hlt h0 h1 => ?_⟩
  unfold semanticLerpU32
  rw [if_neg (UInt16.not_le.mpr hlt)]
  dsimp only
  rw [lerp_eq_sum hlt]
  exact toNat_ofInt32 (lerp_mem_Icc hlt h0 h1 x)

lemma exactLerp_i32 : ExactLerp Int32.toInt (-2147483648) 2147483647 semanticLerpI32 := by
  refine ⟨fun {x0 x1 y0 y1} x hlt h0 h1 => ?_⟩
  have hmem := lerp_mem_Icc hlt h0 h1 x
  unfold semanticLerpI32
  rw [if_neg (UInt16.not_le.mpr hlt)]
  dsimp only
  rw [lerp_eq_sum hlt]
  exact Int32.toInt_ofInt_of_le hmem.1 (by have := hmem.2; omega)

/-! ### Tables -/

section Table

variable {α β : Type} [Inhabited α]

/-- The cells of a table as integers, indexed by load and then by rpm. -/
def cells (val : α → ℤ) (values : Vector (Vector α 16) 16) (j i : ℕ) : ℤ :=
  val (cell (cell values j) i)

variable {val : β → ℤ} {lo hi : ℤ} {lerpβ : UInt16 → UInt16 → β → β → UInt16 → β}
  {widen : α → β} {rpmAxis loadAxis : RuntimeSemanticAxis16}

/-- The test for short axes that every reading begins with. -/
lemma not_short (hr : AxisOk rpmAxis) (hl : AxisOk loadAxis) :
    (decide (rpmAxis.len.toNat < 2) || decide (loadAxis.len.toNat < 2)) = false := by
  have := hr.two_le
  have := hl.two_le
  simp only [Bool.or_eq_false_iff, decide_eq_false_iff_not]
  omega

lemma semanticBilerp_eq (hr : AxisOk rpmAxis) (hl : AxisOk loadAxis)
    (values : Vector (Vector α 16) 16) (rpm load : UInt16) :
    let i := semanticFindSegment rpmAxis rpm
    let j := semanticFindSegment loadAxis load
    let row := fun k => lerpβ (cell rpmAxis.values i) (cell rpmAxis.values (i + 1))
      (widen (cell (cell values k) i)) (widen (cell (cell values k) (i + 1))) rpm
    semanticBilerp widen lerpβ rpmAxis loadAxis values rpm load =
      lerpβ (cell loadAxis.values j) (cell loadAxis.values (j + 1)) (row j) (row (j + 1)) load := by
  have hi := (hr.isSegment rpm).next_lt
  have hj := (hl.isSegment load).next_lt
  have hlen := not_short hr hl
  have hri : min (semanticFindSegment rpmAxis rpm + 1) (rpmAxis.len.toNat - 1) =
      semanticFindSegment rpmAxis rpm + 1 := by omega
  have hlj : min (semanticFindSegment loadAxis load + 1) (loadAxis.len.toNat - 1) =
      semanticFindSegment loadAxis load + 1 := by omega
  simp only [semanticBilerp, hlen, hri, hlj, Bool.false_eq_true, if_false]

/-- **A table on validated axes is interpolated exactly**: both steps are rounded lines and nothing
is cut off. -/
lemma val_semanticBilerp (hlerp : ExactLerp val lo hi lerpβ)
    (hw : ∀ a, val (widen a) ∈ Set.Icc lo hi) (hr : AxisOk rpmAxis) (hl : AxisOk loadAxis)
    (values : Vector (Vector α 16) 16) (rpm load : UInt16) :
    val (semanticBilerp widen lerpβ rpmAxis loadAxis values rpm load) =
      bilerp (points rpmAxis) (points loadAxis) (cells (val ∘ widen) values)
        (semanticFindSegment rpmAxis rpm) (semanticFindSegment loadAxis load)
        (clip rpmAxis rpm).toNat (clip loadAxis load).toNat := by
  have hrlt := hr.segment_lt rpm
  have hllt := hl.segment_lt load
  -- a row is a rounded line and stays in the width of the cells
  have hrow := fun k => hlerp.val_lerp rpm hrlt
    (hw (cell (cell values k) (semanticFindSegment rpmAxis rpm)))
    (hw (cell (cell values k) (semanticFindSegment rpmAxis rpm + 1)))
  have hmem := fun k => lerp_mem_Icc hrlt
    (hw (cell (cell values k) (semanticFindSegment rpmAxis rpm)))
    (hw (cell (cell values k) (semanticFindSegment rpmAxis rpm + 1))) rpm
  rw [semanticBilerp_eq hr hl, hlerp.val_lerp load hllt (by rw [hrow]; exact hmem _)
    (by rw [hrow]; exact hmem _), hrow, hrow, hr.clampU16_segment, hl.clampU16_segment]
  rfl

/-! ### What a table is good for -/

/-- The reading of a table on two axes is well behaved. -/
structure WellBehaved (rpmAxis loadAxis : RuntimeSemanticAxis16) (cellAt : ℕ → ℕ → ℤ)
    (value : UInt16 → UInt16 → ℤ) : Prop where
  rpm_segment : ∀ rpm, IsSegment (points rpmAxis) rpmAxis.len.toNat (clip rpmAxis rpm).toNat
    (semanticFindSegment rpmAxis rpm)
  load_segment : ∀ load, IsSegment (points loadAxis) loadAxis.len.toNat (clip loadAxis load).toNat
    (semanticFindSegment loadAxis load)
  corners_le : ∀ rpm load,
    let i := semanticFindSegment rpmAxis rpm
    let j := semanticFindSegment loadAxis load
    min (min (cellAt j i) (cellAt j (i + 1))) (min (cellAt (j + 1) i) (cellAt (j + 1) (i + 1))) ≤
      value rpm load
  le_corners : ∀ rpm load,
    let i := semanticFindSegment rpmAxis rpm
    let j := semanticFindSegment loadAxis load
    value rpm load ≤
      max (max (cellAt j i) (cellAt j (i + 1))) (max (cellAt (j + 1) i) (cellAt (j + 1) (i + 1)))
  grid : ∀ i j, i < rpmAxis.len.toNat → j < loadAxis.len.toNat →
    value (cell rpmAxis.values i) (cell loadAxis.values j) = cellAt j i
  edge : ∀ rpm load, value rpm load = value (clip rpmAxis rpm) (clip loadAxis load)
  mono_rpm : (∀ j, j < loadAxis.len.toNat → ∀ i, i + 1 < rpmAxis.len.toNat →
    cellAt j i ≤ cellAt j (i + 1)) → ∀ rpm rpm' load, rpm ≤ rpm' → value rpm load ≤ value rpm' load
  mono_load : (∀ i, i < rpmAxis.len.toNat → ∀ j, j + 1 < loadAxis.len.toNat →
    cellAt j i ≤ cellAt (j + 1) i) → ∀ rpm load load', load ≤ load' →
    value rpm load ≤ value rpm load'

lemma wellBehaved (hlerp : ExactLerp val lo hi lerpβ) (hw : ∀ a, val (widen a) ∈ Set.Icc lo hi)
    (hr : AxisOk rpmAxis) (hl : AxisOk loadAxis) (values : Vector (Vector α 16) 16) :
    WellBehaved rpmAxis loadAxis (cells (val ∘ widen) values)
      (fun rpm load => val (semanticBilerp widen lerpβ rpmAxis loadAxis values rpm load)) where
  rpm_segment := hr.isSegment
  load_segment := hl.isSegment
  corners_le rpm load := by
    rw [val_semanticBilerp hlerp hw hr hl]
    exact min_le_bilerp hr.increasing hl.increasing (hr.isSegment rpm) (hl.isSegment load)
  le_corners rpm load := by
    rw [val_semanticBilerp hlerp hw hr hl]
    exact bilerp_le_max hr.increasing hl.increasing (hr.isSegment rpm) (hl.isSegment load)
  grid i j hi hj := by
    have hseg := hr.isSegment (cell rpmAxis.values i)
    have hseg' := hl.isSegment (cell loadAxis.values j)
    rw [hr.clip_point hi] at hseg
    rw [hl.clip_point hj] at hseg'
    rw [val_semanticBilerp hlerp hw hr hl, hr.clip_point hi, hl.clip_point hj]
    exact bilerp_point hr.increasing hl.increasing hi hj hseg hseg'
  edge rpm load := by
    rw [val_semanticBilerp hlerp hw hr hl, val_semanticBilerp hlerp hw hr hl, hr.clip_clip,
      hl.clip_clip, hr.findSegment_clip, hl.findSegment_clip]
  mono_rpm ht rpm rpm' load hle := by
    rw [val_semanticBilerp hlerp hw hr hl, val_semanticBilerp hlerp hw hr hl]
    exact bilerp_mono_left hr.increasing hl.increasing ht (hr.isSegment rpm) (hr.isSegment rpm')
      (hl.isSegment load) (Int.ofNat_le.mpr (hr.clip_mono hle))
  mono_load ht rpm load load' hle := by
    rw [val_semanticBilerp hlerp hw hr hl, val_semanticBilerp hlerp hw hr hl]
    exact bilerp_mono_right hr.increasing hl.increasing ht (hr.isSegment rpm) (hl.isSegment load)
      (hl.isSegment load') (Int.ofNat_le.mpr (hl.clip_mono hle))

end Table

/-! ### Array reads -/

/-- An array read that fails outside the array, where the source would panic. -/
def read {α : Type} (v : Vector α 16) (i : ℕ) : Option α := v.toList[i]?

/-- The search with every read checked. -/
def checkedFindSegment : Option ℕ :=
  let len := axis.len.toNat
  if len < 2 then some 0
  else do
    let first ← read axis.values 0
    let last ← read axis.values (len - 1)
    let clipped := clampU16 x first last
    let found ← (List.range (len - 1)).findM? fun idx => do
      let lo ← read axis.values idx
      let hi ← read axis.values (idx + 1)
      return clipped ≥ lo && (clipped < hi || (idx + 1 = len - 1 && clipped = hi))
    return found.getD (len - 2)

/-- The reading of a table with every read checked. -/
def checkedBilerp {α β : Type} (widen : α → β) (lerpβ : UInt16 → UInt16 → β → β → UInt16 → β)
    (rpmAxis loadAxis : RuntimeSemanticAxis16) (values : Vector (Vector α 16) 16)
    (rpm load : UInt16) : Option β :=
  let lenRpm := rpmAxis.len.toNat
  let lenLoad := loadAxis.len.toNat
  let readCell := fun j i => do
    let row ← read values j
    let value ← read row i
    return widen value
  if lenRpm < 2 || lenLoad < 2 then readCell 0 0
  else do
    let rpmIdx ← checkedFindSegment rpmAxis rpm
    let loadIdx ← checkedFindSegment loadAxis load
    let rpmNext := min (rpmIdx + 1) (lenRpm - 1)
    let loadNext := min (loadIdx + 1) (lenLoad - 1)
    let rpmLo ← read rpmAxis.values rpmIdx
    let rpmHi ← read rpmAxis.values rpmNext
    let loadLo ← read loadAxis.values loadIdx
    let loadHi ← read loadAxis.values loadNext
    let v00 ← readCell loadIdx rpmIdx
    let v01 ← readCell loadNext rpmIdx
    let v10 ← readCell loadIdx rpmNext
    let v11 ← readCell loadNext rpmNext
    return lerpβ loadLo loadHi (lerpβ rpmLo rpmHi v00 v10 rpm) (lerpβ rpmLo rpmHi v01 v11 rpm) load

section Reads

variable {α β : Type} [Inhabited α]

lemma read_eq_cell (v : Vector α 16) {i : ℕ} (h : i < 16) : read v i = some (cell v i) := by
  have hlen : i < v.toList.length := by simpa using h
  rw [read, cell_eq_getElem v h, List.getElem?_eq_getElem hlen, Vector.getElem_toList]

lemma findM?_eq_some {p : ℕ → Option Bool} {q : ℕ → Bool} {l : List ℕ}
    (h : ∀ a ∈ l, p a = some (q a)) : l.findM? p = some (l.find? q) := by
  induction l with
  | nil => rfl
  | cons a l ih =>
    have hl := ih fun b hb => h b (List.mem_cons_of_mem _ hb)
    rw [List.findM?, h a List.mem_cons_self, hl]
    cases hq : q a <;> simp [hq]

variable {axis} in
lemma AxisOk.checkedFindSegment_eq (h : AxisOk axis) (x : UInt16) :
    checkedFindSegment axis x = some (semanticFindSegment axis x) := by
  have h2 := h.two_le
  have h16 := h.le_sixteen
  have hfind := findM?_eq_some (q := testSegment axis (clip axis x))
    (p := fun idx => do
      let lo ← read axis.values idx
      let hi ← read axis.values (idx + 1)
      return clip axis x ≥ lo &&
        (clip axis x < hi || (idx + 1 = axis.len.toNat - 1 && clip axis x = hi)))
    (l := List.range (axis.len.toNat - 1)) (by
      intro idx hidx
      rw [List.mem_range] at hidx
      rw [read_eq_cell _ (by omega), read_eq_cell _ (by omega)]
      rfl)
  unfold checkedFindSegment
  rw [if_neg (Nat.not_lt.mpr h2), read_eq_cell _ (by omega), read_eq_cell _ (by omega),
    findSegment_eq h2]
  exact congrArg (fun found => found >>= fun i => some (i.getD (axis.len.toNat - 2))) hfind

/-- **No read of a table on validated axes leaves its array.** -/
lemma checkedBilerp_eq {rpmAxis loadAxis : RuntimeSemanticAxis16} (hr : AxisOk rpmAxis)
    (hl : AxisOk loadAxis) (widen : α → β) (lerpβ : UInt16 → UInt16 → β → β → UInt16 → β)
    (values : Vector (Vector α 16) 16) (rpm load : UInt16) :
    checkedBilerp widen lerpβ rpmAxis loadAxis values rpm load =
      some (semanticBilerp widen lerpβ rpmAxis loadAxis values rpm load) := by
  have hr16 := hr.le_sixteen
  have hl16 := hl.le_sixteen
  have hi := (hr.isSegment rpm).next_lt
  have hj := (hl.isSegment load).next_lt
  have hlen := not_short hr hl
  simp only [checkedBilerp, semanticBilerp, hlen, Bool.false_eq_true, if_false,
    hr.checkedFindSegment_eq, hl.checkedFindSegment_eq, Option.bind_eq_bind, Option.bind_some,
    Option.pure_def]
  rw [read_eq_cell rpmAxis.values (by omega), read_eq_cell rpmAxis.values (by omega),
    read_eq_cell loadAxis.values (by omega), read_eq_cell loadAxis.values (by omega),
    read_eq_cell values (by omega), read_eq_cell values (by omega)]
  simp only [Option.bind_some]
  rw [read_eq_cell _ (by omega), read_eq_cell _ (by omega), read_eq_cell _ (by omega),
    read_eq_cell _ (by omega)]
  rfl

end Reads

lemma semanticBilerpU16_eq (table : RuntimeSemanticTable2dU16) (rpm load : UInt16) :
    semanticBilerpU16 table rpm load =
      semanticBilerp UInt16.toUInt32 wideLerpU16 table.rpmAxis table.loadAxis table.values rpm
        load := by
  simp only [semanticBilerpU16, semanticBilerp, wideLerpU16, UInt16.toUInt16_toUInt32]

lemma widened_u16 (a : UInt16) : val32 a.toUInt32 ∈ Set.Icc (0 : ℤ) 65535 := by
  have := a.toNat_lt
  rw [val32, UInt16.toNat_toUInt32]
  constructor <;> omega

lemma widened_u32 (a : UInt32) : val32 (id a) ∈ Set.Icc (0 : ℤ) 4294967295 := by
  have := a.toNat_lt
  unfold val32
  constructor <;> simp only [id] <;> omega

lemma widened_i16 (a : Int16) : a.toInt32.toInt ∈ Set.Icc (-2147483648 : ℤ) 2147483647 :=
  ⟨Int32.le_toInt _, Int.le_of_lt_add_one (Int32.toInt_lt _)⟩

lemma cells_toInt32 (values : Vector (Vector Int16 16) 16) :
    cells (Int32.toInt ∘ Int16.toInt32) values = cells Int16.toInt values := by
  funext j i
  exact Int16.toInt_toInt32 _

/-- **Reading a table is well behaved**, whatever the width and sign of its cells, and never reads
outside an array. -/
theorem bilerp_wellBehaved :
    (∀ table : RuntimeSemanticTable2dU16, validateAxis table.rpmAxis = .ok () →
      validateAxis table.loadAxis = .ok () →
      WellBehaved table.rpmAxis table.loadAxis (cells (fun a => (a.toNat : ℤ)) table.values)
        (fun rpm load => (semanticBilerpU16 table rpm load).toNat) ∧
      ∀ rpm load, checkedBilerp UInt16.toUInt32 wideLerpU16 table.rpmAxis table.loadAxis
        table.values rpm load = some (semanticBilerpU16 table rpm load)) ∧
    (∀ table : RuntimeSemanticTable2dI16, validateAxis table.rpmAxis = .ok () →
      validateAxis table.loadAxis = .ok () →
      WellBehaved table.rpmAxis table.loadAxis (cells Int16.toInt table.values)
        (fun rpm load => (semanticBilerpI16 table rpm load).toInt) ∧
      ∀ rpm load, checkedBilerp Int16.toInt32 semanticLerpI32 table.rpmAxis table.loadAxis
        table.values rpm load = some (semanticBilerpI16 table rpm load)) ∧
    ∀ table : RuntimeSemanticTable2dU32, validateAxis table.rpmAxis = .ok () →
      validateAxis table.loadAxis = .ok () →
      WellBehaved table.rpmAxis table.loadAxis (cells (fun a => (a.toNat : ℤ)) table.values)
        (fun rpm load => (semanticBilerpU32 table rpm load).toNat) ∧
      ∀ rpm load, checkedBilerp id semanticLerpU32 table.rpmAxis table.loadAxis table.values rpm
        load = some (semanticBilerpU32 table rpm load) := by
  refine ⟨fun table hr hl => ?_, fun table hr hl => ?_, fun table hr hl => ?_⟩
  · have hr := axisOk_of_validateAxis hr
    have hl := axisOk_of_validateAxis hl
    simp only [semanticBilerpU16_eq]
    exact ⟨wellBehaved exactLerp_u16 widened_u16 hr hl table.values,
      checkedBilerp_eq hr hl _ _ table.values⟩
  · have hr := axisOk_of_validateAxis hr
    have hl := axisOk_of_validateAxis hl
    rw [← cells_toInt32]
    exact ⟨wellBehaved exactLerp_i32 widened_i16 hr hl table.values,
      checkedBilerp_eq hr hl _ _ table.values⟩
  · have hr := axisOk_of_validateAxis hr
    have hl := axisOk_of_validateAxis hl
    exact ⟨wellBehaved exactLerp_u32 widened_u32 hr hl table.values,
      checkedBilerp_eq hr hl _ _ table.values⟩

/-- Points at 1000, 2000 and 4000. -/
def risingAxis : RuntimeSemanticAxis16 := ⟨3, .ofFn fun i => UInt16.ofNat (1000 * 2 ^ i.val)⟩

def risingFuel : RuntimeSemanticTable2dU16 :=
  ⟨risingAxis, risingAxis, .ofFn fun j => .ofFn fun i => UInt16.ofNat (10 * i.val + j.val)⟩

/-- Negative at first. -/
def risingAdvance : RuntimeSemanticTable2dI16 :=
  ⟨risingAxis, risingAxis, .ofFn fun j => .ofFn fun i => Int16.ofInt (10 * i.val + j.val - 15)⟩

def risingDwell : RuntimeSemanticTable2dU32 :=
  ⟨risingAxis, risingAxis, .ofFn fun j => .ofFn fun i => UInt32.ofNat (70000 * i.val + j.val)⟩

theorem bilerp_wellBehaved_rising :
    semanticBilerpU16 risingFuel 1500 1500 ≤ semanticBilerpU16 risingFuel 2500 1500 ∧
      semanticBilerpI16 risingAdvance 1500 1500 ≤ semanticBilerpI16 risingAdvance 1500 60000 ∧
      (semanticBilerpU32 risingDwell 2000 4000).toNat = 70002 := by
  have hfuel := (bilerp_wellBehaved.1 risingFuel (by decide) (by decide)).1
  have hadvance := (bilerp_wellBehaved.2.1 risingAdvance (by decide) (by decide)).1
  have hdwell := (bilerp_wellBehaved.2.2 risingDwell (by decide) (by decide)).1
  refine ⟨?_, ?_, ?_⟩
  · have hrows : ∀ j < 3, ∀ i < 2, cells (fun a => (a.toNat : ℤ)) risingFuel.values j i ≤
        cells (fun a => (a.toNat : ℤ)) risingFuel.values j (i + 1) := by decide
    have h := hfuel.mono_rpm (fun j hj i hi => hrows j hj i (Nat.lt_of_succ_lt_succ hi)) 1500 2500
      1500 (by decide)
    exact UInt32.le_iff_toNat_le.mpr (Int.ofNat_le.mp h)
  · have hcolumns : ∀ i < 3, ∀ j < 2, cells Int16.toInt risingAdvance.values j i ≤
        cells Int16.toInt risingAdvance.values (j + 1) i := by decide
    have h := hadvance.mono_load (fun i hi j hj => hcolumns i hi j (Nat.lt_of_succ_lt_succ hj)) 1500
      1500 60000 (by decide)
    exact Int32.le_iff_toInt_le.mpr h
  · have h := hdwell.grid 1 2 (by decide) (by decide)
    exact Int.ofNat_inj.mp h

end Pipoco.SemTables
