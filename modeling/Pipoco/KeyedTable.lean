import Mathlib.Data.Fintype.Card
import Mathlib.Data.List.FinRange
import Mathlib.Tactic

/-!
Tables of keyed entries with a fixed number of cells.

An entry is looked up by its key and a new one goes into the first empty cell. As long as no two
cells have the same key, what a table holds is a relation between keys and values, and writing a
cell is described by what it does to that relation.
-/

namespace Pipoco.KeyedTable

variable {κ β : Type*} {n : ℕ}

abbrev Table (κ β : Type*) (n : ℕ) := Fin n → Option (κ × β)

def empty : Table κ β n := fun _ => none

variable (t : Table κ β n)

/-- The first cell with this key, and its value. -/
def find [DecidableEq κ] (t : Table κ β n) (k : κ) : Option (Fin n × β) :=
  (List.finRange n).findSome? fun i =>
    match t i with
    | some (k', b) => if k' = k then some (i, b) else none
    | none => none

def free : Option (Fin n) := (List.finRange n).find? fun i => (t i).isNone

/-- The table holds this value under this key. -/
def Holds (k : κ) (b : β) : Prop := ∃ i, t i = some (k, b)

/-- No two cells have the same key. -/
def Distinct : Prop := ∀ ⦃i j k b b'⦄, t i = some (k, b) → t j = some (k, b') → i = j

/-! ### Lookup -/

variable {t}

section Find

variable [DecidableEq κ] {t : Table κ β n} {k : κ} {i : Fin n}

lemma find_eq_some {b : β} (h : find t k = some (i, b)) : t i = some (k, b) := by
  obtain ⟨j, -, hj⟩ := List.exists_of_findSome?_eq_some h
  cases ht : t j with
  | none => simp [ht] at hj
  | some e =>
    obtain ⟨k', b'⟩ := e
    rw [ht] at hj
    by_cases hk : k' = k
    · subst hk
      simp only [if_true, Option.some.injEq, Prod.mk.injEq] at hj
      obtain ⟨rfl, rfl⟩ := hj
      exact ht
    · simp [hk] at hj

lemma find_eq_none_iff : find t k = none ↔ ∀ b, ¬ Holds t k b := by
  simp only [find, List.findSome?_eq_none_iff, List.mem_finRange, true_implies, Holds, not_exists]
  constructor
  · intro h b i hi
    simpa [hi] using h i
  · intro h i
    cases ht : t i with
    | none => rfl
    | some e =>
      refine if_neg ?_
      rintro rfl
      exact h e.2 i ht

lemma Distinct.find_eq (h : Distinct t) {b : β} (hi : t i = some (k, b)) :
    find t k = some (i, b) := by
  cases hf : find t k with
  | none => exact absurd ⟨i, hi⟩ (find_eq_none_iff.mp hf b)
  | some e =>
    obtain ⟨j, b'⟩ := e
    have hj := find_eq_some hf
    obtain rfl := h hj hi
    rw [hi] at hj
    cases hj
    rfl

end Find

lemma Distinct.holds_unique (h : Distinct t) {k : κ} {b b' : β} (hb : Holds t k b)
    (hb' : Holds t k b') : b = b' := by
  obtain ⟨i, hi⟩ := hb
  obtain ⟨j, hj⟩ := hb'
  obtain rfl := h hi hj
  rw [hi] at hj
  exact congrArg Prod.snd (Option.some.inj hj)

lemma free_eq_some {i : Fin n} (h : free t = some i) : t i = none := by
  simpa using List.find?_some h

lemma free_eq_none_iff : free t = none ↔ ∀ i, t i ≠ none := by
  simp [free, List.find?_eq_none]

lemma not_holds_empty (k : κ) (b : β) : ¬ Holds (empty : Table κ β n) k b := by
  rintro ⟨i, hi⟩
  cases hi

lemma distinct_empty : Distinct (empty : Table κ β n) := by
  intro i j k b b' hi
  cases hi

/-- A table whose keys are fewer than its cells has an empty cell. -/
lemma exists_free (h : Distinct t) {s : Finset κ} (hs : ∀ k b, Holds t k b → k ∈ s)
    (hcard : s.card < n) : ∃ i, free t = some i := by
  rw [← Option.isSome_iff_exists, ← Option.ne_none_iff_isSome]
  intro hnone
  have hfull : ∀ i, ∃ e, t i = some e := fun i =>
    Option.ne_none_iff_exists'.mp (free_eq_none_iff.mp hnone i)
  choose e he using hfull
  -- the keys of the cells are distinct
  have hinj : Function.Injective fun i => (e i).1 := by
    intro i j hij
    have hj : t j = some ((e i).1, (e j).2) := by
      rw [he j]
      exact congrArg some (Prod.ext hij.symm rfl)
    exact h (he i) hj
  have hmem : ∀ i ∈ (Finset.univ : Finset (Fin n)), (e i).1 ∈ s := fun i _ => hs _ _ ⟨i, he i⟩
  have hle := Finset.card_le_card_of_injOn _ hmem hinj.injOn
  rw [Finset.card_univ, Fintype.card_fin] at hle
  omega

/-! ### Writing a cell -/

section Write

variable {t : Table κ β n} {i : Fin n} {k : κ} {b c : β} {o : Option (κ × β)} {k' : κ} {b' : β}

lemma holds_update :
    Holds (Function.update t i o) k' b' ↔ o = some (k', b') ∨ ∃ j, j ≠ i ∧ t j = some (k', b') := by
  constructor
  · rintro ⟨j, hj⟩
    by_cases hji : j = i
    · subst hji
      rw [Function.update_self] at hj
      exact .inl hj
    · rw [Function.update_of_ne hji] at hj
      exact .inr ⟨j, hji, hj⟩
  · rintro (ho | ⟨j, hji, hj⟩)
    · exact ⟨i, by rw [Function.update_self, ho]⟩
    · exact ⟨j, by rw [Function.update_of_ne hji, hj]⟩

lemma holds_put (hi : t i = none) :
    Holds (Function.update t i (some (k, b))) k' b' ↔ (k' = k ∧ b' = b) ∨ Holds t k' b' := by
  rw [holds_update, Option.some.injEq, Prod.mk.injEq, eq_comm, @eq_comm _ b]
  refine or_congr_right ⟨?_, ?_⟩
  · rintro ⟨j, -, hj⟩
    exact ⟨j, hj⟩
  · rintro ⟨j, hj⟩
    refine ⟨j, ?_, hj⟩
    rintro rfl
    rw [hi] at hj
    cases hj

lemma Distinct.others (h : Distinct t) (hi : t i = some (k, b)) :
    (∃ j, j ≠ i ∧ t j = some (k', b')) ↔ k' ≠ k ∧ Holds t k' b' := by
  constructor
  · rintro ⟨j, hji, hj⟩
    refine ⟨?_, j, hj⟩
    rintro rfl
    exact hji (h hj hi)
  · rintro ⟨hk, j, hj⟩
    refine ⟨j, ?_, hj⟩
    rintro rfl
    rw [hi] at hj
    exact hk (congrArg Prod.fst (Option.some.inj hj)).symm

lemma Distinct.holds_clear (h : Distinct t) (hi : t i = some (k, b)) :
    Holds (Function.update t i none) k' b' ↔ k' ≠ k ∧ Holds t k' b' := by
  rw [holds_update, h.others hi]
  simp

lemma Distinct.holds_set (h : Distinct t) (hi : t i = some (k, b)) :
    Holds (Function.update t i (some (k, c))) k' b' ↔
      (k' = k ∧ b' = c) ∨ (k' ≠ k ∧ Holds t k' b') := by
  rw [holds_update, h.others hi, Option.some.injEq, Prod.mk.injEq, eq_comm, @eq_comm _ c]

/-- Writing a cell keeps the keys distinct when no other cell has its key. -/
lemma Distinct.update (h : Distinct t)
    (ho : ∀ {k b j b'}, o = some (k, b) → t j = some (k, b') → j = i) :
    Distinct (Function.update t i o) := by
  intro j j' k b b' hj hj'
  by_cases hji : j = i
  · by_cases hji' : j' = i
    · rw [hji, hji']
    · subst hji
      rw [Function.update_self] at hj
      rw [Function.update_of_ne hji'] at hj'
      exact absurd (ho hj hj') hji'
  · rw [Function.update_of_ne hji] at hj
    by_cases hji' : j' = i
    · subst hji'
      rw [Function.update_self] at hj'
      exact absurd (ho hj' hj) hji
    · rw [Function.update_of_ne hji'] at hj'
      exact h hj hj'

lemma Distinct.put (h : Distinct t) (hk : ∀ b, ¬ Holds t k b) :
    Distinct (Function.update t i (some (k, b))) := by
  refine h.update fun {k' b' j b''} ho hj => ?_
  cases ho
  exact absurd ⟨j, hj⟩ (hk b'')

lemma Distinct.clear (h : Distinct t) : Distinct (Function.update t i none) := h.update nofun

lemma Distinct.set (h : Distinct t) (hi : t i = some (k, b)) :
    Distinct (Function.update t i (some (k, c))) := by
  refine h.update fun {k' b' j b''} ho hj => ?_
  cases ho
  exact h hj hi

end Write

/-! ### What an operation on one key may do -/

/-- One table comes from the other by at most one write that concerns only this key. -/
inductive Touches (t : Table κ β n) (k : κ) : Table κ β n → Prop
  | keep : Touches t k t
  | put (i : Fin n) (b : β) (hk : ∀ b, ¬ Holds t k b) (hi : t i = none) :
      Touches t k (Function.update t i (some (k, b)))
  | set (i : Fin n) (b c : β) (hi : t i = some (k, b)) :
      Touches t k (Function.update t i (some (k, c)))
  | clear (i : Fin n) (b : β) (hi : t i = some (k, b)) : Touches t k (Function.update t i none)

section Touches

variable {t t' : Table κ β n} {k : κ}

lemma Touches.distinct (h : Touches t k t') (hd : Distinct t) : Distinct t' := by
  cases h with
  | keep => exact hd
  | put i b hk hi => exact hd.put hk
  | set i b c hi => exact hd.set hi
  | clear i b hi => exact hd.clear

lemma Touches.holds_iff (h : Touches t k t') (hd : Distinct t) {k' : κ} (hk' : k' ≠ k) {b : β} :
    Holds t' k' b ↔ Holds t k' b := by
  cases h with
  | keep => rfl
  | put i c hk hi => simp [holds_put hi, hk']
  | set i c c' hi => simp [hd.holds_set hi, hk']
  | clear i c hi => simp [hd.holds_clear hi, hk']

/-- A full table changes only through the keys it has. -/
lemma Touches.eq_of_full (h : Touches t k t') (hfull : free t = none)
    (hk : ∀ b, ¬ Holds t k b) : t' = t := by
  cases h with
  | keep => rfl
  | put i b _ hi => exact absurd hi (free_eq_none_iff.mp hfull i)
  | set i b c hi | clear i b hi => exact absurd ⟨i, hi⟩ (hk b)

end Touches

end Pipoco.KeyedTable
