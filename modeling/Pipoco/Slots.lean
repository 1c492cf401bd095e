import Mathlib.Data.List.GetD
import Mathlib.Data.List.ReduceOption
import Mathlib.Data.List.Perm.Basic
import Mathlib.Tactic

/-!
Fixed-capacity slot tables.

A table has a fixed number of cells, each empty or holding one entry. An entry goes into the
first empty cell, and cells are emptied one at a time, by kind, or all at once; the order of
the cells is never changed. What a table holds is read off as the list of its entries in cell
order, and every operation is described by what it does to that list: putting an entry in
permutes the list with the entry added, releasing the first match erases it, cancelling filters.
-/

namespace Pipoco.Slots

variable {α : Type*}

/-- A table of `n` cells. -/
structure Table (α : Type*) (n : ℕ) where
  cells : List (Option α)
  size : cells.length = n
  deriving DecidableEq

open Table

variable {n : ℕ} (s : Table α n) {a : α} (p : α → Bool)

def Table.items : List α := s.cells.reduceOption

def Table.empty (n : ℕ) : Table α n := ⟨List.replicate n none, List.length_replicate⟩

def Table.count : ℕ := (s.cells.filter Option.isSome).length

/-- The cells after the first empty one has taken the entry, if there is one. -/
def putCells (a : α) : List (Option α) → Option (List (Option α))
  | [] => none
  | none :: r => some (some a :: r)
  | some b :: r => (putCells a r).map (some b :: ·)

/-- The cells after the first one matching `p` has been emptied. -/
def releaseCells (p : α → Bool) : List (Option α) → List (Option α)
  | [] => []
  | none :: r => none :: releaseCells p r
  | some b :: r => if p b then none :: r else some b :: releaseCells p r

lemma putCells_length {l l' : List (Option α)} (h : putCells a l = some l') :
    l'.length = l.length := by
  induction l generalizing l' with
  | nil => simp [putCells] at h
  | cons c r ih =>
    rcases c with _ | b
    · simp only [putCells, Option.some.injEq] at h; subst h; simp
    · simp only [putCells, Option.map_eq_some_iff] at h
      obtain ⟨r', hr, rfl⟩ := h
      simp [ih hr]

@[simp] lemma releaseCells_length (l : List (Option α)) : (releaseCells p l).length = l.length := by
  induction l with
  | nil => rfl
  | cons c r ih =>
    rcases c with _ | b
    · simp [releaseCells, ih]
    · by_cases hp : p b <;> simp [releaseCells, hp, ih]

def Table.put (a : α) : Option (Table α n) :=
  match h : putCells a s.cells with
  | none => none
  | some l => some ⟨l, (putCells_length h).trans s.size⟩

def Table.release : Table α n :=
  ⟨releaseCells p s.cells, (releaseCells_length p s.cells).trans s.size⟩

def Table.cancel : Table α n :=
  ⟨s.cells.map fun c => if c.any p then none else c, by rw [List.length_map, s.size]⟩

def Table.clearAt (i : ℕ) : Table α n := ⟨s.cells.set i none, by rw [List.length_set, s.size]⟩

def Table.at? (i : ℕ) : Option α := s.cells.getD i none

/-! ### What the operations do to the entries -/

@[simp] lemma items_empty : (empty n : Table α n).items = [] := by
  simp [items, empty]

lemma count_eq : s.count = s.items.length := by
  rw [count, items, List.reduceOption_length_eq]

lemma items_length_le : s.items.length ≤ n := by
  have := List.reduceOption_length_le s.cells
  rw [s.size] at this
  exact this

lemma putCells_items {l l' : List (Option α)} (h : putCells a l = some l') :
    l'.reduceOption.Perm (a :: l.reduceOption) := by
  induction l generalizing l' with
  | nil => simp [putCells] at h
  | cons c r ih =>
    rcases c with _ | b
    · simp only [putCells, Option.some.injEq] at h; subst h
      simp [List.reduceOption_cons_of_some, List.reduceOption_cons_of_none]
    · simp only [putCells, Option.map_eq_some_iff] at h
      obtain ⟨r', hr, rfl⟩ := h
      exact ((ih hr).cons b).trans (List.Perm.swap a b _)

lemma putCells_none_iff (a : α) (l : List (Option α)) :
    putCells a l = none ↔ l.reduceOption.length = l.length := by
  induction l with
  | nil => simp [putCells]
  | cons c r ih =>
    rcases c with _ | b
    · have := List.reduceOption_length_le r
      simp only [putCells, List.reduceOption_cons_of_none, List.length_cons]
      constructor
      · intro h; cases h
      · intro h; omega
    · simp [putCells, List.reduceOption_cons_of_some, ih]

lemma put_cells {s s' : Table α n} (h : s.put a = some s') :
    putCells a s.cells = some s'.cells := by
  unfold put at h
  split at h
  · cases h
  · rename_i l hl
    obtain rfl := Option.some.inj h
    exact hl

theorem items_put {s s' : Table α n} (h : s.put a = some s') :
    s'.items.Perm (a :: s.items) := putCells_items (put_cells h)

/-- A table refuses an entry exactly when it is full. -/
theorem put_none_iff (a : α) : s.put a = none ↔ s.items.length = n := by
  have key := putCells_none_iff a s.cells
  rw [s.size] at key
  unfold put
  rw [items, ← key]
  split <;> simp_all

@[simp] lemma items_release : (s.release p).items = s.items.eraseP p := by
  obtain ⟨l, hl⟩ := s
  show (releaseCells p l).reduceOption = l.reduceOption.eraseP p
  clear hl
  induction l with
  | nil => rfl
  | cons c r ih =>
    rcases c with _ | b
    · simp only [releaseCells, List.reduceOption_cons_of_none, ih]
    · by_cases hp : p b
      · simp [releaseCells, hp, List.reduceOption_cons_of_some, List.reduceOption_cons_of_none]
      · simp [releaseCells, hp, List.reduceOption_cons_of_some, ih]

@[simp] lemma items_cancel : (s.cancel p).items = s.items.filter fun a => !p a := by
  obtain ⟨l, hl⟩ := s
  show (l.map fun c => if c.any p then none else c).reduceOption =
    l.reduceOption.filter fun a => !p a
  clear hl
  induction l with
  | nil => rfl
  | cons c r ih =>
    rcases c with _ | b
    · simpa [List.reduceOption_cons_of_none] using ih
    · by_cases hp : p b <;>
        simpa [hp, List.reduceOption_cons_of_some, List.reduceOption_cons_of_none] using ih

variable {s}

lemma items_clearAt {pre post : List (Option α)} (h : s.cells = pre ++ some a :: post) :
    (s.clearAt pre.length).items = pre.reduceOption ++ post.reduceOption := by
  show (s.cells.set pre.length none).reduceOption = _
  rw [h, List.set_append_right _ _ (le_refl _), Nat.sub_self, List.set_cons_zero,
    List.reduceOption_append, List.reduceOption_cons_of_none]

lemma items_split {pre post : List (Option α)} (h : s.cells = pre ++ some a :: post) :
    s.items = pre.reduceOption ++ a :: post.reduceOption := by
  rw [items, h, List.reduceOption_append, List.reduceOption_cons_of_some]

/-- In a table without repeated entries, the slot order of two entries is one way only. -/
lemma not_sublist_swap {l : List α} (hnd : l.Nodup) {b : α} (h : [a, b].Sublist l) :
    ¬ [b, a].Sublist l := by
  induction l with
  | nil => cases h
  | cons c l ih =>
    obtain ⟨hc, hnd'⟩ := List.nodup_cons.mp hnd
    intro h'
    rcases List.cons_sublist_cons'.mp h with hab | ⟨rfl, hb⟩
    · rcases List.cons_sublist_cons'.mp h' with hba | ⟨rfl, -⟩
      · exact ih hnd' hab hba
      · exact hc (hab.subset (by simp))
    · rcases List.cons_sublist_cons'.mp h' with hba | ⟨rfl, -⟩
      · exact hc (hba.subset (by simp))
      · exact hc (hb.subset (by simp))

lemma mem_items_iff : a ∈ s.items ↔ some a ∈ s.cells := List.reduceOption_mem_iff

/-! ### Entries renamed -/

section map

variable {β : Type*}

/-- The same cells with every entry renamed. -/
def Table.map (f : α → β) (s : Table α n) : Table β n :=
  ⟨s.cells.map (Option.map f), by rw [List.length_map, s.size]⟩

variable (f : α → β) (s : Table α n) {p : α → Bool} {q : β → Bool}

@[simp] lemma map_empty : (empty n : Table α n).map f = empty n := by
  simp [map, empty]

@[simp] lemma items_map : (s.map f).items = s.items.map f := List.reduceOption_map

@[simp] lemma count_map : (s.map f).count = s.count := by
  rw [count_eq, count_eq, items_map, List.length_map]

lemma putCells_map (a : α) (l : List (Option α)) :
    putCells (f a) (l.map (Option.map f)) = (putCells a l).map (List.map (Option.map f)) := by
  induction l with
  | nil => rfl
  | cons c r ih =>
    rcases c with _ | b
    · rfl
    · simp only [List.map_cons, Option.map_some, putCells, ih, Option.map_map]
      rfl

lemma put_eq {s : Table α n} {l : List (Option α)} (h : putCells a s.cells = some l) :
    s.put a = some ⟨l, (putCells_length h).trans s.size⟩ := by
  unfold put
  split
  · rename_i hnone
    rw [h] at hnone
    cases hnone
  · rename_i l' hl'
    obtain rfl : l' = l := Option.some.inj (hl'.symm.trans h)
    rfl

lemma put_map (a : α) : (s.map f).put (f a) = (s.put a).map (map f) := by
  have hmap := putCells_map f a s.cells
  rcases hc : putCells a s.cells with _ | l
  · have hnone : s.put a = none := (put_none_iff s a).mpr (by
      rw [items, (putCells_none_iff a s.cells).mp hc, s.size])
    rw [hnone, Option.map_none, put_none_iff, items_map, List.length_map]
    exact (put_none_iff s a).mp hnone
  · rw [hc] at hmap
    rw [put_eq hc, put_eq hmap]
    rfl

lemma release_map (hp : ∀ a, q (f a) = p a) : (s.map f).release q = (s.release p).map f := by
  obtain ⟨l, hl⟩ := s
  suffices h : releaseCells q (l.map (Option.map f)) = (releaseCells p l).map (Option.map f) by
    simp only [release, map, h]
  clear hl
  induction l with
  | nil => rfl
  | cons c r ih =>
    rcases c with _ | b
    · simp [releaseCells, ih]
    · by_cases hb : p b <;> simp [releaseCells, hp, hb, ih]

lemma cancel_map (hp : ∀ a, q (f a) = p a) : (s.map f).cancel q = (s.cancel p).map f := by
  simp only [cancel, map, mk.injEq, List.map_map]
  refine List.map_congr_left fun c _ => ?_
  rcases c with _ | b
  · rfl
  · by_cases hb : p b <;> simp [hp, hb]

lemma clearAt_map (i : ℕ) : (s.map f).clearAt i = (s.clearAt i).map f := by
  simp [clearAt, map, List.map_set]

lemma at?_map (i : ℕ) : (s.map f).at? i = (s.at? i).map f := by
  simp only [at?, map, List.getD_eq_getElem?_getD, List.getElem?_map]
  rcases s.cells[i]? with _ | c <;> rfl

end map

end Pipoco.Slots
