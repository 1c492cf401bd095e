import Mathlib.Data.List.Perm.Basic
import Mathlib.Data.List.Nodup
import Mathlib.Tactic

/-!
Lists whose entries carry a key.

The keys of a list in the order of their first entries, the list regrouped by key, and the
removal of the first entry with a given key, described by what it does to the list of keys.
-/

namespace Pipoco.Keyed

variable {α κ : Type*} [DecidableEq κ] (key : α → κ) (l : List α) {ks : List κ}

/-- The keys of a list, each once, in the order in which they first occur. -/
def uniqueKeys : List κ := l.foldl (fun seen a => if key a ∈ seen then seen else seen ++ [key a]) []

private lemma uniqueKeys_aux (seen : List κ) (h : seen.Nodup) :
    (l.foldl (fun seen a => if key a ∈ seen then seen else seen ++ [key a]) seen).Nodup ∧
      ∀ k, k ∈ l.foldl (fun seen a => if key a ∈ seen then seen else seen ++ [key a]) seen ↔
        k ∈ seen ∨ ∃ a ∈ l, key a = k := by
  induction l generalizing seen with
  | nil => exact ⟨h, by simp⟩
  | cons a l ih =>
    rw [List.foldl_cons]
    by_cases ha : key a ∈ seen
    · rw [if_pos ha]
      obtain ⟨hnd, hmem⟩ := ih seen h
      refine ⟨hnd, fun k => ?_⟩
      rw [hmem k]
      constructor
      · rintro (hk | ⟨b, hb, rfl⟩)
        · exact .inl hk
        · exact .inr ⟨b, List.mem_cons_of_mem _ hb, rfl⟩
      · rintro (hk | ⟨b, hb, rfl⟩)
        · exact .inl hk
        · rcases List.mem_cons.mp hb with rfl | hb
          · exact .inl ha
          · exact .inr ⟨b, hb, rfl⟩
    · rw [if_neg ha]
      have hnd' : (seen ++ [key a]).Nodup := by
        rw [List.nodup_append]
        refine ⟨h, List.nodup_singleton _, ?_⟩
        intro x hx y hy
        rw [List.mem_singleton] at hy
        rintro rfl
        exact ha (hy ▸ hx)
      obtain ⟨hnd, hmem⟩ := ih _ hnd'
      refine ⟨hnd, fun k => ?_⟩
      rw [hmem k, List.mem_append, List.mem_singleton]
      constructor
      · rintro ((hk | rfl) | ⟨b, hb, rfl⟩)
        · exact .inl hk
        · exact .inr ⟨a, List.mem_cons_self, rfl⟩
        · exact .inr ⟨b, List.mem_cons_of_mem _ hb, rfl⟩
      · rintro (hk | ⟨b, hb, rfl⟩)
        · exact .inl (.inl hk)
        · rcases List.mem_cons.mp hb with rfl | hb
          · exact .inl (.inr rfl)
          · exact .inr ⟨b, hb, rfl⟩

lemma nodup_uniqueKeys : (uniqueKeys key l).Nodup := (uniqueKeys_aux key l [] List.nodup_nil).1

lemma mem_uniqueKeys {l : List α} {k : κ} : k ∈ uniqueKeys key l ↔ ∃ a ∈ l, key a = k := by
  rw [uniqueKeys]
  simpa using (uniqueKeys_aux key l [] List.nodup_nil).2 k

/-- Regrouping a list by keys that cover it only reorders it. -/
lemma perm_flatMap_filter (hnd : ks.Nodup) (hcov : ∀ a ∈ l, key a ∈ ks) :
    (ks.flatMap fun k => l.filter fun a => key a = k).Perm l := by
  induction ks generalizing l with
  | nil =>
    rcases l with _ | ⟨a, l⟩
    · exact List.Perm.refl _
    · exact absurd (hcov a List.mem_cons_self) List.not_mem_nil
  | cons k ks ih =>
    obtain ⟨hk, hnd'⟩ := List.nodup_cons.mp hnd
    -- the other keys only see the entries that are left
    have hrest : (ks.flatMap fun k' => l.filter fun a => key a = k') =
        ks.flatMap fun k' => (l.filter fun a => !decide (key a = k)).filter
          fun a => key a = k' := by
      refine List.flatMap_congr fun k' hk' => ?_
      rw [List.filter_filter]
      refine List.filter_congr fun a _ => ?_
      by_cases ha : key a = k'
      · have : k' ≠ k := fun he => hk (he ▸ hk')
        simp [ha, this]
      · simp [ha]
    rw [List.flatMap_cons, hrest]
    refine ((ih _ hnd' ?_).append_left _).trans (List.filter_append_perm _ l)
    intro a ha
    obtain ⟨hal, hne⟩ := List.mem_filter.mp ha
    rcases List.mem_cons.mp (hcov a hal) with he | he
    · simp [he] at hne
    · exact he

/-- Removing the first entry with a key removes the key from the list of keys. -/
lemma map_eraseP (k : κ) : (l.eraseP fun a => key a = k).map key = (l.map key).erase k := by
  induction l with
  | nil => rfl
  | cons a l ih =>
    by_cases ha : key a = k
    · simp [ha]
    · simp [ha, ih]

lemma perm_map_eraseP {l : List α} {k : κ} (h : (l.map key).Perm (k :: ks)) :
    ((l.eraseP fun a => key a = k).map key).Perm ks := by
  rw [map_eraseP]
  simpa using h.erase k

/-! ### Splitting a list at an entry -/

/-- An entry of two lists in a row is an entry of the first or of the second one. -/
lemma split_cases {pre post p s : List α} {x : α} (h : pre ++ post = p ++ x :: s) :
    (∃ s', pre = p ++ x :: s' ∧ s = s' ++ post) ∨ ∃ p', p = pre ++ p' ∧ post = p' ++ x :: s := by
  rcases List.append_eq_append_iff.mp h with ⟨a, hp, hpost⟩ | ⟨c, hpre, hs⟩
  · exact .inr ⟨a, hp, hpost⟩
  · cases c with
    | nil => exact .inr ⟨[], by simpa using hpre.symm, by simpa using hs.symm⟩
    | cons y s' =>
      obtain ⟨rfl, rfl⟩ := List.cons.inj hs
      exact .inl ⟨s', hpre, rfl⟩

end Pipoco.Keyed
