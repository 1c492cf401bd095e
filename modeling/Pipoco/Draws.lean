import Mathlib.Data.List.Sort
import Mathlib.Tactic

/-!
Drawing the first few entries of a bag.

The entries that are eligible are ordered by a rank. A draw of at most `m` takes the first `m`
eligible entries in that order and leaves everything else. A draw is put together one entry at a
time, and when the rank tells the entries apart, the bag alone decides what is drawn: the order
in which a list happens to hold it does not matter.
-/

namespace Pipoco.Draws

variable {α β : Type*} [LinearOrder β] {rank : α → β} {p : α → Bool} {m : ℕ} {items : List α}

/-- Out of `items`, the first `m` eligible ones in the order of their rank are `out`, and `rest`
is what remains. -/
structure Draw (rank : α → β) (p : α → Bool) (m : ℕ) (items out rest : List α) : Prop where
  perm : (out ++ rest).Perm items
  eligible : ∀ a ∈ out, p a = true
  sorted : out.Pairwise (rank · ≤ rank ·)
  first : ∀ a ∈ out, ∀ b ∈ rest, p b = true → rank a ≤ rank b
  full : out.length = min m (items.countP p)

lemma draw_nil_iff : Draw rank p m items [] items ↔ m = 0 ∨ ∀ a ∈ items, p a = false := by
  have hcount : items.countP p = 0 ↔ ∀ a ∈ items, p a = false := by
    simp [List.countP_eq_zero]
  constructor
  · intro h
    have hfull : (0 : ℕ) = min m (items.countP p) := h.full
    rcases Nat.eq_zero_or_pos m with hm | hm
    · exact .inl hm
    · exact .inr (hcount.mp (by omega))
  · intro h
    refine ⟨List.Perm.refl _, by simp, List.Pairwise.nil, by simp, ?_⟩
    rcases h with rfl | h
    · simp
    · rw [hcount.mpr h]; simp

/-- One entry drawn first: the others are a draw of one less, and it ranks before all of them
that are eligible. -/
theorem draw_cons_iff {pre post out rest : List α} {a : α} (ha : p a = true) :
    Draw rank p (m + 1) (pre ++ a :: post) (a :: out) rest ↔
      Draw rank p m (pre ++ post) out rest ∧ ∀ b ∈ pre ++ post, p b = true → rank a ≤ rank b := by
  have hmid : (pre ++ a :: post).Perm (a :: (pre ++ post)) := List.perm_middle
  have hcount : (pre ++ a :: post).countP p = (pre ++ post).countP p + 1 := by
    rw [hmid.countP_eq, List.countP_cons_of_pos ha]
  constructor
  · intro h
    have hperm : (out ++ rest).Perm (pre ++ post) := (h.perm.trans hmid).cons_inv
    have hsorted := List.pairwise_cons.mp h.sorted
    refine ⟨⟨hperm, fun b hb => h.eligible b (List.mem_cons_of_mem a hb), hsorted.2,
      fun b hb => h.first b (List.mem_cons_of_mem a hb), ?_⟩, fun b hb hpb => ?_⟩
    · have hfull := h.full
      rw [hcount, List.length_cons] at hfull
      omega
    · rcases List.mem_append.mp (hperm.mem_iff.mpr hb) with hb | hb
      · exact hsorted.1 b hb
      · exact h.first a List.mem_cons_self b hb hpb
  · rintro ⟨h, hfirst⟩
    have hmem : ∀ b ∈ out ++ rest, b ∈ pre ++ post := fun b hb => h.perm.mem_iff.mp hb
    refine ⟨(h.perm.cons a).trans hmid.symm, ?_, ?_, ?_, ?_⟩
    · intro b hb
      rcases List.mem_cons.mp hb with rfl | hb
      · exact ha
      · exact h.eligible b hb
    · exact List.pairwise_cons.mpr ⟨fun b hb =>
        hfirst b (hmem b (List.mem_append_left _ hb)) (h.eligible b hb), h.sorted⟩
    · intro b hb c hc hpc
      rcases List.mem_cons.mp hb with rfl | hb
      · exact hfirst c (hmem c (List.mem_append_right _ hc)) hpc
      · exact h.first b hb c hc hpc
    · rw [hcount, List.length_cons, h.full]
      omega

/-- The eligible entries in the order of their rank, of which a draw takes the first ones. -/
lemma Draw.exists_sorted {out rest : List α} (h : Draw rank p m items out rest) :
    ∃ tail, (out ++ tail).Pairwise (rank · ≤ rank ·) ∧ (out ++ tail).Perm (items.filter p) := by
  set tail := (rest.filter p).mergeSort fun a b => decide (rank a ≤ rank b) with htail
  have hmem : ∀ b, b ∈ tail ↔ b ∈ rest ∧ p b = true := by
    intro b
    rw [htail, List.mem_mergeSort, List.mem_filter]
  refine ⟨tail, List.pairwise_append.mpr ⟨h.sorted, ?_, fun a ha b hb => ?_⟩, ?_⟩
  · have hp : tail.Pairwise fun a b => decide (rank a ≤ rank b) = true :=
      List.pairwise_mergeSort
        (fun a b c hab hbc => by simp only [decide_eq_true_eq] at *; exact hab.trans hbc)
        (fun a b => by simpa using le_total (rank a) (rank b)) (rest.filter p)
    simpa only [decide_eq_true_eq] using hp
  · exact h.first a ha b ((hmem b).mp hb).1 ((hmem b).mp hb).2
  · have hout : out.filter p = out := List.filter_eq_self.mpr h.eligible
    have hfilter := h.perm.filter p
    rw [List.filter_append, hout] at hfilter
    exact ((List.mergeSort_perm _ _).append_left out).trans hfilter

/-- **The bag decides the draw.** -/
theorem Draw.unique (hrank : Function.Injective rank) {items' out out' rest rest' : List α}
    (h : Draw rank p m items out rest) (h' : Draw rank p m items' out' rest')
    (hitems : items.Perm items') : out = out' ∧ rest.Perm rest' := by
  obtain ⟨tail, hs, hp⟩ := h.exists_sorted
  obtain ⟨tail', hs', hp'⟩ := h'.exists_sorted
  have heq : out ++ tail = out' ++ tail' :=
    List.Perm.eq_of_pairwise (fun a b _ _ hab hba => hrank (le_antisymm hab hba)) hs hs'
      (hp.trans ((hitems.filter p).trans hp'.symm))
  have hlen : out.length = out'.length := by
    rw [h.full, h'.full, hitems.countP_eq]
  obtain ⟨rfl, -⟩ := List.append_inj heq hlen
  refine ⟨rfl, ?_⟩
  exact (List.perm_append_left_iff out).mp (h.perm.trans (hitems.trans h'.perm.symm))

end Pipoco.Draws
