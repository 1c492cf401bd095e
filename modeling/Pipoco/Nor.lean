import Pipoco.Bytes

/-!
Flash memory that is erased to ones and programmed by half-words.

Programming can only clear bits: the cell keeps the bits that are set both before and in the new
value. Over erased cells this stores the value, so programming the half-words of blocks that are
apart writes exactly the blocks, and a half-word of ones changes nothing wherever it is programmed.
-/

namespace Pipoco.Nor

open Bytes

variable (l : List UInt8) (off : ℕ) (bs : List UInt8) (words : List (ℕ × UInt16))

/-- The cells after programming `bs` from `off` on. -/
def program : List UInt8 := put l off (List.zipWith (· &&& ·) (window l off bs.length) bs)

/-- Half-words, each with its offset, programmed one after the other. -/
def programAll : List UInt8 := words.foldl (fun l w => program l w.1 (le16 w.2)) l

/-- The half-words of a block, low byte first. -/
def halfWords : ℕ → List UInt8 → List (ℕ × UInt16)
  | off, a :: b :: rest => (off, u16 [a, b]) :: halfWords (off + 2) rest
  | _, _ => []

def Erased (len : ℕ) : Prop := window l off len = List.replicate len 0xFF

@[simp] lemma length_program : (program l off bs).length = l.length := length_put _ _ _

@[simp] lemma programAll_nil : programAll l [] = l := rfl

@[simp] lemma programAll_cons (w : ℕ × UInt16) (words : List (ℕ × UInt16)) :
    programAll l (w :: words) = programAll (program l w.1 (le16 w.2)) words := rfl

lemma programAll_append (u v : List (ℕ × UInt16)) :
    programAll l (u ++ v) = programAll (programAll l u) v := by
  simp [programAll, List.foldl_append]

@[simp] lemma length_programAll : (programAll l words).length = l.length := by
  induction words generalizing l with
  | nil => rfl
  | cons w words ih => rw [programAll_cons, ih, length_program]

variable {l} {off}

lemma Erased.sub {len i n : ℕ} (h : Erased l off len) (hn : i + n ≤ len) :
    Erased l (off + i) n := by
  rw [Erased, ← window_window l hn, h, window_replicate _ hn]

lemma erased_replicate {n len : ℕ} (h : off + len ≤ n) :
    Erased (List.replicate n 0xFF) off len := window_replicate _ h

lemma zipWith_and_ones : List.zipWith (· &&& ·) (List.replicate bs.length 0xFF) bs = bs := by
  induction bs with
  | nil => rfl
  | cons b bs ih =>
    have hb : 0xFF &&& b = b := UInt8.neg_one_and
    rw [List.length_cons, List.replicate_succ, List.zipWith_cons_cons, ih, hb]

variable {bs}

/-- Over erased cells programming stores the value. -/
lemma program_erased (h : Erased l off bs.length) : program l off bs = put l off bs := by
  rw [program, h, zipWith_and_ones]

lemma program_ones (l : List UInt8) (off : ℕ) : program l off (le16 0xFFFF) = l := by
  have hand : ∀ w : List UInt8, w.length ≤ 2 → List.zipWith (· &&& ·) w (le16 0xFFFF) = w := by
    intro w hw
    match w with
    | [] => rfl
    | [a] => exact congrArg (· :: []) UInt8.and_neg_one
    | [a, b] => exact congrArg₂ (fun x y => [x, y]) UInt8.and_neg_one UInt8.and_neg_one
    | _ :: _ :: _ :: _ => simp at hw
  have hlen : (window l off (le16 0xFFFF).length).length ≤ 2 := List.length_take_le _ _
  rw [program, hand _ hlen, put_window]

lemma program_zeros (h : off + 2 ≤ l.length) : program l off (le16 0) = put l off [0, 0] := by
  obtain ⟨a, b, hab⟩ := List.length_eq_two.mp (length_window h)
  have hw : window l off (le16 0).length = [a, b] := hab
  rw [program, hw]
  exact congrArg (put l off) (congrArg₂ (fun x y => [x, y]) UInt8.and_zero UInt8.and_zero)

/-- Programming the half-words of a block into erased cells writes the block. -/
lemma programAll_halfWords (heven : bs.length % 2 = 0) (h : Erased l off bs.length) :
    programAll l (halfWords off bs) = put l off bs := by
  induction off, bs using halfWords.induct generalizing l with
  | case1 off a b rest ih =>
    have hword : le16 (u16 [a, b]) = [a, b] := le16_u16 rfl
    have hfirst : Erased l off [a, b].length := h.sub (i := 0) (by simp)
    have hrest : Erased (put l off [a, b]) (off + 2) rest.length := by
      have hclear : Clear off [a, b].length (off + 2) rest.length := Or.inl le_rfl
      rw [Erased, window_put_of_clear hclear]
      exact h.sub (by simp; omega)
    rw [halfWords, programAll_cons, hword, program_erased hfirst,
      ih (by simp only [List.length_cons] at heven; omega) hrest]
    exact put_append l off [a, b] rest
  | case2 bs off hne =>
    -- an even block without two bytes in front is empty
    have hnil : bs = [] := by
      match bs, hne with
      | [], _ => rfl
      | [a], _ => simp at heven
      | a :: b :: rest, hne => exact absurd rfl (hne a b rest)
    rw [hnil, halfWords, programAll_nil, put_nil]
    simp

/-- Programming the half-words of a layout into erased cells writes the layout. -/
lemma programAll_blocks {blocks : List (ℕ × List UInt8)}
    (hapart : blocks.Pairwise fun b c => Clear b.1 b.2.length c.1 c.2.length)
    (heven : ∀ b ∈ blocks, b.2.length % 2 = 0) (h : ∀ b ∈ blocks, Erased l b.1 b.2.length) :
    programAll l (blocks.flatMap fun b => halfWords b.1 b.2) = putAll l blocks := by
  induction blocks generalizing l with
  | nil => rfl
  | cons b blocks ih =>
    obtain ⟨hb, hblocks⟩ := List.pairwise_cons.mp hapart
    rw [List.flatMap_cons, programAll_append, putAll_cons,
      programAll_halfWords (heven b (.head _)) (h b (.head _))]
    refine ih hblocks (fun c hc => heven c (.tail _ hc)) fun c hc => ?_
    rw [Erased, window_put_of_clear (hb c hc)]
    exact h c (.tail _ hc)

lemma length_halfWords (off : ℕ) (bs : List UInt8) : (halfWords off bs).length = bs.length / 2 := by
  induction off, bs using halfWords.induct with
  | case1 off a b rest ih =>
    rw [halfWords, List.length_cons, ih, List.length_cons, List.length_cons]
    omega
  | case2 bs off hne =>
    have hshort : bs.length / 2 = 0 := by
      match bs, hne with
      | [], _ => rfl
      | [a], _ => simp
      | a :: b :: rest, hne => exact absurd rfl (hne a b rest)
    rw [halfWords, hshort]
    · rfl
    · exact fun a b rest hbs => hne a b rest hbs

/-- A half-word of a block stands at an even distance from its start. -/
lemma mem_halfWords {w : ℕ × UInt16} (h : w ∈ halfWords off bs) :
    ∃ i, w = (off + 2 * i, u16 (window bs (2 * i) 2)) := by
  induction off, bs using halfWords.induct with
  | case1 off a b rest ih =>
    rcases List.mem_cons.mp h with rfl | h
    · exact ⟨0, rfl⟩
    · obtain ⟨i, rfl⟩ := ih h
      refine ⟨i + 1, Prod.ext ?_ ?_⟩
      · dsimp only
        omega
      · rfl
  | case2 bs off hne =>
    rw [halfWords] at h
    · cases h
    · exact fun a b rest hbs => hne a b rest hbs

variable {words}

/-- Half-words of ones, or apart from a window, do not change it. -/
lemma window_programAll {len : ℕ} (h : ∀ w ∈ words, w.2 = 0xFFFF ∨ Clear w.1 2 off len) :
    window (programAll l words) off len = window l off len := by
  induction words generalizing l with
  | nil => rfl
  | cons w words ih =>
    rw [programAll_cons, ih fun v hv => h v (.tail _ hv)]
    rcases h w (.head _) with hones | hclear
    · rw [hones, program_ones]
    · refine window_put_of_clear ?_
      have hle : (List.zipWith (· &&& ·) (window l w.1 (le16 w.2).length) (le16 w.2)).length ≤ 2 := by
        rw [List.length_zipWith, length_le16]
        omega
      rcases hclear with hc | hc
      · exact Or.inl (by omega)
      · exact Or.inr hc

end Pipoco.Nor
