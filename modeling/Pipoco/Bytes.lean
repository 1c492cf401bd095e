import Mathlib.Data.List.GetD
import Mathlib.Tactic

/-!
Buffers as lists, read and written in windows.

A window is the part of a buffer that starts at an offset and has a given length; writing puts a
block at an offset and never changes the length of the buffer. A layout is a list of blocks, each
with its offset. When the blocks of a layout are pairwise apart and fit the buffer, every block is
read back as it was written, whatever the order, and everything outside of them is as before.
Machine words are stored little-endian, for any number of bytes.
-/

namespace Pipoco.Bytes

variable {α : Type*} (l : List α) (off : ℕ) (bs : List α) {len n : ℕ}

/-- The `len` entries from `off` on, fewer if the buffer ends before. -/
def window (len : ℕ) : List α := (l.drop off).take len

/-- Overwrites the entries from `off` on; what falls beyond the end is dropped. -/
def put : List α := l.mapIdx fun i a => if off ≤ i then bs.getD (i - off) a else a

@[simp] lemma length_put : (put l off bs).length = l.length := by
  simp [put]

lemma getElem?_window (len i : ℕ) :
    (window l off len)[i]? = if i < len then l[off + i]? else none := by
  simp [window, List.getElem?_take, List.getElem?_drop]

lemma length_window {l : List α} {off : ℕ} (h : off + len ≤ l.length) :
    (window l off len).length = len := by
  simp only [window, List.length_take, List.length_drop]
  omega

lemma getElem?_put (i : ℕ) (bs : List α) :
    (put l off bs)[i]? =
      if off ≤ i ∧ i < off + bs.length ∧ i < l.length then bs[i - off]? else l[i]? := by
  simp only [put, List.getElem?_mapIdx]
  by_cases hl : i < l.length
  · by_cases hi : off ≤ i ∧ i < off + bs.length
    · have hb : i - off < bs.length := by omega
      simp [hl, hi, List.getElem?_eq_getElem hb]
    · rcases Nat.lt_or_ge i off with hlt | hge
      · simp [hl, Nat.not_le.mpr hlt]
      · have hb : bs.length ≤ i - off := by omega
        have hn : ¬ i < off + bs.length := by omega
        simp [hl, hge, hn, List.getElem?_eq_none hb]
  · simp [hl]

variable {bs}

variable {l}

lemma window_put_self {off : ℕ} (h : off + bs.length ≤ l.length) :
    window (put l off bs) off bs.length = bs := by
  refine List.ext_getElem? fun i => ?_
  rw [getElem?_window, getElem?_put]
  by_cases hi : i < bs.length
  · have hin : off ≤ off + i ∧ off + i < off + bs.length ∧ off + i < l.length := by omega
    simp [hi, hin]
  · simp [hi]

lemma window_put_zero (hbs : bs.length = n) (hl : n ≤ l.length) : window (put l 0 bs) 0 n = bs := by
  subst hbs
  exact window_put_self (by omega)

lemma put_zero (h : bs.length ≤ l.length) : put l 0 bs = bs ++ l.drop bs.length := by
  refine List.ext_getElem? fun i => ?_
  rw [getElem?_put, List.getElem?_append, List.getElem?_drop]
  by_cases hi : i < bs.length
  · simp [hi, hi.trans_le h]
  · simp [hi, Nat.add_sub_of_le (Nat.not_lt.mp hi)]

lemma put_zero_of_length (h : bs.length = l.length) : put l 0 bs = bs := by
  rw [put_zero h.le, List.drop_of_length_le h.ge, List.append_nil]

/-- Two blocks, given by offset and length, share no position. -/
def Clear (len off' len' : ℕ) : Prop := off + len ≤ off' ∨ off' + len' ≤ off
  deriving Decidable

lemma Clear.symm {off off' len' : ℕ} (h : Clear off len off' len') :
    Clear off' len' off len := Or.symm h

/-- A block does not disturb what is read apart from it. -/
lemma window_put_of_clear {off off' len' : ℕ} (h : Clear off bs.length off' len') :
    window (put l off bs) off' len' = window l off' len' := by
  refine List.ext_getElem? fun i => ?_
  rw [getElem?_window, getElem?_window, getElem?_put]
  by_cases hi : i < len'
  · have hout : ¬ (off ≤ off' + i ∧ off' + i < off + bs.length ∧ off' + i < l.length) := by
      rcases h with h | h <;> omega
    simp [hi, hout]
  · simp [hi]

variable (l)

lemma put_append (u v : List α) : put (put l off u) (off + u.length) v = put l off (u ++ v) := by
  refine List.ext_getElem? fun i => ?_
  simp only [getElem?_put, length_put, List.length_append]
  by_cases hv : off + u.length ≤ i ∧ i < off + u.length + v.length ∧ i < l.length
  · have hall : off ≤ i ∧ i < off + (u.length + v.length) ∧ i < l.length := by omega
    rw [if_pos hv, if_pos hall, List.getElem?_append_right (by omega)]
    congr 1
    omega
  · rw [if_neg hv]
    by_cases hu : off ≤ i ∧ i < off + u.length ∧ i < l.length
    · have hall : off ≤ i ∧ i < off + (u.length + v.length) ∧ i < l.length := by omega
      rw [if_pos hu, if_pos hall, List.getElem?_append_left (by omega)]
    · have hall : ¬ (off ≤ i ∧ i < off + (u.length + v.length) ∧ i < l.length) := by omega
      rw [if_neg hu, if_neg hall]

@[simp] lemma put_nil : put l off [] = l := by
  refine List.ext_getElem? fun i => ?_
  rw [getElem?_put, if_neg]
  simp only [List.length_nil]
  omega

lemma window_window {off i : ℕ} (h : i + n ≤ len) :
    window (window l off len) i n = window l (off + i) n := by
  refine List.ext_getElem? fun j => ?_
  rw [getElem?_window, getElem?_window, getElem?_window]
  by_cases hj : j < n
  · rw [if_pos hj, if_pos hj, if_pos (by omega), Nat.add_assoc]
  · rw [if_neg hj, if_neg hj]

lemma put_window (len : ℕ) : put l off (window l off len) = l := by
  refine List.ext_getElem? fun i => ?_
  rw [getElem?_put]
  split
  · next hi =>
    have hlen : (window l off len).length ≤ len := List.length_take_le _ _
    rw [getElem?_window, if_pos (by omega)]
    congr 1
    omega
  · rfl

variable {off}

lemma window_replicate (a : α) (h : off + len ≤ n) :
    window (List.replicate n a) off len = List.replicate len a := by
  simp only [window, List.drop_replicate, List.take_replicate]
  congr 1
  omega

/-! ### Layouts -/

variable {lo hi : ℕ} (blocks : List (ℕ × List α)) {b : ℕ × List α}

/-- The blocks written one after the other. -/
def putAll : List α := blocks.foldl (fun l b => put l b.1 b.2) l

/-- The blocks are pairwise apart and end before position `n`. -/
structure Layout (n : ℕ) (blocks : List (ℕ × List α)) : Prop where
  apart : blocks.Pairwise fun b c => Clear b.1 b.2.length c.1 c.2.length
  fits : ∀ b ∈ blocks, b.1 + b.2.length ≤ n

@[simp] lemma putAll_nil : putAll l [] = l := rfl

@[simp] lemma putAll_cons (b : ℕ × List α) (blocks : List (ℕ × List α)) :
    putAll l (b :: blocks) = putAll (put l b.1 b.2) blocks := rfl

lemma putAll_append (u v : List (ℕ × List α)) : putAll l (u ++ v) = putAll (putAll l u) v := by
  simp [putAll, List.foldl_append]

@[simp] lemma length_putAll : (putAll l blocks).length = l.length := by
  induction blocks generalizing l with
  | nil => rfl
  | cons b blocks ih => rw [putAll_cons, ih, length_put]

variable {l} {blocks}

/-- A layout does not disturb what is read apart from all of its blocks. -/
lemma window_putAll_of_clear (h : ∀ b ∈ blocks, Clear b.1 b.2.length off len) :
    window (putAll l blocks) off len = window l off len := by
  induction blocks generalizing l with
  | nil => rfl
  | cons b blocks ih =>
    rw [putAll_cons, ih fun c hc => h c (.tail _ hc), window_put_of_clear (h b (.head _))]

/-- Every block of a layout is read back as it was written. -/
lemma window_putAll (h : Layout l.length blocks) (hb : b ∈ blocks) :
    window (putAll l blocks) b.1 b.2.length = b.2 := by
  induction blocks generalizing l with
  | nil => simp at hb
  | cons c blocks ih =>
    have hapart := List.pairwise_cons.mp h.apart
    rw [putAll_cons]
    rcases List.mem_cons.mp hb with rfl | hb
    · rw [window_putAll_of_clear fun d hd => (hapart.1 d hd).symm]
      exact window_put_self (h.fits b (.head _))
    · refine ih ⟨hapart.2, fun d hd => ?_⟩ hb
      rw [length_put]
      exact h.fits d (.tail _ hd)

/-- The blocks are pairwise apart and lie between two positions. -/
structure Span (lo hi : ℕ) (blocks : List (ℕ × List α)) : Prop where
  apart : blocks.Pairwise fun b c => Clear b.1 b.2.length c.1 c.2.length
  within : ∀ b ∈ blocks, lo ≤ b.1 ∧ b.1 + b.2.length ≤ hi

lemma span_nil (lo hi : ℕ) : Span lo hi ([] : List (ℕ × List α)) :=
  ⟨List.Pairwise.nil, fun _ h => absurd h List.not_mem_nil⟩

lemma span_singleton (hlo : lo ≤ b.1) (hhi : b.1 + b.2.length ≤ hi) : Span lo hi [b] :=
  ⟨List.pairwise_singleton _ _, fun c hc => by
    rw [List.mem_singleton.mp hc]
    exact ⟨hlo, hhi⟩⟩

lemma Span.append {mid : ℕ} {u v : List (ℕ × List α)} (hu : Span lo mid u) (hv : Span mid hi v)
    (hlo : lo ≤ mid) (hhi : mid ≤ hi) : Span lo hi (u ++ v) := by
  refine ⟨List.pairwise_append.mpr ⟨hu.apart, hv.apart, fun b hb c hc => ?_⟩, fun b hb => ?_⟩
  · exact Or.inl ((hu.within b hb).2.trans (hv.within c hc).1)
  · rcases List.mem_append.mp hb with hb | hb
    · exact ⟨(hu.within b hb).1, (hu.within b hb).2.trans hhi⟩
    · exact ⟨hlo.trans (hv.within b hb).1, (hv.within b hb).2⟩

/-- The blocks come in the order of their offsets, from `lo` on, and end before `hi`. -/
def Ascends (hi : ℕ) : ℕ → List (ℕ × List α) → Prop
  | lo, [] => lo ≤ hi
  | lo, b :: blocks => lo ≤ b.1 ∧ Ascends hi (b.1 + b.2.length) blocks

lemma Ascends.le (h : Ascends hi lo blocks) : lo ≤ hi := by
  induction blocks generalizing lo with
  | nil => exact h
  | cons b blocks ih =>
    have hle := ih h.2
    have hlo := h.1
    omega

/-- Each block needs to be compared with its neighbour only. -/
lemma Ascends.span (h : Ascends hi lo blocks) : Span lo hi blocks := by
  induction blocks generalizing lo with
  | nil => exact span_nil lo hi
  | cons b blocks ih =>
    have hone : Span lo (b.1 + b.2.length) [b] := span_singleton h.1 le_rfl
    have hlo := h.1
    exact hone.append (ih h.2) (by omega) h.2.le

lemma Span.layout (h : Span lo hi blocks) (hn : hi ≤ n) : Layout n blocks :=
  ⟨h.apart, fun b hb => (h.within b hb).2.trans hn⟩

lemma Ascends.layout (h : Ascends n 0 blocks) : Layout n blocks := h.span.layout le_rfl

lemma window_putAll_of_length (h : Layout l.length blocks) (hb : (off, bs) ∈ blocks)
    (hlen : bs.length = len) : window (putAll l blocks) off len = bs := by
  rw [← hlen]
  exact window_putAll h hb

/-- A buffer with the blocks in their places, which agrees with another one outside of them, is what
writing them into that one gives. -/
lemma putAll_eq {data : List α} (hlen : l.length = data.length)
    (hin : ∀ b ∈ blocks, window data b.1 b.2.length = b.2)
    (hout : ∀ i, (∀ b ∈ blocks, Clear b.1 b.2.length i 1) → l[i]? = data[i]?) :
    putAll l blocks = data := by
  induction blocks generalizing l with
  | nil => exact List.ext_getElem? fun i => hout i fun _ h => nomatch h
  | cons b blocks ih =>
    refine ih (by rw [length_put, hlen]) (fun c hc => hin c (.tail _ hc)) fun i hi => ?_
    rw [getElem?_put]
    split
    · next h =>
      have hwin := congrArg (·[i - b.1]?) (hin b (.head _))
      simp only [getElem?_window] at hwin
      rw [if_pos (by omega), Nat.add_sub_of_le h.1] at hwin
      exact hwin.symm
    · next h =>
      rcases Nat.lt_or_ge i l.length with hl | hl
      · refine hout i (List.forall_mem_cons.mpr ⟨?_, hi⟩)
        unfold Clear
        omega
      · rw [List.getElem?_eq_none hl, List.getElem?_eq_none (by omega)]

/-! ### Little-endian words -/

variable (l bs : List UInt8) (v : UInt16)

/-- The low `w` bytes of a number, least significant first. -/
def toLe : ℕ → ℕ → List UInt8
  | 0, _ => []
  | w + 1, v => UInt8.ofNat v :: toLe w (v / 256)

def ofLe : List UInt8 → ℕ
  | [] => 0
  | b :: bs => b.toNat + 256 * ofLe bs

@[simp] lemma length_toLe (w v : ℕ) : (toLe w v).length = w := by
  induction w generalizing v with
  | zero => rfl
  | succ w ih => simp [toLe, ih]

lemma ofLe_toLe (w v : ℕ) : ofLe (toLe w v) = v % 256 ^ w := by
  induction w generalizing v with
  | zero => simp [toLe, ofLe, Nat.mod_one]
  | succ w ih =>
    have hbyte : (UInt8.ofNat v).toNat = v % 256 := by simp
    rw [toLe, ofLe, ih, hbyte, Nat.pow_succ, Nat.mul_comm (256 ^ w) 256, Nat.mod_mul]

lemma ofLe_lt : ofLe bs < 256 ^ bs.length := by
  induction bs with
  | nil => simp [ofLe]
  | cons b bs ih =>
    have hb : b.toNat < 256 := b.toNat_lt
    rw [ofLe, List.length_cons, Nat.pow_succ]
    omega

lemma toLe_ofLe : toLe bs.length (ofLe bs) = bs := by
  induction bs with
  | nil => rfl
  | cons b bs ih =>
    have hb : b.toNat < 256 := b.toNat_lt
    have hdiv : (b.toNat + 256 * ofLe bs) / 256 = ofLe bs := by omega
    have hbyte : UInt8.ofNat (b.toNat + 256 * ofLe bs) = b := by
      refine UInt8.toNat_inj.mp ?_
      rw [UInt8.toNat_ofNat']
      omega
    rw [ofLe, List.length_cons, toLe, hdiv, ih, hbyte]

def le16 : List UInt8 := toLe 2 v.toNat

def le32 (v : UInt32) : List UInt8 := toLe 4 v.toNat

def u16 : UInt16 := UInt16.ofNat (ofLe bs)

def u32 : UInt32 := UInt32.ofNat (ofLe bs)

@[simp] lemma length_le16 : (le16 v).length = 2 := length_toLe 2 _

@[simp] lemma length_le32 (v : UInt32) : (le32 v).length = 4 := length_toLe 4 _

@[simp] lemma u16_le16 : u16 (le16 v) = v := by
  have h : v.toNat % 256 ^ 2 = v.toNat := Nat.mod_eq_of_lt v.toNat_lt
  rw [u16, le16, ofLe_toLe, h, UInt16.ofNat_toNat]

@[simp] lemma u32_le32 (v : UInt32) : u32 (le32 v) = v := by
  have h : v.toNat % 256 ^ 4 = v.toNat := Nat.mod_eq_of_lt v.toNat_lt
  rw [u32, le32, ofLe_toLe, h, UInt32.ofNat_toNat]

variable {bs}

lemma le16_u16 (h : bs.length = 2) : le16 (u16 bs) = bs := by
  have hlt := ofLe_lt bs
  have hinv := toLe_ofLe bs
  rw [h] at hlt hinv
  rw [le16, u16, UInt16.toNat_ofNat_of_lt' hlt, hinv]

lemma le32_u32 (h : bs.length = 4) : le32 (u32 bs) = bs := by
  have hlt := ofLe_lt bs
  have hinv := toLe_ofLe bs
  rw [h] at hlt hinv
  rw [le32, u32, UInt32.toNat_ofNat_of_lt' hlt, hinv]

/-- The byte at a position, zero outside of the buffer. -/
def byteAt (i : ℕ) : UInt8 := l.getD i 0

lemma getElem?_eq_byteAt {l : List UInt8} {i : ℕ} (h : i < l.length) :
    l[i]? = some (byteAt l i) := by
  simp [byteAt, h]

lemma window_one {l : List UInt8} {i : ℕ} (h : i < l.length) : window l i 1 = [byteAt l i] := by
  simp [window, byteAt, List.take_one, h]

lemma byteAt_of_window {l : List UInt8} {i : ℕ} {b : UInt8} (h : window l i 1 = [b]) :
    byteAt l i = b := by
  have hi : (window l i 1)[0]? = some b := by rw [h]; rfl
  rw [getElem?_window, if_pos Nat.one_pos, Nat.add_zero] at hi
  rw [byteAt, List.getD_eq_getElem?_getD, hi, Option.getD_some]

/-- A byte of a zeroed buffer that no block covers. -/
lemma byteAt_zeroed {blocks : List (ℕ × List UInt8)} {i : ℕ} (hi : i < n)
    (h : ∀ b ∈ blocks, Clear b.1 b.2.length i 1) :
    byteAt (putAll (List.replicate n 0) blocks) i = 0 :=
  byteAt_of_window (by rw [window_putAll_of_clear h, window_replicate _ hi]; rfl)

lemma eq_zero_or_one {b : UInt8} (h : ¬ 1 < b) : b = 0 ∨ b = 1 := by
  have hle : b.toNat ≤ 1 := UInt8.not_lt.mp h
  rw [← UInt8.toNat_inj, ← UInt8.toNat_inj]
  exact Nat.le_one_iff_eq_zero_or_eq_one.mp hle

section Fields

variable {l : List UInt8} {blocks : List (ℕ × List UInt8)} (h : Layout l.length blocks) (k : ℕ)
  {off : ℕ}
include h

lemma byteAt_putAll {b : UInt8} (hb : blocks[k]? = some (off, [b])) :
    byteAt (putAll l blocks) off = b :=
  byteAt_of_window (window_putAll h (List.mem_of_getElem? hb))

lemma u16_putAll {v : UInt16} (hb : blocks[k]? = some (off, le16 v)) :
    u16 (window (putAll l blocks) off 2) = v := by
  rw [window_putAll_of_length h (List.mem_of_getElem? hb) (length_le16 v), u16_le16]

lemma u32_putAll {v : UInt32} (hb : blocks[k]? = some (off, le32 v)) :
    u32 (window (putAll l blocks) off 4) = v := by
  rw [window_putAll_of_length h (List.mem_of_getElem? hb) (length_le32 v), u32_le32]

end Fields

/-! ### Record formats -/

/-- A format for optional records in erased memory. Some values cannot be encoded, some are read
back in another form; what has been read once is encoded and read again without change. -/
structure Codec (α : Type*) where
  len : ℕ
  encode : α → Option (List UInt8)
  decode : List UInt8 → Option α
  stored : α → α
  length_of_encode : ∀ {a bs}, encode a = some bs → bs.length = len
  decode_of_encode : ∀ {a bs}, encode a = some bs → decode bs = some (stored a)
  stored_of_decode : ∀ {bs a}, decode bs = some a → stored a = a
  encode_of_decode : ∀ {bs a}, decode bs = some a → ∃ bs', encode a = some bs'
  decode_erased : decode (List.replicate len 0xFF) = none

namespace Codec

variable (c : Codec α)

/-- The block of an optional record, if it can be encoded. -/
def block (off : ℕ) : Option α → Option (List (ℕ × List UInt8))
  | none => some []
  | some a => (c.encode a).map fun bs => [(off, bs)]

variable {c} {off : ℕ} {r : Option α} {v : List (ℕ × List UInt8)} {bs : List UInt8}

lemma span_block (h : c.block off r = some v) : Span off (off + c.len) v := by
  cases r with
  | none =>
    cases h
    exact span_nil _ _
  | some a =>
    obtain ⟨bs, hbs, rfl⟩ := Option.map_eq_some_iff.mp h
    exact span_singleton le_rfl (by rw [c.length_of_encode hbs])

/-- **Records are read back.** Among blocks that lie before and after it, an optional record
written into erased memory is read as its stored form, and as none if there was none. -/
theorem decode_window {u w : List (ℕ × List UInt8)} {lo hi n : ℕ} (hv : c.block off r = some v)
    (hu : Span lo off u) (hw : Span (off + c.len) hi w) (hlo : lo ≤ off) (hhi : off + c.len ≤ hi)
    (hn : hi ≤ n) :
    c.decode (window (putAll (List.replicate n 0xFF) (u ++ (v ++ w))) off c.len) =
      r.map c.stored := by
  have hspan : Span lo hi (u ++ (v ++ w)) :=
    hu.append ((span_block hv).append hw (by omega) hhi) hlo (by omega)
  cases r with
  | none =>
    cases hv
    rw [window_putAll_of_clear, window_replicate _ (by omega), c.decode_erased]
    · rfl
    · intro b hb
      rcases List.mem_append.mp hb with hb | hb
      · exact Or.inl (hu.within b hb).2
      · exact Or.inr (hw.within b hb).1
  | some a =>
    obtain ⟨bs, hbs, rfl⟩ := Option.map_eq_some_iff.mp hv
    have hlayout : Layout (List.replicate n (0xFF : UInt8)).length (u ++ ([(off, bs)] ++ w)) := by
      rw [List.length_replicate]
      exact hspan.layout hn
    rw [window_putAll_of_length hlayout (by simp) (c.length_of_encode hbs), c.decode_of_encode hbs]
    rfl

lemma block_of_decode (h : c.decode bs = r) : ∃ v, c.block off r = some v := by
  cases r with
  | none => exact ⟨[], rfl⟩
  | some a =>
    obtain ⟨bs', hbs'⟩ := c.encode_of_decode h
    exact ⟨[(off, bs')], by rw [block, hbs', Option.map_some]⟩

lemma map_stored_of_decode (h : c.decode bs = r) : r.map c.stored = r := by
  cases r with
  | none => rfl
  | some a => rw [Option.map_some, c.stored_of_decode h]

end Codec

/-! ### A flipped bit -/

variable (bit : Fin 8)

/-- The buffer with one bit of the byte at a position flipped. -/
def flipBit (i : ℕ) (bit : Fin 8) : List UInt8 := l.modify i (· ^^^ UInt8.ofNat (2 ^ bit.val))

@[simp] lemma length_flipBit (i : ℕ) (bit : Fin 8) :
    (flipBit l i bit).length = l.length := List.length_modify ..

@[simp] lemma flipBit_zero (b : UInt8) (l : List UInt8) (bit : Fin 8) :
    flipBit (b :: l) 0 bit = (b ^^^ UInt8.ofNat (2 ^ bit.val)) :: l := rfl

@[simp] lemma flipBit_succ (b : UInt8) (l : List UInt8) (i : ℕ) (bit : Fin 8) :
    flipBit (b :: l) (i + 1) bit = b :: flipBit l i bit := rfl

lemma toNat_mask : (UInt8.ofNat (2 ^ bit.val)).toNat = 2 ^ bit.val := by
  revert bit; decide

lemma window_flipBit_of_outside {i : ℕ} (h : i < off ∨ off + len ≤ i) :
    window (flipBit l i bit) off len = window l off len := by
  refine List.ext_getElem? fun j => ?_
  rw [getElem?_window, getElem?_window]
  split_ifs with hj
  · have hne : ¬ i = off + j := by omega
    simp [flipBit, hne]
  · rfl

lemma window_flipBit_of_inside {i : ℕ} (hoff : off ≤ i) :
    window (flipBit l i bit) off len = flipBit (window l off len) (i - off) bit := by
  refine List.ext_getElem? fun j => ?_
  have hiff : i = off + j ↔ i - off = j := by omega
  rw [flipBit, flipBit, getElem?_window, List.getElem?_modify, List.getElem?_modify,
    getElem?_window]
  simp only [hiff]
  split_ifs <;> rfl

/-- In the number that the bytes stand for, the bit at that place is flipped. -/
lemma ofLe_flipBit {i : ℕ} (hi : i < bs.length) (bit : Fin 8) :
    ofLe (flipBit bs i bit) = ofLe bs ^^^ 2 ^ (8 * i + bit.val) := by
  have hjoin : ∀ (b : UInt8) (x j : ℕ), (b.toNat + 256 * x).testBit j =
      if j < 8 then b.toNat.testBit j else x.testBit (j - 8) := by
    intro b x j
    have hb : b.toNat < 2 ^ 8 := b.toNat_lt
    rw [Nat.add_comm]
    exact Nat.testBit_two_pow_mul_add x hb j
  induction bs generalizing i with
  | nil => cases hi
  | cons b bs ih =>
    refine Nat.eq_of_testBit_eq fun j => ?_
    rw [Nat.testBit_xor, Nat.testBit_two_pow]
    cases i with
    | zero =>
      rw [flipBit_zero, ofLe, ofLe, hjoin, hjoin, UInt8.toNat_xor, toNat_mask,
        Nat.testBit_xor, Nat.testBit_two_pow]
      split_ifs with hj
      · simp
      · have hne : ¬ bit.val = j := by omega
        simp [hne]
    | succ i =>
      rw [flipBit_succ, ofLe, ofLe, hjoin, hjoin, ih (by simpa using hi), Nat.testBit_xor,
        Nat.testBit_two_pow]
      split_ifs with hj
      · have hne : ¬ 8 * (i + 1) + bit.val = j := by omega
        simp [hne]
      · have hiff : 8 * (i + 1) + bit.val = j ↔ 8 * i + bit.val = j - 8 := by omega
        simp [hiff]

lemma xor_two_pow_ne (n k : ℕ) : n ^^^ 2 ^ k ≠ n := by
  intro h
  have hbit := congrArg (Nat.testBit · k) h
  simp [Nat.testBit_xor] at hbit

lemma ofLe_flipBit_lt (bs : List UInt8) (i : ℕ) (bit : Fin 8) :
    ofLe (flipBit bs i bit) < 256 ^ bs.length := by
  have h := ofLe_lt (flipBit bs i bit)
  rwa [length_flipBit] at h

lemma u16_flipBit_ne (hlen : bs.length = 2) {i : ℕ} (hi : i < 2) (bit : Fin 8) :
    u16 (flipBit bs i bit) ≠ u16 bs := by
  intro h
  have hlt := ofLe_lt bs
  have hlt' := ofLe_flipBit_lt bs i bit
  rw [hlen] at hlt hlt'
  have hnat := congrArg UInt16.toNat h
  rw [u16, u16, UInt16.toNat_ofNat_of_lt' hlt', UInt16.toNat_ofNat_of_lt' hlt,
    ofLe_flipBit (by omega)] at hnat
  exact xor_two_pow_ne _ _ hnat

lemma toNat_u32_flipBit (hlen : bs.length = 4) {i : ℕ} (hi : i < 4) (bit : Fin 8) :
    (u32 (flipBit bs i bit)).toNat = (u32 bs).toNat ^^^ 2 ^ (8 * i + bit.val) := by
  have hlt := ofLe_lt bs
  have hlt' := ofLe_flipBit_lt bs i bit
  rw [hlen] at hlt hlt'
  rw [u32, u32, UInt32.toNat_ofNat_of_lt' hlt', UInt32.toNat_ofNat_of_lt' hlt,
    ofLe_flipBit (by omega)]

end Pipoco.Bytes
