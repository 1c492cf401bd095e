import Pipoco.CanTransport

/-!
Single transfers on the CAN bus.

A transfer is a message with the number it is sent under. What the receiver does with each of its
frames is said once: when the slot holds what has been sent so far, the frame is added to it and
the last one returns the message; when frames have been lost the slot is behind, and the length
in the start frame makes sure that the last frame does not complete it.
-/

namespace Pipoco.Can

open Bytes KeyedTable CanTransport

variable {M : Type} {c : MessageCodec M}

/-- A message that is sent under a transfer number. -/
structure Transfer (c : MessageCodec M) where
  msg : M
  tid : UInt8
  tid_lt : tid < 64
  fits : (c.encode msg).length ≤ reasmBuf

/-- The frames of a message; the last one carries the message it completes. -/
def mark (m : M) : List Frame → List (Frame × Option M)
  | [] => []
  | [f] => [(f, some m)]
  | f :: g :: fs => (f, none) :: mark m (g :: fs)

lemma map_fst_mark (m : M) (fs : List Frame) : (mark m fs).map Prod.fst = fs := by
  fun_induction mark m fs with
  | case1 => rfl
  | case2 => rfl
  | case3 f g fs ih => rw [List.map_cons, ih]

lemma mark_cons {m : M} {f : Frame} {fs : List Frame} (h : fs ≠ []) :
    mark m (f :: fs) = (f, none) :: mark m fs := by
  obtain ⟨g, gs, rfl⟩ := List.exists_cons_of_ne_nil h
  rfl

namespace Transfer

variable (x : Transfer c)

def bytes : List UInt8 := c.encode x.msg

def key : TransferKey := ⟨x.tid, c.route x.msg⟩

variable (b : CanBuild) (pos : ℕ)

def frames : List Frame := CanTransport.frames b x.tid (c.route x.msg) x.bytes

def tail : List Frame := continuationFrames b x.tid (c.route x.msg) x.bytes pos

def upTo : Reassembly := ⟨x.bytes.length, crc16Ccitt x.bytes, x.bytes.take pos⟩

def single : Frame := ⟨c.route x.msg, flags 0b00 x.tid :: x.bytes⟩

def start : Frame :=
  ⟨c.route x.msg, flags 0b01 x.tid ::
    (le16 (.ofNat x.bytes.length) ++ le16 (crc16Ccitt x.bytes) ++ x.bytes.take (b.maxCanData - 5))⟩

def middle : Frame := ⟨c.route x.msg, flags 0b10 x.tid :: window x.bytes pos (b.maxCanData - 1)⟩

def last : Frame := ⟨c.route x.msg, flags 0b11 x.tid :: x.bytes.drop pos⟩

def Long : Prop := b.maxCanData - 1 < x.bytes.length
  deriving Decidable

/-! ### The frames of a transfer -/

lemma key_start : (x.start b).key = x.key := key_flags _ _ (by decide) x.tid_lt

lemma key_middle : (x.middle b pos).key = x.key := key_flags _ _ (by decide) x.tid_lt

variable {x b} {pos} {f : Frame}

lemma frames_of_not_long (h : ¬ x.Long b) : x.frames b = [x.single] := by
  have hle : x.bytes.length ≤ b.maxCanData - 1 := Nat.not_lt.mp h
  have hflags : flags 0b00 x.tid = x.tid := by simp [flags]
  rw [frames, CanTransport.frames, if_pos hle, single, hflags]

lemma frames_of_long (h : x.Long b) : x.frames b = x.start b :: x.tail b (b.maxCanData - 5) := by
  have hlong : b.maxCanData - 1 < x.bytes.length := h
  have hmin : min (b.maxCanData - 5) x.bytes.length = b.maxCanData - 5 := by omega
  simp only [frames, CanTransport.frames, if_neg (Nat.not_le.mpr hlong), hmin]
  rfl

lemma tail_last (hpos : pos < x.bytes.length) (h : x.bytes.length - pos ≤ b.maxCanData - 1) :
    x.tail b pos = [x.last pos] := by
  have hmin : min (x.bytes.length - pos) (b.maxCanData - 1) = x.bytes.length - pos := by omega
  have hend : ¬ pos + (x.bytes.length - pos) < x.bytes.length := by omega
  have hwin : window x.bytes pos (x.bytes.length - pos) = x.bytes.drop pos :=
    List.take_of_length_le (by simp)
  rw [tail, CanTransport.continuationFrames, dif_pos hpos]
  simp only [hmin, h, if_true, hwin]
  rw [CanTransport.continuationFrames, dif_neg hend]
  rfl

lemma tail_middle (h : b.maxCanData - 1 < x.bytes.length - pos) :
    x.tail b pos = x.middle b pos :: x.tail b (pos + (b.maxCanData - 1)) := by
  have hpos : pos < x.bytes.length := by omega
  have hmin : min (x.bytes.length - pos) (b.maxCanData - 1) = b.maxCanData - 1 := by omega
  rw [tail, CanTransport.continuationFrames, dif_pos hpos]
  simp only [hmin, Nat.not_le.mpr h, if_false]
  rfl

variable (b) in
/-- Induction along the continuation frames, from the last one back. -/
@[elab_as_elim]
lemma tail_induction {motive : (pos : ℕ) → pos < x.bytes.length → Prop}
    (last : ∀ pos hpos, x.bytes.length - pos ≤ b.maxCanData - 1 → motive pos hpos)
    (middle : ∀ pos hpos, b.maxCanData - 1 < x.bytes.length - pos →
      ∀ hnext : pos + (b.maxCanData - 1) < x.bytes.length,
        motive (pos + (b.maxCanData - 1)) hnext → motive pos hpos)
    (pos : ℕ) (hpos : pos < x.bytes.length) : motive pos hpos := by
  induction hn : x.bytes.length - pos using Nat.strong_induction_on generalizing pos with
  | _ n ih =>
    by_cases h : x.bytes.length - pos ≤ b.maxCanData - 1
    · exact last pos hpos h
    · have hmax := b.eight_le
      have hnext : pos + (b.maxCanData - 1) < x.bytes.length := by omega
      refine middle pos hpos (Nat.not_le.mp h) hnext (ih _ ?_ _ hnext rfl)
      omega

lemma tail_ne_nil (hpos : pos < x.bytes.length) : x.tail b pos ≠ [] := by
  by_cases h : x.bytes.length - pos ≤ b.maxCanData - 1
  · rw [tail_last hpos h]
    exact List.cons_ne_nil _ _
  · rw [tail_middle (Nat.not_le.mp h)]
    exact List.cons_ne_nil _ _

lemma mark_tail_middle (h : b.maxCanData - 1 < x.bytes.length - pos) :
    mark x.msg (x.tail b pos) =
      (x.middle b pos, none) :: mark x.msg (x.tail b (pos + (b.maxCanData - 1))) := by
  rw [tail_middle h, mark_cons (tail_ne_nil (by omega))]

lemma start_lt (h : x.Long b) : b.maxCanData - 5 < x.bytes.length := by
  have hlong : b.maxCanData - 1 < x.bytes.length := h
  omega

lemma mark_frames_of_long (h : x.Long b) :
    mark x.msg (x.frames b) = (x.start b, none) :: mark x.msg (x.tail b (b.maxCanData - 5)) := by
  rw [frames_of_long h, mark_cons (tail_ne_nil (start_lt h))]

lemma frames_ne_nil : x.frames b ≠ [] := by
  by_cases h : x.Long b
  · rw [frames_of_long h]
    exact List.cons_ne_nil _ _
  · rw [frames_of_not_long h]
    exact List.cons_ne_nil _ _

lemma key_of_mem_tail (hpos : pos < x.bytes.length) (hf : f ∈ x.tail b pos) : f.key = x.key := by
  induction pos, hpos using tail_induction b with
  | last pos hpos h =>
    rw [tail_last hpos h, List.mem_singleton] at hf
    exact hf ▸ key_flags _ _ (by decide) x.tid_lt
  | middle pos hpos h hnext ih =>
    rw [tail_middle h, List.mem_cons] at hf
    rcases hf with rfl | hf
    · exact key_middle x b pos
    · exact ih hf

lemma key_of_mem_frames (hf : f ∈ x.frames b) : f.key = x.key := by
  by_cases h : x.Long b
  · rw [frames_of_long h, List.mem_cons] at hf
    rcases hf with rfl | hf
    · exact key_start x b
    · exact key_of_mem_tail (start_lt h) hf
  · rw [frames_of_not_long h, List.mem_singleton] at hf
    exact hf ▸ key_flags _ _ (by decide) x.tid_lt

/-! ### Receiving the frames of a transfer -/

section Receive

variable {t : CanTransport}

/-- The receiver reads the start frame as it was written; whether it takes the transfer depends on
its slots alone. -/
lemma tryReceive_start (h : x.Long b) :
    t.tryReceive c (x.start b) =
      (match find t.reassembly x.key with
        | some (existing, _) =>
          (t.noteSequenceEvent .duplicateStart).rxErrorForSlot existing .deserializationFailed
        | none =>
          match free t.reassembly with
          | none => t.rxError .deserializationFailed
          | some slot =>
            { t with
              reassembly := Function.update t.reassembly slot
                (some (x.key, x.upTo (b.maxCanData - 5))) }, none) := by
  have hfits : x.bytes.length ≤ 1024 := x.fits
  have hlt := start_lt h
  have htotal : (UInt16.ofNat x.bytes.length).toNat = x.bytes.length :=
    UInt16.toNat_ofNat_of_lt' (Nat.lt_of_le_of_lt hfits (by decide))
  rw [start, CanTransport.tryReceive_start c t x.tid_lt, CanTransport.receiveStart]
  -- the header is four bytes: the length and the checksum
  have hlen (u v : UInt16) (w : List UInt8) : ¬ (le16 u ++ le16 v ++ w).length < 4 := by
    simp only [List.length_append, length_le16]
    omega
  have h0 (u v : UInt16) (w : List UInt8) : window (le16 u ++ le16 v ++ w) 0 2 = le16 u := by
    simp [window]
  have h2 (u v : UInt16) (w : List UInt8) : window (le16 u ++ le16 v ++ w) 2 2 = le16 v := by
    simp [window]
  have h4 (u v : UInt16) (w : List UInt8) : (le16 u ++ le16 v ++ w).drop 4 = w := by
    simp [List.drop_append]
  have hok : ¬ (x.bytes.length = 0 ∨ reasmBuf < x.bytes.length ∨
      x.bytes.length < (x.bytes.take (b.maxCanData - 5)).length) := by
    simp only [reasmBuf, List.length_take]
    omega
  simp only [if_neg (hlen _ _ _), h0, h2, h4, u16_le16, htotal, if_neg hok]
  rfl

lemma start_accepted (h : x.Long b) (hk : ∀ r, ¬ Holds t.reassembly x.key r)
    {slot : Fin rxReassemblySlots} (hfree : free t.reassembly = some slot) :
    (t.tryReceive c (x.start b)).1.reassembly =
      Function.update t.reassembly slot (some (x.key, x.upTo (b.maxCanData - 5))) := by
  rw [tryReceive_start h, find_eq_none_iff.mpr hk, hfree]

/-- A start frame is not taken when a slot has its key, which is emptied, or when none is free. -/
lemma start_blocked (h : x.Long b) (hd : Distinct t.reassembly)
    (hb : (∃ r, Holds t.reassembly x.key r) ∨ free t.reassembly = none) (r : Reassembly) :
    ¬ Holds (t.tryReceive c (x.start b)).1.reassembly x.key r := by
  rw [tryReceive_start h]
  cases hf : find t.reassembly x.key with
  | some e =>
    obtain ⟨slot, r'⟩ := e
    exact fun hr => ((hd.holds_clear (find_eq_some hf)).mp hr).1 rfl
  | none =>
    have hk := find_eq_none_iff.mp hf
    rcases hb with ⟨r', hr'⟩ | hfree
    · exact absurd hr' (hk r')
    · rw [hfree]
      exact hk r

lemma start_output (h : x.Long b) : (t.tryReceive c (x.start b)).2 = none := by
  rw [tryReceive_start h]

variable {slot : Fin rxReassemblySlots} {pos : ℕ}

lemma fits_middle (h : b.maxCanData - 1 < x.bytes.length - pos) :
    CanTransport.Fits (x.upTo pos) false (window x.bytes pos (b.maxCanData - 1)) := by
  have hmax := b.eight_le
  have hlen : (window x.bytes pos (b.maxCanData - 1)).length = b.maxCanData - 1 :=
    length_window (by omega)
  refine ⟨?_, ?_⟩
  · rw [← List.length_pos_iff, hlen]
    omega
  · simp only [upTo, hlen, List.length_take, Bool.false_eq_true, if_false]
    omega

lemma tryReceive_middle :
    t.tryReceive c (x.middle b pos) =
      t.receiveContinuation c x.key false (window x.bytes pos (b.maxCanData - 1)) :=
  CanTransport.tryReceive_middle c t x.tid_lt _ _

lemma tryReceive_last :
    t.tryReceive c (x.last pos) = t.receiveContinuation c x.key true (x.bytes.drop pos) :=
  CanTransport.tryReceive_end c t x.tid_lt _ _

lemma middle_accepted (hd : Distinct t.reassembly)
    (hslot : t.reassembly slot = some (x.key, x.upTo pos))
    (h : b.maxCanData - 1 < x.bytes.length - pos) :
    (t.tryReceive c (x.middle b pos)).1.reassembly =
      Function.update t.reassembly slot (some (x.key, x.upTo (pos + (b.maxCanData - 1)))) := by
  rw [tryReceive_middle, CanTransport.receiveContinuation_fits (hd.find_eq hslot) (fits_middle h)]
  simp only [upTo, window, ← List.take_add, Bool.false_eq_true, if_false]

lemma middle_output : (t.tryReceive c (x.middle b pos)).2 = none := by
  rw [tryReceive_middle, Option.eq_none_iff_forall_ne_some]
  intro m hm
  cases (CanTransport.of_output_receiveContinuation hm).1

/-- The last frame completes the transfer: the checksum matches and the bytes are decoded. -/
lemma last_accepted (hd : Distinct t.reassembly)
    (hslot : t.reassembly slot = some (x.key, x.upTo pos)) (hpos : pos < x.bytes.length) :
    (t.tryReceive c (x.last pos)).1.reassembly = Function.update t.reassembly slot none ∧
      (t.tryReceive c (x.last pos)).2 = c.decode x.bytes := by
  have hfits : CanTransport.Fits (x.upTo pos) true (x.bytes.drop pos) := by
    refine ⟨?_, ?_⟩
    · simpa using hpos
    · simp only [upTo, if_true, List.length_take, List.length_drop]
      omega
  rw [tryReceive_last, CanTransport.receiveContinuation_fits (hd.find_eq hslot) hfits]
  simp only [if_true, CanTransport.reassembly_completeTransfer, Function.update_idem, true_and]
  simp only [upTo, List.take_append_drop, CanTransport.completeTransfer, and_self, if_true]
  cases c.decode x.bytes <;> rfl

end Receive

end Transfer

end Pipoco.Can
