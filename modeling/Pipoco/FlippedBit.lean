import Pipoco.KvAb

/-!
One flipped bit in one of two valid slots.

Whatever the bit is, the flipped slot is classified by the field it falls into. In a page the
checksum notices it, because every step of the checksum is a bijection; in the version, the lengths
and the checksums it is noticed as well; the reserved bytes are not read. Two fields are covered by
nothing: a slot with a flipped magic word counts as blank, and a flipped sequence number is
believed.
-/

namespace Pipoco.FlippedBit

open Bytes Kv

/-! ### The checksum -/

variable (crc : UInt16)

/-- **The checksum notices a flipped bit.** -/
lemma crc16Ccitt_flipBit_ne {data : List UInt8} {i : ℕ} (hi : i < data.length) (bit : Fin 8) :
    crc16Ccitt crc (flipBit data i bit) ≠ crc16Ccitt crc data := by
  induction data generalizing crc i with
  | nil => cases hi
  | cons b data ih =>
    cases i with
    | zero =>
      intro h
      have hbyte := crc16Ccitt_cons_injective crc data h
      have hnat := congrArg UInt8.toNat hbyte
      rw [UInt8.toNat_xor, toNat_mask] at hnat
      exact xor_two_pow_ne _ _ hnat
    | succ i => exact ih (crc16Byte crc b) (by simpa using hi)

/-! ### The flipped slot -/

variable (seq : UInt32)

def flip (s : Slot) (i : ℕ) (bit : Fin 8) : Slot :=
  ⟨flipBit s.bytes i bit, by rw [length_flipBit]; exact s.used⟩

/-- The sequence number with one bit flipped. -/
def flipSeq (k : ℕ) : UInt32 := UInt32.ofNat (seq.toNat ^^^ 2 ^ k)

section fields

variable {s : Slot} {i off : ℕ} {bit : Fin 8}

lemma rdU16_flip_of_outside (h : i < off ∨ off + 2 ≤ i) :
    rdU16 (flip s i bit).bytes off = rdU16 s.bytes off :=
  congrArg u16 (window_flipBit_of_outside s.bytes bit h)

lemma rdU32_flip_of_outside (h : i < off ∨ off + 4 ≤ i) :
    rdU32 (flip s i bit).bytes off = rdU32 s.bytes off :=
  congrArg u32 (window_flipBit_of_outside s.bytes bit h)

lemma rdU16_flip_ne (off : ℕ) (hoff : off + 2 ≤ slotUsedLen) (h₁ : off ≤ i) (h₂ : i < off + 2) :
    rdU16 (flip s i bit).bytes off ≠ rdU16 s.bytes off := by
  have hlen := length_window (hoff.trans s.used)
  show u16 (window (flipBit s.bytes i bit) off 2) ≠ u16 (window s.bytes off 2)
  rw [window_flipBit_of_inside s.bytes bit h₁]
  exact u16_flipBit_ne hlen (by omega) bit

lemma rdU32_flip (hoff : off + 4 ≤ slotUsedLen) (h₁ : off ≤ i) (h₂ : i < off + 4) :
    rdU32 (flip s i bit).bytes off = flipSeq (rdU32 s.bytes off) (8 * (i - off) + bit.val) := by
  have hlen := length_window (hoff.trans s.used)
  have hnat := toNat_u32_flipBit hlen (i := i - off) (by omega) bit
  rw [← window_flipBit_of_inside s.bytes bit h₁] at hnat
  rw [flipSeq, rdU32, ← UInt32.ofNat_toNat (x := u32 _)]
  exact congrArg UInt32.ofNat hnat

lemma flipSeq_ne {k : ℕ} (hk : k < 32) : flipSeq seq k ≠ seq := by
  intro h
  have hnat := congrArg UInt32.toNat h
  have hlt : seq.toNat ^^^ 2 ^ k < 2 ^ 32 :=
    Nat.xor_lt_two_pow seq.toNat_lt (Nat.pow_lt_pow_right (by decide) hk)
  rw [flipSeq, UInt32.toNat_ofNat_of_lt' hlt] at hnat
  exact xor_two_pow_ne _ _ hnat

/-- A page with a flipped bit does not have its checksum any more. -/
lemma crc_flip_ne {len : ℕ} (hoff : off + len ≤ slotUsedLen) (h₁ : off ≤ i) (h₂ : i < off + len) :
    crc16Ccitt 0xFFFF (window (flip s i bit).bytes off len) ≠
      crc16Ccitt 0xFFFF (window s.bytes off len) := by
  have hlen := length_window (hoff.trans s.used)
  show crc16Ccitt 0xFFFF (window (flipBit s.bytes i bit) off len) ≠ _
  rw [window_flipBit_of_inside s.bytes bit h₁]
  exact crc16Ccitt_flipBit_ne _ (by omega) bit

end fields

/-- A slot that is too damaged to be valid but still has its magic word is corrupt. -/
lemma classifySlot_eq_corrupt {s : Slot} (hmagic : rdU32 s.bytes 0 = magic)
    (h : ¬ (rdU16 s.bytes 4 = version ∧ lensMatch s.bytes ∧ crcsMatch s.bytes)) :
    classifySlot s.bytes = .corrupt := by
  rw [classifySlot, if_neg (not_lt.mpr s.used), if_neg (not_not.mpr hmagic)]
  by_cases hv : rdU16 s.bytes 4 = version
  · by_cases hl : lensMatch s.bytes
    · have hc : ¬ crcsMatch s.bytes := fun hc => h ⟨hv, hl, hc⟩
      simp [hv, hl, hc]
    · simp [hv, hl]
  · simp [hv]

/-- What becomes of a valid slot, by the field that the flipped bit is in. -/
def flipped (i : ℕ) (bit : Fin 8) : SlotState :=
  if i < 4 then .blank
  else if i < 6 then .corrupt
  else if i < 8 then .valid seq
  else if i < 12 then .valid (flipSeq seq (8 * (i - 8) + bit.val))
  else .corrupt

section classify

variable {s : Slot} {seq : UInt32} {i : ℕ} {bit : Fin 8}

lemma window_flip_of_outside {off len : ℕ} (h : i < off ∨ off + len ≤ i) :
    window (flip s i bit).bytes off len = window s.bytes off len :=
  window_flipBit_of_outside s.bytes bit h

lemma not_lensMatch_flip (h : lensMatch s.bytes) (h₁ : 12 ≤ i) (h₂ : i < 18) :
    ¬ lensMatch (flip s i bit).bytes := by
  rintro ⟨hf, hg, ha⟩
  have hfield : i < 14 ∨ (14 ≤ i ∧ i < 16) ∨ 16 ≤ i := by omega
  rcases hfield with hi | hi | hi
  · exact rdU16_flip_ne 12 (by decide) h₁ hi (UInt16.toNat_inj.mp (hf.trans h.1.symm))
  · exact rdU16_flip_ne 14 (by decide) hi.1 hi.2
      (UInt16.toNat_inj.mp (hg.trans h.2.1.symm))
  · exact rdU16_flip_ne 16 (by decide) hi h₂
      (UInt16.toNat_inj.mp (ha.trans h.2.2.symm))

lemma crc_ne_flip {off len field : ℕ} (hoff : off + len ≤ slotUsedLen) (hfield : field + 2 ≤ off)
    (h : crc16Ccitt 0xFFFF (window s.bytes off len) = rdU16 s.bytes field)
    (hi : (field ≤ i ∧ i < field + 2) ∨ (off ≤ i ∧ i < off + len)) :
    crc16Ccitt 0xFFFF (window (flip s i bit).bytes off len) ≠
      rdU16 (flip s i bit).bytes field := by
  rcases hi with hi | hi
  · rw [window_flip_of_outside (.inl (by omega)), h]
    exact (rdU16_flip_ne field (by omega) hi.1 hi.2).symm
  · rw [rdU16_flip_of_outside (.inr (by omega)), ← h]
    exact crc_flip_ne hoff hi.1 hi.2

lemma not_crcsMatch_flip (h : crcsMatch s.bytes) (h₁ : 18 ≤ i) (h₂ : i < slotUsedLen) :
    ¬ crcsMatch (flip s i bit).bytes := by
  rintro ⟨hf, hg, ha⟩
  have hused : i < 1116 := h₂
  have hfield : (18 ≤ i ∧ i < 20 ∨ 24 ≤ i ∧ i < 24 + 512) ∨
      (20 ≤ i ∧ i < 22 ∨ 536 ≤ i ∧ i < 536 + 512) ∨
      (22 ≤ i ∧ i < 24 ∨ 1048 ≤ i ∧ i < 1048 + 68) := by omega
  rcases hfield with hi | hi | hi
  · exact crc_ne_flip (by decide) (by decide) h.1 hi hf
  · exact crc_ne_flip (by decide) (by decide) h.2.1 hi hg
  · exact crc_ne_flip (by decide) (by decide) h.2.2 hi ha

lemma lensMatch_flip (h : lensMatch s.bytes) (hi : i < 12) : lensMatch (flip s i bit).bytes := by
  unfold lensMatch
  rw [rdU16_flip_of_outside (.inl hi), rdU16_flip_of_outside (.inl (by omega)),
    rdU16_flip_of_outside (.inl (by omega))]
  exact h

lemma crcsMatch_flip (h : crcsMatch s.bytes) (hi : i < 18) : crcsMatch (flip s i bit).bytes := by
  have hpage : ∀ k : PageKey, window (flip s i bit).bytes k.slotOffset k.len =
      window s.bytes k.slotOffset k.len := fun k => by
    have hoff : 24 ≤ k.slotOffset := by cases k <;> decide
    exact window_flip_of_outside (.inl (by omega))
  unfold crcsMatch
  rw [rdU16_flip_of_outside (.inl hi), rdU16_flip_of_outside (.inl (by omega)),
    rdU16_flip_of_outside (.inl (by omega))]
  have hf := hpage .fuel
  have hg := hpage .ign
  have ha := hpage .angles
  simp only [PageKey.len] at hf hg ha
  rw [hf, hg, ha]
  exact h

lemma classifySlot_flip (h : classifySlot s.bytes = .valid seq) (hi : i < slotUsedLen) :
    classifySlot (flip s i bit).bytes = flipped seq i bit := by
  obtain ⟨hm, hv, hl, hc, hseq⟩ := (classifySlot_eq_valid_iff s.used seq).mp h
  have hm' : ¬ i < 4 → rdU32 (flip s i bit).bytes 0 = magic := fun h4 => by
    rw [rdU32_flip_of_outside (.inr (by omega)), hm]
  unfold flipped
  split_ifs with h4 h6 h8 h12
  · have hne : rdU32 (flip s i bit).bytes 0 ≠ magic := by
      rw [rdU32_flip (by decide) (Nat.zero_le i) (by omega), hm]
      exact flipSeq_ne magic (by omega)
    rw [classifySlot, if_neg (not_lt.mpr (flip s i bit).used), if_pos hne]
  · refine classifySlot_eq_corrupt (hm' h4) fun hall => ?_
    exact rdU16_flip_ne 4 (by decide) (by omega) h6 (hall.1.trans hv.symm)
  · refine (classifySlot_eq_valid_iff (flip s i bit).used seq).mpr ⟨hm' h4, ?_,
      lensMatch_flip hl (by omega), crcsMatch_flip hc (by omega), ?_⟩
    · rw [rdU16_flip_of_outside (.inr (by omega)), hv]
    · rw [rdU32_flip_of_outside (.inl h8), hseq]
  · refine (classifySlot_eq_valid_iff (flip s i bit).used _).mpr ⟨hm' h4, ?_,
      lensMatch_flip hl h12, crcsMatch_flip hc (by omega), ?_⟩
    · rw [rdU16_flip_of_outside (.inr (by omega)), hv]
    · rw [rdU32_flip (by decide) (by omega) h12, hseq]
  · refine classifySlot_eq_corrupt (hm' h4) fun hall => ?_
    by_cases h18 : i < 18
    · exact not_lensMatch_flip hl (by omega) h18 hall.2.1
    · exact not_crcsMatch_flip hc (by omega) hi hall.2.2

end classify

/-! ### The scan -/

/-- The scan says that something is wrong. -/
def Reported : BootScan → Prop
  | .blank => False
  | .corrupt => True
  | .valid _ _ sawCorrupt => sawCorrupt = true

lemma reported_iff (s : Pair) :
    Reported s.scan ↔
      classifySlot (s 0).bytes = .corrupt ∨ classifySlot (s 1).bytes = .corrupt := by
  unfold Pair.scan scan
  cases classifySlot (s 0).bytes with
  | valid v =>
    cases classifySlot (s 1).bytes with
    | valid w => by_cases h : v ≤ w <;> simp [scanOne, decideScan, Reported, h]
    | _ => simp [scanOne, decideScan, Reported]
  | _ => cases classifySlot (s 1).bytes <;> simp [scanOne, decideScan, Reported]

/-- The pair with one bit of one slot flipped. -/
def flipIn (s : Pair) (t : Fin 2) (i : ℕ) (bit : Fin 8) : Pair :=
  Function.update s t (flip (s t) i bit)

/-- The scan selects the slot with the newer contents, and its pages are intact. -/
structure Kept (s s' : Pair) (newer : Fin 2) : Prop where
  selected : ∃ seq, Selects s'.scan newer seq
  pages : ∀ k : PageKey, window (s' newer).bytes k.slotOffset k.len =
    window (s newer).bytes k.slotOffset k.len

/-- After a flip in the sequence number of slot `t`, the number of the newer slot still wins. -/
def StaysAhead (newer t : Fin 2) (k : ℕ) (old new : UInt32) : Prop :=
  if t = newer then Beats newer (flipSeq new k) old else Beats newer new (flipSeq old k)

lemma beats_of_lt {t : Fin 2} {x y : UInt32} (h : y < x) : Beats t x y := by
  unfold Beats
  split
  · exact UInt32.le_of_lt h
  · exact h

section pair

variable {s : Pair} {newer t : Fin 2} {old new : UInt32} {i : ℕ} {bit : Fin 8}

/-- What is selected after the flip, slot by slot. -/
lemma selects_newer_iff {x y : SlotState} (hx : classifySlot (s newer).bytes = x)
    (hy : classifySlot (s (1 - newer)).bytes = y) (seq : UInt32) :
    Selects s.scan newer seq ↔ x.seq? = some seq ∧ ∀ z, y.seq? = some z → Beats newer seq z := by
  rw [selects_iff, Slot.seq?, Slot.seq?, hx, hy]

lemma reported_iff_of_states {x y : SlotState} (hx : classifySlot (s newer).bytes = x)
    (hy : classifySlot (s (1 - newer)).bytes = y) :
    Reported s.scan ↔ x = .corrupt ∨ y = .corrupt := by
  rw [reported_iff]
  have hslot : newer = 0 ∨ newer = 1 := by omega
  rcases hslot with rfl | rfl
  · rw [hx, show (1 : Fin 2) = 1 - 0 from rfl, hy]
  · rw [hx, show (0 : Fin 2) = 1 - 1 from rfl, hy, or_comm]

/-- The pages of the newer slot change only by a bit in them. -/
lemma pages_flipIn (h : t ≠ newer ∨ i < 24) (k : PageKey) :
    window (flipIn s t i bit newer).bytes k.slotOffset k.len =
      window (s newer).bytes k.slotOffset k.len := by
  have hoff : 24 ≤ k.slotOffset := by cases k <;> decide
  by_cases ht : newer = t
  · subst ht
    rw [flipIn, Function.update_self]
    exact window_flip_of_outside (.inl (by omega))
  · rw [flipIn, Function.update_of_ne ht]

lemma states_flipIn (t : Fin 2) (bit : Fin 8) (hnew : classifySlot (s newer).bytes = .valid new)
    (hold : classifySlot (s (1 - newer)).bytes = .valid old) (hi : i < slotUsedLen) :
    classifySlot (flipIn s t i bit newer).bytes =
        (if t = newer then flipped new i bit else .valid new) ∧
      classifySlot (flipIn s t i bit (1 - newer)).bytes =
        if t = newer then .valid old else flipped old i bit := by
  have hne : 1 - newer ≠ newer := (ne_other newer).symm
  by_cases ht : t = newer
  · subst ht
    rw [if_pos rfl, if_pos rfl, flipIn, Function.update_self, Function.update_of_ne hne]
    exact ⟨classifySlot_flip hnew hi, hold⟩
  · obtain rfl : t = 1 - newer := by omega
    rw [if_neg ht, if_neg ht, flipIn, Function.update_self, Function.update_of_ne (Ne.symm hne)]
    exact ⟨hnew, classifySlot_flip hold hi⟩

/-- **One flipped bit.** The newer contents stay selected and intact, or the damage is reported,
unless the bit is in the magic word of the newer slot, or in a sequence number that then puts the
older slot ahead. -/
theorem flip_kept_or_reported_iff (hnew : classifySlot (s newer).bytes = .valid new)
    (hold : classifySlot (s (1 - newer)).bytes = .valid old) (hlt : old < new)
    (hi : i < slotUsedLen) :
    (Kept s (flipIn s t i bit) newer ∨ Reported (flipIn s t i bit).scan) ↔
      (i < 4 → t ≠ newer) ∧
        (8 ≤ i → i < 12 → StaysAhead newer t (8 * (i - 8) + bit.val) old new) := by
  obtain ⟨hx, hy⟩ := states_flipIn t bit hnew hold hi
  have hahead : Beats newer new old := beats_of_lt hlt
  have hpages : t ≠ newer ∨ i < 24 → ∀ k : PageKey,
      window (flipIn s t i bit newer).bytes k.slotOffset k.len =
        window (s newer).bytes k.slotOffset k.len := fun h => pages_flipIn h
  have hkept : Kept s (flipIn s t i bit) newer ↔
      (∃ seq, Selects (flipIn s t i bit).scan newer seq) ∧
        ∀ k : PageKey, window (flipIn s t i bit newer).bytes k.slotOffset k.len =
          window (s newer).bytes k.slotOffset k.len :=
    ⟨fun h => ⟨h.selected, h.pages⟩, fun h => ⟨h.1, h.2⟩⟩
  rw [hkept, reported_iff_of_states hx hy]
  simp only [selects_newer_iff hx hy]
  by_cases ht : t = newer
  · simp only [if_pos ht, flipped, StaysAhead]
    split_ifs with h4 h6 h8 h12
    · -- the newer slot counts as blank
      exact iff_of_false (by simp [SlotState.seq?]) fun h => h.1 h4 ht
    · exact iff_of_true (.inr (.inl rfl)) ⟨fun h => absurd h h4, fun h => absurd h (by omega)⟩
    · refine iff_of_true (.inl ⟨⟨new, rfl, fun z hz => ?_⟩, hpages (.inr (by omega))⟩)
        ⟨fun h => absurd h h4, fun h => absurd h h8.not_ge⟩
      exact Option.some.inj hz ▸ hahead
    · constructor
      · rintro (⟨⟨seq, hseq, hbeats⟩, -⟩ | hcorrupt | hcorrupt)
        · refine ⟨fun h => absurd h h4, fun _ _ => ?_⟩
          exact Option.some.inj hseq ▸ hbeats old rfl
        · cases hcorrupt
        · cases hcorrupt
      · intro h
        refine .inl ⟨⟨_, rfl, fun z hz => ?_⟩, hpages (.inr (by omega))⟩
        exact Option.some.inj hz ▸ h.2 (by omega) h12
    · exact iff_of_true (.inr (.inl rfl))
        ⟨fun h => absurd h h4, fun _ h => absurd h h12⟩
  · simp only [if_neg ht, flipped, StaysAhead]
    split_ifs with h4 h6 h8 h12
    · refine iff_of_true (.inl ⟨⟨new, rfl, fun z hz => ?_⟩, hpages (.inl ht)⟩)
        ⟨fun _ => ht, fun h => absurd h (by omega)⟩
      cases hz
    · exact iff_of_true (.inr (.inr rfl)) ⟨fun _ => ht, fun h => absurd h (by omega)⟩
    · refine iff_of_true (.inl ⟨⟨new, rfl, fun z hz => ?_⟩, hpages (.inl ht)⟩)
        ⟨fun _ => ht, fun h => absurd h h8.not_ge⟩
      exact Option.some.inj hz ▸ hahead
    · constructor
      · rintro (⟨⟨seq, hseq, hbeats⟩, -⟩ | hcorrupt | hcorrupt)
        · refine ⟨fun _ => ht, fun _ _ => ?_⟩
          exact Option.some.inj hseq ▸ hbeats _ rfl
        · cases hcorrupt
        · cases hcorrupt
      · intro h
        refine .inl ⟨⟨new, rfl, fun z hz => ?_⟩, hpages (.inl ht)⟩
        exact Option.some.inj hz ▸ h.2 (by omega) h12
    · exact iff_of_true (.inr (.inr rfl)) ⟨fun _ => ht, fun _ h => absurd h h12⟩

end pair

/-! ### Bits of two slots -/

/-- Two slots of the least size, the second one newer. -/
def twoSlots : Pair := fun t =>
  Slot.blank.written { SlotContents.zeroed with seq := if t.val = 0 then 1 else 2 }

lemma classify_twoSlots (t : Fin 2) :
    classifySlot (twoSlots t).bytes = .valid (if t.val = 0 then 1 else 2) := Slot.classify_written _ _

/-- A bit in a page of the newer slot is reported. -/
theorem flip_kept_or_reported_page :
    Kept twoSlots (flipIn twoSlots 1 24 0) 1 ∨ Reported (flipIn twoSlots 1 24 0).scan :=
  (flip_kept_or_reported_iff (classify_twoSlots 1) (classify_twoSlots 0) (by decide)
    (by decide)).mpr ⟨fun h => absurd h (by decide), fun _ h => absurd h (by decide)⟩

/-- A bit of the magic word of the newer slot leaves the older tune selected without a word, and so
does the bit that takes its number from two to zero. -/
theorem flip_rolls_back :
    twoSlots.scan = .valid 1 2 false ∧
    (flipIn twoSlots 1 0 0).scan = .valid 0 1 false ∧
    (flipIn twoSlots 1 8 1).scan = .valid 0 1 false ∧
    ¬ (Kept twoSlots (flipIn twoSlots 1 0 0) 1 ∨ Reported (flipIn twoSlots 1 0 0).scan) := by
  have hold : classifySlot (twoSlots 0).bytes = .valid 1 := classify_twoSlots 0
  have hnew : classifySlot (twoSlots 1).bytes = .valid 2 := classify_twoSlots 1
  have hscan : ∀ (i : ℕ) (bit : Fin 8), i < slotUsedLen → (flipIn twoSlots 1 i bit).scan =
      decideScan ([(0, .valid 1), (1, flipped 2 i bit)].foldl scanOne ⟨none, false, false⟩) := by
    intro i bit hi
    obtain ⟨hx, hy⟩ := states_flipIn 1 bit hnew hold hi
    rw [Pair.scan, scan, hx]
    exact congrArg (fun x => decideScan
      ([(0, x), (1, flipped 2 i bit)].foldl scanOne ⟨none, false, false⟩)) hy
  have hmagic : (flipIn twoSlots 1 0 0).scan = .valid 0 1 false := by
    rw [hscan 0 0 (by decide)]
    rfl
  have hseq : (flipIn twoSlots 1 8 1).scan = .valid 0 1 false := by
    rw [hscan 8 1 (by decide)]
    decide
  refine ⟨?_, hmagic, hseq, ?_⟩
  · rw [Pair.scan, scan, hold, hnew]
    decide
  · rw [hmagic]
    rintro (hkept | hreported)
    · obtain ⟨seq, saw, hsel⟩ := hkept.selected
      rw [hmagic] at hsel
      cases hsel
    · cases hreported

end Pipoco.FlippedBit
