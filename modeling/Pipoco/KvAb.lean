import Mathlib.Data.Nat.Bitwise
import Mathlib.Data.Vector.Basic
import Pipoco.Bytes
import Pipoco.Runs

/-!
The two-slot page store.

A slot is a header of twenty-four bytes followed by the fuel, ign and angles pages. The header
carries a magic word, a version, the sequence number of the commit, the lengths of the pages and
one checksum for each. A scan classifies both slots and selects the valid one with the highest
sequence number; a commit goes into the other slot with the next number.

The number is 32 bits wide and is compared as a plain number. So every commit is selected
afterwards except the one that follows the number `0xFFFFFFFF`: it is stamped `0`, the scan stays
with the old slot, and it does so for every commit after that one.
-/

namespace Pipoco.Kv

open Bytes Runs

/-! ### Layout -/

def magic : UInt32 := 0x4950574B
def version : UInt16 := 3

def fuelPageLen : ℕ := 512
def ignPageLen : ℕ := 512
def anglesPageLen : ℕ := 68

def slotHeaderLen : ℕ := 24
def payloadLen : ℕ := fuelPageLen + ignPageLen + anglesPageLen
def slotUsedLen : ℕ := slotHeaderLen + payloadLen

inductive KvError
  | notFound | noSpace | io | engineRunning
  deriving DecidableEq, Repr

inductive PageKey
  | fuel
  | ign
  | angles
  deriving DecidableEq, Repr

open PageKey

namespace PageKey

def len : PageKey → ℕ
  | fuel => fuelPageLen
  | ign => ignPageLen
  | angles => anglesPageLen

/-- The bytes of the key: `fuel`, `ign` and `angles`. -/
def bytes : PageKey → List UInt8
  | fuel => [0x66, 0x75, 0x65, 0x6C]
  | ign => [0x69, 0x67, 0x6E]
  | angles => [0x61, 0x6E, 0x67, 0x6C, 0x65, 0x73]

def fromKey (key : List UInt8) : Option PageKey :=
  if key = fuel.bytes then some fuel
  else if key = ign.bytes then some ign
  else if key = angles.bytes then some angles
  else none

@[simp] lemma fromKey_bytes (k : PageKey) : fromKey k.bytes = some k := by
  cases k <;> rfl

/-- Where the page starts in a slot. -/
def slotOffset : PageKey → ℕ
  | fuel => slotHeaderLen
  | ign => slotHeaderLen + fuelPageLen
  | angles => slotHeaderLen + fuelPageLen + ignPageLen

end PageKey

abbrev Page (n : ℕ) := List.Vector UInt8 n

structure SlotContents where
  seq : UInt32
  fuel : Page fuelPageLen
  ign : Page ignPageLen
  angles : Page anglesPageLen

def SlotContents.zeroed : SlotContents := ⟨0, .replicate _ 0, .replicate _ 0, .replicate _ 0⟩

variable (c : SlotContents)

def SlotContents.page : PageKey → List UInt8
  | .fuel => c.fuel.toList
  | .ign => c.ign.toList
  | .angles => c.angles.toList

@[simp] lemma SlotContents.length_page (k : PageKey) : (c.page k).length = k.len := by
  cases k <;> exact List.Vector.toList_length _

/-- Outcome of scanning both slots at boot. -/
inductive BootScan
  | blank
  | corrupt
  | valid (slot : Fin 2) (seq : UInt32) (sawCorrupt : Bool)
  deriving DecidableEq, Repr

/-! ### Checksum and serialization -/

variable (buf : List UInt8) (crc : UInt16) (off : ℕ)

def crc16Shift : UInt16 := if crc &&& 0x8000 ≠ 0 then (crc <<< 1) ^^^ 0x1021 else crc <<< 1

def crc16Byte (b : UInt8) : UInt16 := crc16Shift^[8] (crc ^^^ (b.toUInt16 <<< 8))

def crc16Ccitt (data : List UInt8) : UInt16 := data.foldl crc16Byte crc

def rdU16 : UInt16 := u16 (window buf off 2)

def rdU32 : UInt32 := u32 (window buf off 4)

/-- What is copied into a slot, in the order of the copies. -/
def slotBlocks : List (ℕ × List UInt8) :=
  [(0, le32 magic), (4, le16 version), (6, le16 0), (8, le32 c.seq),
    (12, le16 (.ofNat fuelPageLen)), (14, le16 (.ofNat ignPageLen)),
    (16, le16 (.ofNat anglesPageLen)),
    (18, le16 (crc16Ccitt 0xFFFF (c.page .fuel))), (20, le16 (crc16Ccitt 0xFFFF (c.page .ign))),
    (22, le16 (crc16Ccitt 0xFFFF (c.page .angles))),
    (fuel.slotOffset, c.page .fuel), (ign.slotOffset, c.page .ign),
    (angles.slotOffset, c.page .angles)]

/-- The buffer after serialization and the number of bytes written. -/
def serializeSlot (out : List UInt8) : List UInt8 × ℕ :=
  if out.length < slotUsedLen then (out, 0) else (putAll out (slotBlocks c), slotUsedLen)

/-! ### Scanning -/

variable (slot : List UInt8)

inductive SlotState
  | blank
  | corrupt
  | valid (seq : UInt32)
  deriving DecidableEq, Repr

def lensMatch : Prop :=
  (rdU16 slot 12).toNat = fuelPageLen ∧ (rdU16 slot 14).toNat = ignPageLen ∧
    (rdU16 slot 16).toNat = anglesPageLen
  deriving Decidable

def crcsMatch : Prop :=
  crc16Ccitt 0xFFFF (window slot fuel.slotOffset fuelPageLen) = rdU16 slot 18 ∧
    crc16Ccitt 0xFFFF (window slot ign.slotOffset ignPageLen) = rdU16 slot 20 ∧
    crc16Ccitt 0xFFFF (window slot angles.slotOffset anglesPageLen) = rdU16 slot 22
  deriving Decidable

def classifySlot : SlotState :=
  if slot.length < slotUsedLen then .corrupt
  else if rdU32 slot 0 ≠ magic then .blank
  else if rdU16 slot 4 ≠ version then .corrupt
  else if ¬ lensMatch slot then .corrupt
  else if ¬ crcsMatch slot then .corrupt
  else .valid (rdU32 slot 8)

/-- What the scan remembers between two slots. -/
structure ScanState where
  best : Option (Fin 2 × UInt32)
  (sawCorrupt sawMagic : Bool)

variable (acc : ScanState)

def scanOne (entry : Fin 2 × SlotState) : ScanState :=
  match entry.2 with
  | .blank => acc
  | .corrupt => { acc with sawCorrupt := true, sawMagic := true }
  | .valid seq =>
    let take := match acc.best with
      | none => true
      -- equal numbers prefer the slot scanned later
      | some (_, bestSeq) => decide (bestSeq ≤ seq)
    { acc with sawMagic := true, best := if take then some (entry.1, seq) else acc.best }

def decideScan : BootScan :=
  match acc.best with
  | some (slot, seq) => .valid slot seq acc.sawCorrupt
  | none => if acc.sawCorrupt || acc.sawMagic then .corrupt else .blank

def scan (slotA slotB : List UInt8) : BootScan :=
  decideScan ([(0, classifySlot slotA), (1, classifySlot slotB)].foldl scanOne ⟨none, false, false⟩)

/-- The number of bytes read and the buffer they were copied into. -/
def readKey (key out : List UInt8) : Option (ℕ × List UInt8) :=
  if slot.length < slotUsedLen then none
  else match fromKey key with
    | none => none
    | some k =>
      if out.length < k.len then none
      else some (k.len, put out 0 (window slot k.slotOffset k.len))

/-- The slot a write goes to: the one that is not selected, slot A if none is. -/
def writeTarget : BootScan → Fin 2
  | .valid slot _ _ => 1 - slot
  | _ => 0

def nextSeq : BootScan → UInt32
  | .valid _ seq _ => seq + 1
  | _ => 1

/-! ### What a serialized slot reads as -/

variable {out : List UInt8}

lemma layout_slotBlocks {n : ℕ} (h : slotUsedLen ≤ n) : Layout n (slotBlocks c) := by
  have hn : 1116 ≤ n := h
  refine Ascends.layout ?_
  simp only [slotBlocks, Ascends, length_le16, length_le32, c.length_page, slotOffset,
    len, slotHeaderLen, fuelPageLen, ignPageLen, anglesPageLen]
  omega

lemma serializeSlot_of_le (h : slotUsedLen ≤ out.length) :
    serializeSlot c out = (putAll out (slotBlocks c), slotUsedLen) := by
  rw [serializeSlot, if_neg (by omega)]

lemma classifySlot_eq_valid_iff {slot : List UInt8} (h : slotUsedLen ≤ slot.length) (seq : UInt32) :
    classifySlot slot = .valid seq ↔
      rdU32 slot 0 = magic ∧ rdU16 slot 4 = version ∧ lensMatch slot ∧ crcsMatch slot ∧
        rdU32 slot 8 = seq := by
  have hlen : ¬ slot.length < slotUsedLen := by omega
  unfold classifySlot
  rw [if_neg hlen]
  by_cases hm : rdU32 slot 0 = magic
  · by_cases hv : rdU16 slot 4 = version
    · by_cases hl : lensMatch slot
      · by_cases hc : crcsMatch slot <;> simp [hm, hv, hl, hc]
      · simp [hm, hv, hl]
    · simp [hm, hv]
  · simp [hm]

lemma classifySlot_congr {s s' : List UInt8} (hs : slotUsedLen ≤ s.length)
    (hs' : slotUsedLen ≤ s'.length)
    (h : ∀ off len, off + len ≤ slotUsedLen → window s off len = window s' off len) :
    classifySlot s = classifySlot s' := by
  have h16 : ∀ off, off + 2 ≤ slotUsedLen → rdU16 s off = rdU16 s' off :=
    fun off hoff => congrArg u16 (h off 2 hoff)
  have h32 : ∀ off, off + 4 ≤ slotUsedLen → rdU32 s off = rdU32 s' off :=
    fun off hoff => congrArg u32 (h off 4 hoff)
  have hlens : lensMatch s ↔ lensMatch s' := by
    unfold lensMatch
    rw [h16 12 (by decide), h16 14 (by decide), h16 16 (by decide)]
  have hcrcs : crcsMatch s ↔ crcsMatch s' := by
    unfold crcsMatch
    rw [h _ fuelPageLen (by decide), h _ ignPageLen (by decide), h _ anglesPageLen (by decide),
      h16 18 (by decide), h16 20 (by decide), h16 22 (by decide)]
  unfold classifySlot
  rw [if_neg (not_lt.mpr hs), if_neg (not_lt.mpr hs'), h32 0 (by decide), h16 4 (by decide),
    h32 8 (by decide)]
  simp only [hlens, hcrcs]

lemma classifySlot_erased {n : ℕ} (h : slotUsedLen ≤ n) :
    classifySlot (List.replicate n 0xFF) = .blank := by
  have hlen : ¬ (List.replicate n (0xFF : UInt8)).length < slotUsedLen := by
    rw [List.length_replicate]
    omega
  have hmagic : rdU32 (List.replicate n 0xFF) 0 ≠ magic := by
    have hfour : 0 + 4 ≤ slotUsedLen := by decide
    rw [rdU32, window_replicate _ (by omega)]
    decide
  rw [classifySlot, if_neg hlen, if_pos hmagic]

lemma window_page_serialized (h : slotUsedLen ≤ out.length) (k : PageKey) :
    window (putAll out (slotBlocks c)) k.slotOffset k.len = c.page k := by
  have hmem : (k.slotOffset, c.page k) ∈ slotBlocks c := by
    cases k <;> simp [slotBlocks]
  exact window_putAll_of_length (layout_slotBlocks c h) hmem (c.length_page k)

lemma classifySlot_serialized (h : slotUsedLen ≤ out.length) :
    classifySlot (putAll out (slotBlocks c)) = .valid c.seq := by
  have hl := layout_slotBlocks c h
  have hpage := window_page_serialized c h
  rw [classifySlot_eq_valid_iff (by rwa [length_putAll])]
  refine ⟨u32_putAll hl 0 rfl, u16_putAll hl 1 rfl, ⟨?_, ?_, ?_⟩, ⟨?_, ?_, ?_⟩, u32_putAll hl 3 rfl⟩
  · exact congrArg UInt16.toNat (u16_putAll hl 4 rfl)
  · exact congrArg UInt16.toNat (u16_putAll hl 5 rfl)
  · exact congrArg UInt16.toNat (u16_putAll hl 6 rfl)
  · exact (congrArg _ (hpage .fuel)).trans (u16_putAll hl 7 rfl).symm
  · exact (congrArg _ (hpage .ign)).trans (u16_putAll hl 8 rfl).symm
  · exact (congrArg _ (hpage .angles)).trans (u16_putAll hl 9 rfl).symm

/-! ### The pair of slots -/

/-- The image of a slot, long enough for a header and the pages. -/
structure Slot where
  bytes : List UInt8
  used : slotUsedLen ≤ bytes.length

open Slot

abbrev Pair := Fin 2 → Slot

def Pair.scan (s : Pair) : BootScan := Kv.scan (s 0).bytes (s 1).bytes

variable (s : Slot)

def Slot.erased : List UInt8 := List.replicate s.bytes.length 0xFF

@[simp] lemma Slot.length_erased : s.erased.length = s.bytes.length := List.length_replicate

/-- The slot erased and programmed with the serialized contents. -/
def Slot.written (c : SlotContents) : Slot where
  bytes := (serializeSlot c s.erased).1
  used := by
    rw [serializeSlot_of_le c (by simpa using s.used), length_putAll, s.length_erased]
    exact s.used

lemma Slot.bytes_written (c : SlotContents) :
    (s.written c).bytes = putAll s.erased (slotBlocks c) := by
  simp only [written, serializeSlot_of_le c (by simpa using s.used : slotUsedLen ≤ s.erased.length)]

lemma Slot.classify_written (c : SlotContents) :
    classifySlot (s.written c).bytes = .valid c.seq := by
  rw [bytes_written]
  exact classifySlot_serialized c (by simpa using s.used)

lemma Slot.readKey_written (c : SlotContents) (k : PageKey) (h : k.len ≤ out.length) :
    readKey (s.written c).bytes k.bytes out = some (k.len, put out 0 (c.page k)) := by
  have hused : ¬ (s.written c).bytes.length < slotUsedLen := by
    have := (s.written c).used
    omega
  have hout : ¬ out.length < k.len := by omega
  simp only [readKey, hused, hout, if_false, fromKey_bytes]
  rw [bytes_written, window_page_serialized c (by simpa using s.used)]

variable (s : Pair)

/-- One commit: the new contents go into the slot that is not selected, with the next number. -/
def commit (c : SlotContents) : Pair :=
  Function.update s (writeTarget s.scan)
    ((s (writeTarget s.scan)).written { c with seq := nextSeq s.scan })

lemma ne_other : ∀ t : Fin 2, t ≠ 1 - t := by decide

variable (new : Slot)

/-- The pair with the slot a write goes to replaced. -/
def Pair.replaced : Pair := Function.update s (writeTarget s.scan) new

lemma Pair.replaced_target : s.replaced new (writeTarget s.scan) = new := Function.update_self ..

lemma Pair.replaced_other : s.replaced new (1 - writeTarget s.scan) = s (1 - writeTarget s.scan) :=
  Function.update_of_ne (ne_other _).symm _ _

/-! ### Selection -/

variable (slot : Fin 2) {r : BootScan}

/-- The scan selects this slot with this number, whatever it saw in the other one. -/
def Selects (r : BootScan) (slot : Fin 2) (seq : UInt32) : Prop := ∃ saw, r = .valid slot seq saw

def SlotState.seq? : SlotState → Option UInt32
  | .valid seq => some seq
  | _ => none

def Slot.seq? (s : Slot) : Option UInt32 := (classifySlot s.bytes).seq?

lemma Slot.seq?_written (s : Slot) (c : SlotContents) : (s.written c).seq? = some c.seq := by
  rw [seq?, classify_written]
  rfl

/-- A slot with number `x` is preferred to the other one with number `y`: on equal numbers the
slot scanned later. -/
def Beats (x y : UInt32) : Prop := if slot = 1 then y ≤ x else y < x

lemma selects_of_states (x y : SlotState) (slot : Fin 2) (seq : UInt32) :
    Selects (decideScan ([(0, x), (1, y)].foldl scanOne ⟨none, false, false⟩)) slot seq ↔
      if slot = 1 then y.seq? = some seq ∧ ∀ w, x.seq? = some w → w ≤ seq
      else x.seq? = some seq ∧ ∀ w, y.seq? = some w → w < seq := by
  have hslot : slot = 0 ∨ slot = 1 := by omega
  cases x with
  | valid v =>
    cases y with
    | valid w =>
      by_cases h : v ≤ w
      · have hlt : ¬ w < v := by rwa [UInt32.not_lt]
        rcases hslot with rfl | rfl <;>
          simp [Selects, scanOne, decideScan, SlotState.seq?, h]
        · rintro rfl
          exact h
        · rintro rfl
          exact h
      · have hlt : w < v := by rwa [← UInt32.not_le]
        rcases hslot with rfl | rfl <;>
          simp [Selects, scanOne, decideScan, SlotState.seq?, h]
        · rintro rfl
          exact hlt
        · rintro rfl
          exact hlt
    | _ => rcases hslot with rfl | rfl <;> simp [Selects, scanOne, decideScan, SlotState.seq?]
  | _ =>
    cases y <;> rcases hslot with rfl | rfl <;> simp [Selects, scanOne, decideScan, SlotState.seq?]

lemma selects_iff (seq : UInt32) :
    Selects s.scan slot seq ↔
      (s slot).seq? = some seq ∧ ∀ y, (s (1 - slot)).seq? = some y → Beats slot seq y := by
  have hslot : slot = 0 ∨ slot = 1 := by omega
  unfold Pair.scan scan
  rw [selects_of_states]
  rcases hslot with rfl | rfl
  · simp [seq?, Beats]
  · simp [seq?, Beats]

variable {s}

lemma seq?_of_not_selects (h : ∀ slot seq, ¬ Selects s.scan slot seq) (t : Fin 2) :
    (s t).seq? = none := by
  by_contra hne
  obtain ⟨x, hx⟩ := Option.ne_none_iff_exists'.mp hne
  cases hy : (s (1 - t)).seq? with
  | none => exact h t x ((selects_iff s t x).mpr ⟨hx, by simp [hy]⟩)
  | some y =>
    by_cases hb : Beats t x y
    · refine h t x ((selects_iff s t x).mpr ⟨hx, fun w hw => ?_⟩)
      obtain rfl : y = w := Option.some.inj (hy.symm.trans hw)
      exact hb
    · -- one of two numbers is preferred, by the order of the scan on equal ones
      have hother : Beats (1 - t) y x := by
        have ht : t = 0 ∨ t = 1 := by omega
        rcases ht with rfl | rfl
        · simpa [Beats] using hb
        · simpa [Beats] using hb
      refine h (1 - t) y ((selects_iff s (1 - t) y).mpr ⟨hy, fun w hw => ?_⟩)
      rw [sub_sub_cancel, hx] at hw
      cases hw
      exact hother

lemma not_selects_of_seq? (h : ∀ t, (s t).seq? = none) (slot : Fin 2) (seq : UInt32) :
    ¬ Selects s.scan slot seq := by
  intro hs
  have hseq := ((selects_iff s slot seq).mp hs).1
  rw [h] at hseq
  cases hseq

variable {slot}

lemma writeTarget_of_selects {seq : UInt32} (h : Selects r slot seq) :
    writeTarget r = 1 - slot ∧ nextSeq r = seq + 1 := by
  obtain ⟨saw, rfl⟩ := h
  exact ⟨rfl, rfl⟩

lemma writeTarget_of_not_selects (h : ∀ slot seq, ¬ Selects r slot seq) :
    writeTarget r = 0 ∧ nextSeq r = 1 := by
  cases r with
  | valid slot seq saw => exact absurd ⟨saw, rfl⟩ (h slot seq)
  | _ => exact ⟨rfl, rfl⟩

/-- The next number is preferred to the last one, on either side, unless it wraps. -/
lemma beats_succ_iff (t : Fin 2) (seq : UInt32) : Beats t (seq + 1) seq ↔ seq ≠ 0xFFFFFFFF := by
  have hadd : (seq + 1).toNat = (seq.toNat + 1) % 2 ^ 32 := UInt32.toNat_add seq 1
  have hlt : seq.toNat < 2 ^ 32 := seq.toNat_lt
  have hmax : seq = 0xFFFFFFFF ↔ seq.toNat = 2 ^ 32 - 1 := UInt32.toNat_inj.symm
  unfold Beats
  rw [Ne, hmax]
  split
  · rw [UInt32.le_iff_toNat_le, hadd]
    omega
  · rw [UInt32.lt_iff_toNat_lt, hadd]
    omega

/-! ### Commits -/

/-- A commit survives: the scan selects the slot it wrote, every page is read back from there, and
the other slot is as before. -/
structure Survives (s : Pair) (c : SlotContents) : Prop where
  selected : ∃ seq, Selects (commit s c).scan (writeTarget s.scan) seq
  read : ∀ (k : PageKey) (out : List UInt8), k.len ≤ out.length →
    readKey (commit s c (writeTarget s.scan)).bytes k.bytes out = some (k.len, put out 0 (c.page k))
  other : commit s c (1 - writeTarget s.scan) = s (1 - writeTarget s.scan)

/-- The selected slot carries the last number there is. -/
def AtLastSeq (s : Pair) : Prop := ∃ slot, Selects s.scan slot 0xFFFFFFFF

/-- What a commit leads to depends only on the number it follows. -/
lemma selects_replaced_iff {new : Slot} (hnew : new.seq? = some (nextSeq s.scan)) (seq : UInt32) :
    Selects (s.replaced new).scan (writeTarget s.scan) seq ↔
      seq = nextSeq s.scan ∧ ¬ AtLastSeq s := by
  rw [selects_iff, s.replaced_target, hnew, s.replaced_other]
  by_cases hsel : ∃ slot old, Selects s.scan slot old
  · obtain ⟨slot, old, hsel⟩ := hsel
    obtain ⟨htarget, hnext⟩ := writeTarget_of_selects hsel
    have hlast : AtLastSeq s ↔ old = 0xFFFFFFFF := by
      obtain ⟨saw, hscan⟩ := hsel
      simp [AtLastSeq, Selects, hscan]
    have hold := ((selects_iff s slot old).mp hsel).1
    rw [htarget, hnext, sub_sub_cancel, hold, hlast, ← Ne, ← beats_succ_iff (1 - slot)]
    simp only [Option.some.injEq, forall_eq']
    constructor
    · rintro ⟨rfl, hb⟩
      exact ⟨rfl, hb⟩
    · rintro ⟨rfl, hb⟩
      exact ⟨rfl, hb⟩
  · have hnone : ∀ slot old, ¬ Selects s.scan slot old := fun slot old h => hsel ⟨slot, old, h⟩
    have hlast : ¬ AtLastSeq s := fun h => hnone _ _ h.choose_spec
    have hother := seq?_of_not_selects hnone (1 - writeTarget s.scan)
    simp [hother, hlast, eq_comm]

lemma selects_commit_iff (s : Pair) (c : SlotContents) (seq : UInt32) :
    Selects (commit s c).scan (writeTarget s.scan) seq ↔ seq = nextSeq s.scan ∧ ¬ AtLastSeq s :=
  selects_replaced_iff (seq?_written _ _) seq

lemma survives_iff (s : Pair) (c : SlotContents) : Survives s c ↔ ¬ AtLastSeq s := by
  constructor
  · intro h
    obtain ⟨seq, hsel⟩ := h.selected
    exact ((selects_commit_iff s c seq).mp hsel).2
  · intro h
    refine ⟨⟨_, (selects_commit_iff s c _).mpr ⟨rfl, h⟩⟩, ?_, s.replaced_other _⟩
    intro k out hout
    rw [commit, ← Pair.replaced, s.replaced_target, readKey_written _ _ k hout]
    cases k <;> rfl

/-- **Every commit survives until the number runs out.** From any pair of slots, along any number
of commits of any contents, every commit survives exactly when none of them is made while the
selected slot carries `0xFFFFFFFF`. -/
theorem commits_survive_iff (s : Pair) (cs : List SlotContents) :
    Along commit Survives s cs ↔ Along commit (fun s _ => ¬ AtLastSeq s) s cs :=
  along_iff_of_inv (I := fun _ => True) (L := fun _ _ => True)
    (fun s c _ _ => survives_iff s c) (fun _ _ _ _ _ => trivial) trivial along_true

/-- The slot that carries the last number stays selected and untouched. -/
lemma selects_last_replaced (h : Selects s.scan slot 0xFFFFFFFF) {new : Slot}
    (hnew : new.seq? = some (nextSeq s.scan)) :
    Selects (s.replaced new).scan slot 0xFFFFFFFF ∧ s.replaced new slot = s slot := by
  obtain ⟨htarget, hnext⟩ := writeTarget_of_selects h
  have hkept : s.replaced new slot = s slot := by
    have := s.replaced_other new
    rwa [htarget, sub_sub_cancel] at this
  refine ⟨(selects_iff _ _ _).mpr ⟨?_, fun y hy => ?_⟩, hkept⟩
  · rw [hkept]
    exact ((selects_iff s slot _).mp h).1
  · -- the new slot is stamped zero
    rw [← htarget, s.replaced_target, hnew, hnext] at hy
    cases hy
    have hslot : slot = 0 ∨ slot = 1 := by omega
    rcases hslot with rfl | rfl <;> simp [Beats]

lemma selects_last_commit (h : Selects s.scan slot 0xFFFFFFFF) (c : SlotContents) :
    Selects (commit s c).scan slot 0xFFFFFFFF ∧ commit s c slot = s slot :=
  selects_last_replaced h (seq?_written _ _)

/-- **No commit is ever selected again.** Once the selected slot carries the last number, every
later commit leaves it selected and leaves its bytes as they are. -/
theorem stuck_at_last_seq (h : Selects s.scan slot 0xFFFFFFFF) (cs : List SlotContents) :
    Selects (run commit s cs).scan slot 0xFFFFFFFF ∧ run commit s cs slot = s slot := by
  refine run_inv (I := fun s' : Pair => Selects s'.scan slot 0xFFFFFFFF ∧ s' slot = s slot)
    (fun s' c hs' => ?_) ⟨h, rfl⟩ cs
  obtain ⟨hsel, hkept⟩ := selects_last_commit hs'.1 c
  exact ⟨hsel, hkept.trans hs'.2⟩

def Slot.blank : Slot := ⟨List.replicate slotUsedLen 0xFF, by simp⟩

/-- Slot A holds the zero pages under the last number, slot B is erased. -/
def lastSeqPair : Pair := ![blank.written { SlotContents.zeroed with seq := 0xFFFFFFFF }, blank]

lemma Slot.seq?_blank : blank.seq? = none := congrArg SlotState.seq? (classifySlot_erased le_rfl)

lemma selects_lastSeqPair : Selects lastSeqPair.scan 0 0xFFFFFFFF := by
  rw [selects_iff]
  refine ⟨seq?_written _ _, fun y hy => ?_⟩
  have hnone : (lastSeqPair (1 - 0)).seq? = none := seq?_blank
  rw [hnone] at hy
  cases hy

/-- The commit that wraps the number is not selected: the scan stays with the old slot. -/
theorem wrapping_commit_lost :
    ¬ Along commit Survives lastSeqPair [SlotContents.zeroed] ∧
      Selects (commit lastSeqPair SlotContents.zeroed).scan 0 0xFFFFFFFF ∧
      writeTarget lastSeqPair.scan = 1 := by
  refine ⟨?_, (selects_last_commit selects_lastSeqPair _).1,
    (writeTarget_of_selects selects_lastSeqPair).1⟩
  rw [along_cons, survives_iff]
  exact fun h => h.1 ⟨0, selects_lastSeqPair⟩

theorem stuck_at_last_seq_two :
    Selects (run commit lastSeqPair (.replicate 2 .zeroed)).scan 0 0xFFFFFFFF :=
  (stuck_at_last_seq selects_lastSeqPair _).1

/-! ### Every step of the checksum is a bijection -/

section checksum

variable (x crc : UInt16)

lemma and_top_ne_zero : x &&& 0x8000 ≠ 0 ↔ x.toNat.testBit 15 = true := by
  have hand : (x &&& 0x8000).toNat = x.toNat &&& 2 ^ 15 := UInt16.toNat_and x 0x8000
  rw [Ne, ← UInt16.toNat_inj, hand, Nat.and_two_pow]
  rcases x.toNat.testBit 15 <;> simp

lemma toNat_shiftLeft_one : (x <<< 1).toNat = 2 * x.toNat % 65536 := by
  show x.toNat <<< 1 % 65536 = _
  omega

lemma testBit_top : x.toNat.testBit 15 = decide (32768 ≤ x.toNat) := by
  have hlt := x.toNat_lt
  rw [Nat.testBit_eq_decide_div_mod_eq]
  congr 1
  simp only [eq_iff_iff]
  omega

/-- The shift keeps the low fifteen bits. The polynomial, with its odd constant, tells whether the
top bit was set. -/
lemma crc16Shift_injective : Function.Injective crc16Shift := by
  intro x y h
  -- the parity of the result is the top bit
  have hparity : ∀ z v : UInt16, (z <<< 1) ^^^ (0x1021 : UInt16) ≠ v <<< 1 := by
    intro z v he
    have hbit : ((z <<< 1) ^^^ (0x1021 : UInt16)).toNat.testBit 0 = (v <<< 1).toNat.testBit 0 := by
      rw [he]
    have h₁ : 2 * z.toNat % 65536 % 2 = 0 := by omega
    have h₂ : 2 * v.toNat % 65536 % 2 = 0 := by omega
    rw [UInt16.toNat_xor, Nat.testBit_xor, Nat.testBit_zero, Nat.testBit_zero, Nat.testBit_zero,
      toNat_shiftLeft_one, toNat_shiftLeft_one, h₁, h₂] at hbit
    revert hbit; decide
  have hlow : ∀ z v : UInt16, (32768 ≤ z.toNat ↔ 32768 ≤ v.toNat) → z <<< 1 = v <<< 1 → z = v := by
    intro z v htop he
    have hnat := congrArg UInt16.toNat he
    rw [toNat_shiftLeft_one, toNat_shiftLeft_one] at hnat
    have hz := z.toNat_lt
    have hv := v.toNat_lt
    exact UInt16.toNat_inj.mp (by omega)
  unfold crc16Shift at h
  simp only [and_top_ne_zero, testBit_top, decide_eq_true_eq] at h
  split_ifs at h with h₁ h₂ h₂
  · exact hlow x y (iff_of_true h₁ h₂) (UInt16.xor_left_inj _ |>.mp h)
  · exact absurd h (hparity x y)
  · exact absurd h.symm (hparity y x)
  · exact hlow x y (iff_of_false h₁ h₂) h

lemma crc16Byte_injective_state (b : UInt8) : Function.Injective fun crc => crc16Byte crc b := by
  intro x y h
  exact UInt16.xor_left_inj _ |>.mp (crc16Shift_injective.iterate 8 h)

lemma crc16Byte_injective_byte : Function.Injective (crc16Byte crc) := by
  intro x y h
  have hshift : x.toUInt16 <<< 8 = y.toUInt16 <<< 8 :=
    UInt16.xor_right_inj _ |>.mp (crc16Shift_injective.iterate 8 h)
  have hnat := congrArg UInt16.toNat hshift
  have hx := x.toNat_lt
  have hy := y.toNat_lt
  have hx' : x.toNat <<< 8 % 2 ^ 16 = 256 * x.toNat := by rw [Nat.shiftLeft_eq]; omega
  have hy' : y.toNat <<< 8 % 2 ^ 16 = 256 * y.toNat := by rw [Nat.shiftLeft_eq]; omega
  have hmul : 256 * x.toNat = 256 * y.toNat := by rw [← hx', ← hy']; exact hnat
  exact UInt8.toNat_inj.mp (by omega)

/-- Two checksums that differ once differ ever after. -/
lemma crc16Ccitt_injective (data : List UInt8) : Function.Injective fun crc => crc16Ccitt crc data := by
  induction data with
  | nil => exact fun _ _ h => h
  | cons b data ih => exact fun x y h => crc16Byte_injective_state b (ih h)

/-- The first byte decides. -/
lemma crc16Ccitt_cons_injective (data : List UInt8) :
    Function.Injective fun b => crc16Ccitt crc (b :: data) :=
  fun _ _ h => crc16Byte_injective_byte crc (crc16Ccitt_injective data h)

end checksum

/-! ### Power loss -/

/-- The slot erased, with only the first `k` bytes of the serialized contents programmed. -/
def Slot.torn (s : Slot) (c : SlotContents) (k : ℕ) : Slot where
  bytes := (serializeSlot c s.erased).1.take k ++ List.replicate (s.bytes.length - k) 0xFF
  used := by
    have hlen : (serializeSlot c s.erased).1.length = s.bytes.length := by
      rw [serializeSlot_of_le c (by simpa using s.used), length_putAll, s.length_erased]
    have hused := s.used
    simp only [List.length_append, List.length_take, List.length_replicate, hlen]
    omega

/-- The slots when the power is lost after `k` bytes of a commit. -/
def tear (s : Pair) (c : SlotContents) (k : ℕ) : Pair :=
  Function.update s (writeTarget s.scan) ((s (writeTarget s.scan)).torn c k)

/-- The slot carries the magic word, the version and the lengths, and all three page checksums
match its bytes. -/
def Complete (slot : List UInt8) : Prop :=
  rdU32 slot 0 = magic ∧ rdU16 slot 4 = version ∧ lensMatch slot ∧ crcsMatch slot

lemma Slot.seq?_eq_none_of_not_complete {s : Slot} (h : ¬ Complete s.bytes) : s.seq? = none := by
  cases hc : classifySlot s.bytes with
  | valid seq =>
    obtain ⟨hm, hv, hl, hcrc, -⟩ := (classifySlot_eq_valid_iff s.used seq).mp hc
    exact absurd ⟨hm, hv, hl, hcrc⟩ h
  | _ => rw [seq?, hc]; rfl

lemma tear_selected {seq : UInt32} (h : Selects s.scan slot seq) (c : SlotContents) (k : ℕ) :
    tear s c k slot = s slot := by
  refine Function.update_of_ne ?_ _ _
  rw [(writeTarget_of_selects h).1]
  exact ne_other slot

/-- **A torn commit keeps the tune.** Whatever the pair of slots with a valid scan, the new
contents and the number of bytes programmed: unless the torn slot is complete, the scan selects
the old slot with its old number and the old slot is unchanged; and the scan is never blank and
never corrupt. -/
theorem torn_commit_keeps_tune (s : Pair) (c : SlotContents) (k : ℕ) {slot : Fin 2} {seq : UInt32}
    {saw : Bool} (h : s.scan = .valid slot seq saw) :
    (¬ Complete (tear s c k (writeTarget s.scan)).bytes →
        Selects (tear s c k).scan slot seq ∧ tear s c k slot = s slot) ∧
      (tear s c k).scan ≠ .blank ∧ (tear s c k).scan ≠ .corrupt := by
  have hsel : Selects s.scan slot seq := ⟨saw, h⟩
  have htarget := (writeTarget_of_selects hsel).1
  have hkept := tear_selected hsel c k
  have hold : (tear s c k slot).seq? = some seq := by
    rw [hkept]
    exact ((selects_iff s slot seq).mp hsel).1
  have hsome : ∃ slot' seq', Selects (tear s c k).scan slot' seq' := by
    by_contra hno
    have hnone := seq?_of_not_selects (s := tear s c k)
      (fun slot' seq' hs => hno ⟨slot', seq', hs⟩) slot
    rw [hnone] at hold
    cases hold
  refine ⟨fun hc => ⟨?_, hkept⟩, ?_, ?_⟩
  · refine (selects_iff _ _ _).mpr ⟨hold, fun y hy => ?_⟩
    rw [← htarget, seq?_eq_none_of_not_complete hc] at hy
    cases hy
  all_goals
    obtain ⟨slot', seq', saw', hs⟩ := hsome
    rw [hs]
    simp

/-- In a slot torn before its last page, that page is erased while its checksum is there. -/
lemma crcsMatch_torn {s : Slot} {k : ℕ} (hk : 24 ≤ k) (hpage : k ≤ angles.slotOffset)
    (h : crcsMatch (s.torn c k).bytes) :
    crc16Ccitt 0xFFFF (List.replicate anglesPageLen 0xFF) = crc16Ccitt 0xFFFF (c.page .angles) := by
  have hused := s.used
  have herased : slotUsedLen ≤ s.erased.length := by rwa [s.length_erased]
  have hoff : angles.slotOffset + anglesPageLen = slotUsedLen := rfl
  have hbytes : (s.torn c k).bytes = (putAll s.erased (slotBlocks c)).take k ++
      List.replicate (s.bytes.length - k) 0xFF := by
    show (serializeSlot c s.erased).1.take k ++ _ = _
    rw [serializeSlot_of_le c herased]
  have hlen : ((putAll s.erased (slotBlocks c)).take k).length = k := by
    rw [List.length_take, length_putAll, s.length_erased]
    omega
  have hangles : window (s.torn c k).bytes angles.slotOffset anglesPageLen =
      List.replicate anglesPageLen 0xFF := by
    rw [hbytes, window, List.drop_append, List.drop_eq_nil_of_le (by omega), List.nil_append, hlen]
    exact window_replicate _ (by omega)
  have hsum : rdU16 (s.torn c k).bytes 22 = crc16Ccitt 0xFFFF (c.page .angles) := by
    rw [← u16_putAll (layout_slotBlocks c herased) 9 rfl, rdU16, hbytes, window,
      List.drop_append_of_le_length (by omega), List.take_append_of_le_length
      (by rw [List.length_drop]; omega), List.drop_take, List.take_take, min_eq_left (by omega)]
    rfl
  rw [← hangles, ← hsum]
  exact h.2.2

/-- A first tune, and a second one that loses power within its second page. -/
theorem torn_commit_keeps_tune_midPage :
    let first : Pair := commit ![blank, blank] .zeroed
    let second : SlotContents := ⟨2, .replicate _ 7, .replicate _ 7, .cons 7 (.replicate 67 0xFF)⟩
    Selects first.scan 0 1 ∧ Selects (tear first second 700).scan 0 1 ∧
      tear first second 700 0 = first 0 := by
  intro first second
  have hnone : ∀ slot seq, ¬ Selects (Pair.scan ![blank, blank]) slot seq := by
    refine not_selects_of_seq? fun t => ?_
    have ht : t = 0 ∨ t = 1 := by omega
    rcases ht with rfl | rfl <;> exact seq?_blank
  obtain ⟨htarget, hnext⟩ := writeTarget_of_not_selects hnone
  have hsel := (selects_commit_iff ![blank, blank] .zeroed 1).mpr
    ⟨hnext.symm, fun h => hnone _ _ h.choose_spec⟩
  rw [htarget] at hsel
  have htorn (s : Pair) : ¬ Complete (tear s second 700 (writeTarget s.scan)).bytes := by
    rw [tear, Function.update_self]
    intro h
    have hcrc : crc16Ccitt 0xFFFF (0xFF :: List.replicate 67 0xFF) =
        crc16Ccitt 0xFFFF (7 :: List.replicate 67 0xFF) :=
      crcsMatch_torn second (by decide) (by decide) h.2.2.2
    exact absurd (crc16Ccitt_cons_injective 0xFFFF _ hcrc) (by decide)
  obtain ⟨saw, hscan⟩ := hsel
  exact ⟨⟨saw, hscan⟩, (torn_commit_keeps_tune first second 700 hscan).1 (htorn first)⟩

end Pipoco.Kv
