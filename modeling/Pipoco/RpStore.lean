import Pipoco.KvAb
import Pipoco.ObdHistory

/-!
The flash store of the RP2040 board.

Two sectors of 4 KiB hold one slot each, and behind the slot the retained history. A write loads the
pages of the selected slot, or zeros if none is selected, changes its part, stages a whole sector and
programs it over the sector that is not selected. Nothing is written while the engine runs.
-/

namespace Pipoco.RpStore

open Bytes Kv ObdHistory

def sectorSize : ℕ := 4096
def snapshotOffset : ℕ := slotUsedLen

structure Sector where
  bytes : List UInt8
  size : bytes.length = sectorSize

variable (s : Sector)

/-- A sector begins with a slot. -/
def Sector.slot : Slot := ⟨s.bytes, by rw [s.size]; decide⟩

abbrev Flash := Fin 2 → Sector

variable (f : Flash)

def Flash.pair : Pair := fun i => (f i).slot

def Flash.scan (f : Flash) : BootScan := f.pair.scan

/-! ### Reading -/

def read (key out : List UInt8) : Except KvError ℕ × List UInt8 :=
  match f.scan with
  | .valid slot _ _ =>
    match PageKey.fromKey key with
    | none => (.error .notFound, out)
    | some _ =>
      match readKey (f slot).bytes key out with
      | none => (.error .io, out)
      | some (n, out) => (.ok n, out)
  | _ => (.error .notFound, out)

def readInto (slot key out : List UInt8) : List UInt8 :=
  match readKey slot key out with
  | none => out
  | some (_, out) => out

@[simp] lemma length_readInto (slot key out : List UInt8) :
    (readInto slot key out).length = out.length := by
  unfold readInto readKey
  split
  · rfl
  · next h =>
    split at h
    · cases h
    · split at h
      · cases h
      · split at h
        · cases h
        · cases h
          exact length_put _ _ _

/-- A page buffer of zeros, read into. -/
def loadPage (slot : List UInt8) (k : PageKey) : Page k.len :=
  ⟨readInto slot k.bytes (List.replicate k.len 0), by simp⟩

def loadCurrent : BootScan → SlotContents
  | .valid slot seq _ =>
    { seq
      fuel := loadPage (f slot).bytes .fuel
      ign := loadPage (f slot).bytes .ign
      angles := loadPage (f slot).bytes .angles }
  | _ => .zeroed

def loadCurrentSnapshot : BootScan → Option Snapshot
  | .valid slot _ _ => historyCodec.decode (window (f slot).bytes snapshotOffset historyCodec.len)
  | _ => none

/-! ### Writing -/

variable (pages c : SlotContents) (snapshot : Option Snapshot)

inductive Write
  | page (key data : List UInt8)
  | snapshot (s : Snapshot)

def updatePage (k : PageKey) (data : List UInt8) (h : data.length = k.len) : SlotContents :=
  match k with
  | .fuel => { c with fuel := ⟨data, h⟩ }
  | .ign => { c with ign := ⟨data, h⟩ }
  | .angles => { c with angles := ⟨data, h⟩ }

def applyPageUpdate (key data : List UInt8) : Except KvError SlotContents :=
  match PageKey.fromKey key with
  | none => .error .notFound
  | some k => if h : data.length = k.len then .ok (updatePage c k data h) else .error .io

/-- The pages and the history a write programs, from those it has loaded. -/
def prepare : Write → Except KvError (SlotContents × Option Snapshot)
  | .page key data => do
    let pages ← applyPageUpdate pages key data
    .ok (pages, snapshot)
  | .snapshot s => .ok (pages, some s)

def erasedSector : List UInt8 := List.replicate sectorSize 0xFF

/-- The sector with the slot and these blocks behind it. -/
def staged (blocks : List (ℕ × List UInt8)) : Sector where
  bytes := putAll (serializeSlot pages erasedSector).1 blocks
  size := by
    have hroom : slotUsedLen ≤ erasedSector.length := by
      rw [erasedSector, List.length_replicate]
      decide
    rw [length_putAll, serializeSlot_of_le pages hroom, length_putAll, erasedSector,
      List.length_replicate]

def stageSector : Except KvError Sector :=
  match historyCodec.block snapshotOffset snapshot with
  | none => .error .io
  | some blocks => .ok (staged pages blocks)

/-- `persist_retained_history_rewrite`: the flash after it, unless it fails. -/
def persist (engineRunning : Bool) (w : Write) : Except KvError Flash :=
  if engineRunning then .error .engineRunning
  else
    match prepare (loadCurrent f f.scan) (loadCurrentSnapshot f f.scan) w with
    | .error e => .error e
    | .ok (pages, snapshot) =>
      match stageSector { pages with seq := nextSeq f.scan } snapshot with
      | .error e => .error e
      | .ok sector => .ok (Function.update f (writeTarget f.scan) sector)

def step (op : Bool × Write) : Flash :=
  match persist f op.1 op.2 with
  | .error _ => f
  | .ok f' => f'

/-! ### What is read -/

variable {f} {seq : UInt32}

lemma erasedSector_room : slotUsedLen ≤ erasedSector.length := by
  rw [erasedSector, List.length_replicate]
  decide

lemma loadPage_eq (k : PageKey) :
    (loadPage s.bytes k).toList = window s.bytes k.slotOffset k.len := by
  have hused : ¬ s.bytes.length < slotUsedLen := not_lt.mpr s.slot.used
  have hlen : (window s.bytes k.slotOffset k.len).length = k.len := by
    refine length_window ?_
    rw [s.size]
    cases k <;> decide
  show readInto s.bytes k.bytes (List.replicate k.len 0) = _
  simp only [readInto, readKey, hused, if_false, PageKey.fromKey_bytes, List.length_replicate,
    lt_irrefl]
  exact put_zero_of_length (by rw [hlen, List.length_replicate])

lemma page_loadCurrent {slot : Fin 2} (h : Selects f.scan slot seq) (k : PageKey) :
    (loadCurrent f f.scan).page k = window (f slot).bytes k.slotOffset k.len := by
  obtain ⟨saw, hscan⟩ := h
  rw [hscan]
  cases k <;> exact loadPage_eq (f slot) _

lemma read_of_selects {slot : Fin 2} (h : Selects f.scan slot seq) (k : PageKey) {out : List UInt8}
    (hout : k.len ≤ out.length) :
    read f k.bytes out = (.ok k.len, put out 0 (window (f slot).bytes k.slotOffset k.len)) := by
  obtain ⟨saw, hscan⟩ := h
  have hused : ¬ (f slot).bytes.length < slotUsedLen := not_lt.mpr (f slot).slot.used
  have hout' : ¬ out.length < k.len := not_lt.mpr hout
  simp only [read, hscan, PageKey.fromKey_bytes, readKey, hused, hout', if_false]

lemma read_of_not_selects (h : ∀ slot seq, ¬ Selects f.scan slot seq) (key out : List UInt8) :
    read f key out = (.error .notFound, out) := by
  unfold read
  cases hscan : f.scan with
  | valid slot seq saw => exact absurd ⟨saw, hscan⟩ (h slot seq)
  | _ => rfl

/-! ### What is staged -/

section Staged

variable {blocks : List (ℕ × List UInt8)} {hi : ℕ} (hspan : Span snapshotOffset hi blocks)
  (c : SlotContents)
include hspan

lemma window_staged {off len : ℕ} (h : off + len ≤ slotUsedLen) :
    window (staged c blocks).bytes off len =
      window (putAll erasedSector (slotBlocks c)) off len := by
  simp only [staged, serializeSlot_of_le c erasedSector_room]
  exact window_putAll_of_clear fun b hb => Or.inr (h.trans (hspan.within b hb).1)

lemma seq?_staged : (staged c blocks).slot.seq? = some c.seq := by
  have hclass : classifySlot (staged c blocks).bytes = .valid c.seq :=
    (classifySlot_congr (staged c blocks).slot.used (by rw [length_putAll]; exact erasedSector_room)
      fun _ _ => window_staged hspan c).trans (classifySlot_serialized c erasedSector_room)
  exact congrArg SlotState.seq? hclass

lemma window_page_staged (k : PageKey) :
    window (staged c blocks).bytes k.slotOffset k.len = c.page k := by
  rw [window_staged hspan c (by cases k <;> decide)]
  exact window_page_serialized c erasedSector_room k

end Staged

end Pipoco.RpStore
