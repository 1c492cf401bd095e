import Pipoco.Bytes
import Pipoco.Runs

/-!
The flash adapter of the RP2040 board.

A write takes the sectors in turn: it reads a sector, lays the new bytes over it, erases it and
programs it in chunks. Together this puts the data at its place, leaves every other cell as it was
and stays inside the region the adapter owns.
-/

namespace Pipoco.RpFlash

open Bytes Runs

def regionOffset : ℕ := 0x001E0000
def regionSize : ℕ := 64 * 1024
def eraseSize : ℕ := 4096
def writeChunk : ℕ := 256

/-- The cells of the chip, and the address and length of all that was erased or programmed. -/
structure Chip where
  cells : List UInt8
  touched : List (ℕ × ℕ)

variable (c : Chip) (addr offset : ℕ) (bytes : List UInt8)

def validateRegionAccess (len : ℕ) : Option Unit :=
  if len > regionSize then none
  else if offset > regionSize - len then none
  else some ()

def abs : Option ℕ := (validateRegionAccess offset 0).map fun _ => regionOffset + offset

def readBlock (len : ℕ) : Option (List UInt8) :=
  (validateRegionAccess (addr - regionOffset) len).map fun _ => window c.cells addr len

def Chip.set : Chip := ⟨put c.cells addr bytes, (addr, bytes.length) :: c.touched⟩

def flashRangeErase : Chip := c.set addr (List.replicate eraseSize 0xFF)
def flashRangeProgram : Chip := c.set addr bytes

def romErase (c : Chip) (addr r : ℕ) : Chip :=
  if r = 0 then c else romErase (flashRangeErase c addr) (addr + eraseSize) (r - eraseSize)
termination_by r
decreasing_by
  rw [eraseSize]
  omega

def romProgram (c : Chip) (addr : ℕ) (data : List UInt8) : Chip :=
  if data = [] then c
  else
    let chunk := data.take writeChunk
    romProgram (flashRangeProgram c addr chunk) (addr + chunk.length) (data.drop writeChunk)
termination_by data.length
decreasing_by
  have := List.length_pos_iff.mpr ‹_›
  rw [List.length_drop, writeChunk]
  omega

def pageStart : ℕ := offset / eraseSize * eraseSize
def within : ℕ := offset - pageStart offset
def writeLen (remaining : ℕ) : ℕ := min remaining (eraseSize - within offset)

/-- The bytes of a write that go into its first sector. -/
def piece : List UInt8 := bytes.take (writeLen offset bytes.length)

/-- One sector of a write: read, change, erase, program. -/
def writePage : Option Chip :=
  (abs (pageStart offset)).bind fun pageAddr => (readBlock c pageAddr eraseSize).map fun page =>
    romProgram (romErase c pageAddr eraseSize) pageAddr
      (put page (within offset) (piece offset bytes))

lemma within_lt : within offset < eraseSize := by
  simp only [within, pageStart, eraseSize]
  omega

def writeLoop (c : Chip) (offset : ℕ) (bytes : List UInt8) : Option Chip :=
  if bytes = [] then some c
  else
    match writePage c offset bytes with
    | none => none
    | some c =>
      let len := writeLen offset bytes.length
      writeLoop c (offset + len) (bytes.drop len)
termination_by bytes.length
decreasing_by
  have := List.length_pos_iff.mpr ‹_›
  have := within_lt offset
  rw [List.length_drop, writeLen]
  omega

/-- The `check_write` of the `embedded_storage` crate, which the source calls first, is left out:
with a write size of one byte it refuses what exceeds the capacity, as the region check does. -/
def write : Option Chip :=
  (validateRegionAccess offset bytes.length).bind fun _ => writeLoop c offset bytes

/-! ### What the operations write -/

def InRegion (len : ℕ) : Prop := regionOffset ≤ addr ∧ addr + len ≤ regionOffset + regionSize

/-- Every erased or programmed stretch lies in the region. -/
def Chip.Inside : Prop := ∀ b ∈ c.touched, InRegion b.1 b.2

/-- The bytes are put at the address, and nothing outside of the region is touched. -/
structure Wrote (c c' : Chip) (addr : ℕ) (bytes : List UInt8) : Prop where
  cells : c'.cells = put c.cells addr bytes
  inside : c.Inside → c'.Inside

variable {c addr offset bytes} {c' : Chip}

lemma wrote_nil : Wrote c c addr [] := ⟨(put_nil _ _).symm, id⟩

lemma wrote_set (h : InRegion addr bytes.length) : Wrote c (c.set addr bytes) addr bytes :=
  ⟨rfl, fun hc => List.forall_mem_cons.mpr ⟨h, hc⟩⟩

lemma Wrote.append {c'' : Chip} {u v : List UInt8} (h : Wrote c c' addr u)
    (h' : Wrote c' c'' (addr + u.length) v) : Wrote c c'' addr (u ++ v) :=
  ⟨by rw [h'.cells, h.cells, put_append], h'.inside ∘ h.inside⟩

lemma romErase_sector : romErase c addr eraseSize = flashRangeErase c addr := by
  rw [romErase, if_neg (by decide), romErase, if_pos (Nat.sub_self _)]

lemma wrote_romProgram {data : List UInt8} (h : InRegion addr data.length) :
    Wrote c (romProgram c addr data) addr data := by
  induction c, addr, data using romProgram.induct with
  | case1 c addr =>
    rw [romProgram, if_pos rfl]
    exact wrote_nil
  | case2 c addr data hne chunk ih =>
    have hsplit : chunk ++ data.drop writeChunk = data := List.take_append_drop _ _
    have hlen := congrArg List.length hsplit
    rw [List.length_append] at hlen
    obtain ⟨hlo, hhi⟩ := h
    rw [romProgram, if_neg hne]
    have hfirst : Wrote c (flashRangeProgram c addr chunk) addr chunk :=
      wrote_set ⟨hlo, by omega⟩
    have hall := hfirst.append (ih ⟨by omega, by omega⟩)
    rwa [hsplit] at hall

/-- A sector erased and written back with new bytes in it. -/
lemma put_sector {l : List UInt8} {n i : ℕ} (hn : addr + n ≤ l.length) (hi : i + bytes.length ≤ n)
    (a : UInt8) :
    put (put l addr (List.replicate n a)) addr (put (window l addr n) i bytes) =
      put l (addr + i) bytes := by
  have hw : (window l addr n).length = n := length_window hn
  refine List.ext_getElem? fun j => ?_
  simp only [getElem?_put, length_put, hw, List.length_replicate, getElem?_window]
  by_cases hin : addr ≤ j ∧ j < addr + n ∧ j < l.length
  · obtain ⟨k, rfl⟩ := Nat.exists_eq_add_of_le hin.1
    have hk : k < n := by omega
    rw [if_pos hin, Nat.add_sub_cancel_left, if_pos hk, Nat.add_sub_add_left]
    exact if_congr (by omega) rfl rfl
  · rw [if_neg hin, if_neg hin, if_neg (by omega)]

lemma region_ok {len : ℕ} (h : offset + len ≤ regionSize) :
    validateRegionAccess offset len = some () := by
  rw [validateRegionAccess, if_neg (by omega), if_neg (by omega)]

lemma wrote_writePage (hc : regionOffset + regionSize ≤ c.cells.length)
    (hfit : offset + bytes.length ≤ regionSize) (hne : bytes ≠ []) :
    ∃ c', writePage c offset bytes = some c' ∧
      Wrote c c' (regionOffset + offset) (piece offset bytes) := by
  have hpos := List.length_pos_iff.mpr hne
  have hlt := within_lt offset
  have hstart : pageStart offset + within offset = offset :=
    Nat.add_sub_of_le (Nat.div_mul_le_self _ _)
  -- the region is made of whole sectors
  have hsector : pageStart offset + eraseSize ≤ regionSize := by
    simp only [pageStart, eraseSize, regionSize] at hfit ⊢
    omega
  have hlen : within offset + (piece offset bytes).length ≤ eraseSize := by
    rw [piece, List.length_take, writeLen]
    omega
  have hregion : InRegion (regionOffset + pageStart offset) eraseSize := ⟨by omega, by omega⟩
  have herased : Wrote c (flashRangeErase c (regionOffset + pageStart offset)) _ _ :=
    wrote_set (by rwa [List.length_replicate])
  obtain ⟨page, hpage⟩ : ∃ page, page = put (window c.cells (regionOffset + pageStart offset)
    eraseSize) (within offset) (piece offset bytes) := ⟨_, rfl⟩
  have hpageLen : page.length = eraseSize := by rw [hpage, length_put, length_window (by omega)]
  have hprogrammed := wrote_romProgram (c := flashRangeErase c (regionOffset + pageStart offset))
    (hpageLen.symm ▸ hregion)
  refine ⟨_, ?_, ?_, hprogrammed.inside ∘ herased.inside⟩
  · rw [writePage, abs, region_ok (by omega), Option.map_some, Option.bind_some, readBlock,
      Nat.add_sub_cancel_left, region_ok hsector, Option.map_some, Option.map_some, romErase_sector,
      hpage]
  · rw [hprogrammed.cells, herased.cells, hpage, put_sector (by omega) hlen, Nat.add_assoc, hstart]

lemma wrote_writeLoop (hc : regionOffset + regionSize ≤ c.cells.length)
    (hfit : offset + bytes.length ≤ regionSize) :
    ∃ c', writeLoop c offset bytes = some c' ∧ Wrote c c' (regionOffset + offset) bytes := by
  induction c, offset, bytes using writeLoop.induct with
  | case1 c offset => exact ⟨c, by rw [writeLoop, if_pos rfl], wrote_nil⟩
  | case2 c offset bytes hne hnone =>
    obtain ⟨c', hsome, -⟩ := wrote_writePage hc hfit hne
    cases hnone.symm.trans hsome
  | case3 c offset bytes hne next hnext len ih =>
    obtain ⟨c', hsome, hpage⟩ := wrote_writePage hc hfit hne
    cases hnext.symm.trans hsome
    have hle : writeLen offset bytes.length ≤ bytes.length := min_le_left _ _
    obtain ⟨c'', hloop, hrest⟩ :=
      ih (by rwa [hpage.cells, length_put]) (by rw [List.length_drop]; omega)
    refine ⟨c'', by rwa [writeLoop, if_neg hne, hnext], ?_⟩
    have hlen : (piece offset bytes).length = writeLen offset bytes.length := by
      rw [piece, List.length_take, min_eq_left hle]
    have hall := hpage.append (by rwa [hlen, Nat.add_assoc])
    rwa [piece, List.take_append_drop] at hall

/-- **A write changes exactly the addressed bytes.** -/
theorem write_exact (cells : List UInt8) (hc : regionOffset + regionSize ≤ cells.length)
    (offset : ℕ) (bytes : List UInt8) (hfit : offset + bytes.length ≤ regionSize) :
    ∃ c, write ⟨cells, []⟩ offset bytes = some c ∧
      window c.cells (regionOffset + offset) bytes.length = bytes ∧
      (∀ i, i < regionOffset + offset ∨ regionOffset + offset + bytes.length ≤ i →
        c.cells[i]? = cells[i]?) ∧ c.Inside := by
  obtain ⟨c, hwrite, hwrote⟩ := wrote_writeLoop (c := ⟨cells, []⟩) hc hfit
  refine ⟨c, by rwa [write, region_ok hfit], ?_, fun i hi => ?_, hwrote.inside nofun⟩
  · rw [hwrote.cells]
    exact window_put_self (by dsimp only; omega)
  · rw [hwrote.cells, getElem?_put, if_neg (by omega)]

/-- Three bytes on both sides of the end of a sector. -/
theorem write_exact_two_sectors :
    ∃ c, write ⟨List.replicate (regionOffset + regionSize) 0, []⟩ 4095 [1, 2, 3] = some c ∧
      window c.cells (regionOffset + 4095) 3 = [1, 2, 3] :=
  (write_exact _ (by rw [List.length_replicate]) 4095 [1, 2, 3] (by decide)).imp
    fun _ h => ⟨h.1, h.2.1⟩

/-! ### Runs -/

/-- A write that is refused changes nothing. -/
def step (c : Chip) (w : ℕ × List UInt8) : Chip := (write c w.1 w.2).getD c

/-- A write to an array of bytes, without effect if it is out of bounds. -/
def putFit (l : List UInt8) (w : ℕ × List UInt8) : List UInt8 :=
  put l (regionOffset + w.1) (if w.1 + w.2.length ≤ regionSize then w.2 else [])

lemma wrote_step (hc : regionOffset + regionSize ≤ c.cells.length) (w : ℕ × List UInt8) :
    Wrote c (step c w) (regionOffset + w.1)
      (if w.1 + w.2.length ≤ regionSize then w.2 else []) := by
  split_ifs with hfit
  · obtain ⟨c', hloop, hwrote⟩ := wrote_writeLoop hc hfit
    rwa [step, write, region_ok hfit, Option.bind_some, hloop]
  · have hnone : validateRegionAccess w.1 w.2.length = none := by
      unfold validateRegionAccess
      split_ifs <;> first | rfl | omega
    rw [step, write, hnone]
    exact wrote_nil

/-- **The region is an array of bytes.** -/
theorem writes_are_puts (hc : regionOffset + regionSize ≤ c.cells.length) (hin : c.Inside)
    (ws : List (ℕ × List UInt8)) :
    (run step c ws).cells = run putFit c.cells ws ∧ (run step c ws).Inside := by
  induction ws generalizing c with
  | nil => exact ⟨rfl, hin⟩
  | cons w ws ih =>
    have hwrote := wrote_step hc w
    rw [run_cons, run_cons, putFit, ← hwrote.cells]
    exact ih (by rwa [hwrote.cells, length_put]) (hwrote.inside hin)

theorem writes_are_puts_refused :
    (run step ⟨.replicate (regionOffset + regionSize) 0, []⟩ [(9, [1]), (65535, [2, 3])]).Inside :=
  (writes_are_puts (by rw [List.length_replicate]) (by nofun) _).2

end Pipoco.RpFlash
