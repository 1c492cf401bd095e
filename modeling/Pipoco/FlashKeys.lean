import Pipoco.KeyLaw
import Pipoco.RpStore
import Pipoco.StmAtomic

/-!
The keys of both flash stores.

Every write programs all three pages again, those it was not asked to write from what could be read.
A page that could not be read is programmed too: with zeros, or on the STM32F4 with the bytes whose
checksum did not match, and with a checksum that matches. So it can be read afterwards although it was
never written.
-/

namespace Pipoco.FlashKeys

open Bytes Kv Keys Runs ObdHistory

abbrev Write := RpStore.Write

def pageRead : Except KvError ℕ × List UInt8 → Option (List UInt8)
  | (.ok n, out) => some (out.take n)
  | (.error _, _) => none

def written : Write → Option (PageKey × List UInt8)
  | .page key data => (PageKey.fromKey key).map fun k => (k, data)
  | .snapshot _ => none

/-- A page write names a page and fills it; a history can be staged. -/
def Accepted : Write → Prop
  | .page key data => ∃ k, PageKey.fromKey key = some k ∧ data.length = k.len
  | .snapshot s => (stageSidecar s).isSome

lemma pageRead_put {n : ℕ} {out bs : List UInt8} (hbs : bs.length = n) (hout : n ≤ out.length) :
    pageRead (.ok n, put out 0 bs) = some bs :=
  congrArg some (window_put_zero hbs hout)

/-- The pages of a rewrite, with the one that was written. -/
lemma expect_pages (current : PageKey → List UInt8) (j k : PageKey) (data : List UInt8) :
    expect (fun k => some (current k)) (some (j, data)) k =
      some (Function.update current j data k) := by
  exact (Function.apply_update (fun _ => some) current j data k).symm

/-! ### The STM32F4 store -/

namespace Stm

open Pipoco.StmStore

variable (f : Flash) {k : PageKey} {n : ℕ} (w : FlashKeys.Write) {img : Image}

def toWrite : FlashKeys.Write → StmStore.Write
  | .page key data => .page key data
  | .snapshot s => .snapshot s

def reads (k : PageKey) : Option (List UInt8) :=
  pageRead (StmStore.read f k.bytes (List.replicate k.len 0))

def keyStep : Flash := complete f (toWrite w)

def writes : Option (PageKey × List UInt8) :=
  match outcome f (toWrite w) with
  | .ok _ => written w
  | .error _ => none

/-- A write that is accepted finds every page it does not write readable. -/
def KeepsKeys : Prop := Accepted w → ∀ k, (∀ b, written w ≠ some (k, b)) → (reads f k).isSome

variable {f}

/-- A successful read returns a page that checks. -/
lemma of_read_ok {out out' : List UInt8} (h : StmStore.read f k.bytes out = (.ok n, out')) :
    ∃ s, f.newest = some s ∧
      validatePageImage (f.header s) k (window (f s).bytes (pageOffset k) k.len) = true ∧
      k.len ≤ out.length ∧ n = k.len := by
  unfold StmStore.read at h
  split at h
  · cases h
  · next s hs =>
    rw [PageKey.fromKey_bytes] at h
    dsimp only at h
    split at h
    · cases h
    · next hcond =>
      have hout : k.len ≤ out.length := not_lt.mp fun hlt => hcond (Or.inr hlt)
      rw [window_put_zero (length_window_page (f s) k) hout] at h
      split at h
      · next hvalid =>
        cases h
        exact ⟨s, hs, hvalid, hout, rfl⟩
      · cases h

lemma reads_of_read {out out' : List UInt8} (h : StmStore.read f k.bytes out = (.ok n, out')) :
    reads f k = some (out'.take n) := by
  obtain ⟨s, hs, hvalid, hout, -⟩ := of_read_ok h
  have hpage := length_window_page (f s) k
  have hbytes : pageRead (StmStore.read f k.bytes out) =
      some (window (f s).bytes (pageOffset k) k.len) := by
    rw [read_of_good hs hvalid hout]
    exact pageRead_put hpage hout
  rw [h] at hbytes
  rw [reads, read_of_good hs hvalid (by simp), pageRead_put hpage (by simp)]
  exact hbytes.symm

lemma page_load_of_reads {b : List UInt8} (h : reads f k = some b) : (load f).pages.page k = b := by
  have hlen : (StmStore.read f k.bytes (List.replicate k.len 0)).2.length = k.len := by simp
  unfold reads at h
  show (StmStore.read f k.bytes (List.replicate k.len 0)).2 = b
  cases hr : StmStore.read f k.bytes (List.replicate k.len 0) with
  | mk res out =>
    rw [hr] at h hlen
    cases res with
    | error e => cases h
    | ok n =>
      cases h
      obtain ⟨-, -, -, -, rfl⟩ := of_read_ok hr
      exact (List.take_of_length_le (le_of_eq hlen)).symm

lemma reads_of_shows (h : Shows f img) (k : PageKey) : reads f k = some (img.pages.page k) := by
  rw [reads, h.read k _ (by simp)]
  exact pageRead_put (img.pages.length_page k) (by simp)

variable {w}

/-- An accepted write is programmed: the page that was written, and the pages that were loaded. -/
lemma commits_of_accepted (f : Flash) (h : Accepted w) :
    ∃ img, Commits f (toWrite w, wordCount f (toWrite w)) img ∧
      ∀ k, expect (fun k => some ((load f).pages.page k)) (written w) k =
        some (img.pages.page k) := by
  cases w with
  | page key data =>
    obtain ⟨k, hkey, hlen⟩ := h
    have hprep : prepare (load f) (.page key data) =
        .ok { load f with pages := (load f).pages.update k data hlen } := by
      simp [prepare, applyPageUpdate, hkey, hlen]
      rfl
    refine ⟨_, commits_complete hprep (recordBlocks_loadRecords f), fun j => ?_⟩
    simp only [written, hkey, Option.map_some]
    exact expect_pages _ k j data
  | snapshot s =>
    obtain ⟨bs, hbs⟩ := Option.isSome_iff_exists.mp h
    have hrec : (recordBlocks { loadRecords f with snapshot := some s }).isSome := by
      obtain ⟨blocks, hblocks⟩ := Option.isSome_iff_exists.mp (recordBlocks_loadRecords f)
      obtain ⟨-, i, a, k, ka, -, hi, ha, hk, hka, -⟩ := recordBlocks_some hblocks
      have hs : historyCodec.block snapshotOffset (some s) = some [(snapshotOffset, bs)] :=
        congrArg (Option.map _) hbs
      simp [recordBlocks, hs, hi, ha, hk, hka]
    exact ⟨_, commits_complete rfl hrec, fun j => rfl⟩

lemma accepted_of_commits (h : Commits f (toWrite w, n) img) : Accepted w := by
  obtain ⟨hprep, hrec, -⟩ := h
  cases w with
  | page key data =>
    simp only [toWrite, prepare, applyPageUpdate] at hprep
    cases hkey : PageKey.fromKey key with
    | none =>
      rw [hkey] at hprep
      cases hprep
    | some k =>
      by_cases hlen : data.length = k.len
      · exact ⟨k, hkey, hlen⟩
      · simp only [hkey, hlen, dite_false] at hprep
        cases hprep
  | snapshot s =>
    cases hprep
    obtain ⟨blocks, hblocks⟩ := Option.isSome_iff_exists.mp hrec
    obtain ⟨v, i, a, k, ka, hs, -⟩ := recordBlocks_some hblocks
    obtain ⟨bs, hbs, -⟩ := Option.map_eq_some_iff.mp hs
    exact Option.isSome_iff_exists.mpr ⟨bs, hbs⟩

lemma writes_of_not_accepted (h : ¬ Accepted w) : writes f w = none := by
  unfold writes outcome
  cases hprep : prepare (load f) (toWrite w) with
  | error e => rfl
  | ok img =>
    have hrec : ¬ (recordBlocks img.records).isSome := fun hrec =>
      h (accepted_of_commits (commits_complete hprep hrec))
    simp [hrec]

variable (f)

lemma reads_of_not_accepted (h : ¬ Accepted w) : reads (keyStep f w) = reads f := by
  have hsame : SameReads (keyStep f w) f :=
    sameReads_of_not_commits fun img himg => h (accepted_of_commits himg)
  funext k
  rw [reads, hsame.read, reads]

lemma rewrites_of_accepted (h : Accepted w) :
    writes f w = written w ∧ Rewrites reads f (keyStep f w) (written w) (load f).pages.page := by
  obtain ⟨img, himg, hpages⟩ := commits_of_accepted f h
  have hback : readsBack (keyStep f w) img.records (toWrite w) := by cases w <;> rfl
  refine ⟨?_, page_load_of_reads, fun k => ?_⟩
  · simp only [keyStep] at hback
    simp [writes, outcome, himg.1, himg.2.1, hback]
  rw [hpages]
  exact reads_of_shows (shows_of_commits himg) k

lemma lawful_iff (w : FlashKeys.Write) :
    Lawful reads ⟨keyStep f w, expect (reads f) (writes f w)⟩ ↔ KeepsKeys f w := by
  by_cases h : Accepted w
  · obtain ⟨hw, hrew⟩ := rewrites_of_accepted f h
    rw [hw, lawful_rewrite_iff hrew]
    exact ⟨fun hall _ => hall, fun hk => hk h⟩
  · rw [writes_of_not_accepted h]
    refine iff_of_true (fun k b hb => ?_) fun hacc => absurd hacc h
    rw [← reads_of_not_accepted f h]
    exact hb

variable {f}

lemma expect_eq (h : KeepsKeys f w) : expect (reads f) (writes f w) = reads (keyStep f w) := by
  have hlaw := (lawful_iff f w).mpr h
  by_cases hacc : Accepted w
  · obtain ⟨hw, hrew⟩ := rewrites_of_accepted f hacc
    rw [hw] at hlaw ⊢
    exact expect_of_rewrite hrew hlaw
  · rw [writes_of_not_accepted hacc, reads_of_not_accepted f hacc]
    rfl

end Stm

/-! ### The RP2040 store -/

namespace Rp

open Pipoco.RpStore

variable (f : Flash) (op : Bool × FlashKeys.Write) {w : FlashKeys.Write}

def reads (k : PageKey) : Option (List UInt8) :=
  pageRead (RpStore.read f k.bytes (List.replicate k.len 0))

def writes : Option (PageKey × List UInt8) :=
  match persist f op.1 op.2 with
  | .ok _ => written op.2
  | .error _ => none

/-- A write that is accepted finds every page it does not write readable; and when the selected slot
carries the last number, it writes what is read already. -/
def KeepsKeys : Prop :=
  op.1 = false → Accepted op.2 →
    (AtLastSeq f.pair → ∀ k b, written op.2 = some (k, b) → reads f k = some b) ∧
      (¬ AtLastSeq f.pair → ∀ k, (∀ b, written op.2 ≠ some (k, b)) → (reads f k).isSome)

variable {f}

lemma reads_of_selects {slot : Fin 2} {seq : UInt32} (h : Selects f.scan slot seq) (k : PageKey) :
    reads f k = some (window (f slot).bytes k.slotOffset k.len) := by
  rw [reads, read_of_selects h k (by simp)]
  refine pageRead_put (length_window ?_) (by simp)
  rw [(f slot).size]
  cases k <;> decide

lemma reads_of_read {k : PageKey} {out out' : List UInt8} {n : ℕ}
    (h : RpStore.read f k.bytes out = (.ok n, out')) : reads f k = some (out'.take n) := by
  by_cases hsel : ∃ slot seq, Selects f.scan slot seq
  · obtain ⟨slot, seq, hsel⟩ := hsel
    have hpage : (window (f slot).bytes k.slotOffset k.len).length = k.len :=
      length_window (by rw [(f slot).size]; cases k <;> decide)
    have hout : k.len ≤ out.length := by
      by_contra hlt
      obtain ⟨saw, hscan⟩ := hsel
      simp [RpStore.read, hscan, readKey, not_le.mp hlt] at h
    rw [read_of_selects hsel k hout] at h
    have hbytes := pageRead_put hpage hout
    rw [h] at hbytes
    rw [reads_of_selects hsel k, ← hbytes]
    rfl
  · rw [read_of_not_selects fun slot seq hs => hsel ⟨slot, seq, hs⟩] at h
    cases h

lemma page_load_of_reads {k : PageKey} {b : List UInt8} (h : reads f k = some b) :
    (loadCurrent f f.scan).page k = b := by
  by_cases hsel : ∃ slot seq, Selects f.scan slot seq
  · obtain ⟨slot, seq, hsel⟩ := hsel
    rw [reads_of_selects hsel] at h
    rw [page_loadCurrent hsel]
    exact Option.some.inj h
  · rw [reads, read_of_not_selects fun slot seq hs => hsel ⟨slot, seq, hs⟩] at h
    cases h

variable (f)

lemma block_loadCurrentSnapshot (r : BootScan) :
    ∃ blocks, historyCodec.block snapshotOffset (loadCurrentSnapshot f r) = some blocks := by
  cases r with
  | valid slot seq saw => exact Codec.block_of_decode rfl
  | _ => exact ⟨[], rfl⟩

lemma page_updatePage (c : SlotContents) (j : PageKey) {data : List UInt8} (h : data.length = j.len) :
    (updatePage c j data h).page = Function.update c.page j data := by
  funext k
  cases j <;> cases k <;> rfl

lemma prepare_of_accepted (h : Accepted w) :
    ∃ pages snapshot blocks,
      prepare (loadCurrent f f.scan) (loadCurrentSnapshot f f.scan) w = .ok (pages, snapshot) ∧
      historyCodec.block snapshotOffset snapshot = some blocks ∧
      ∀ k, expect (fun k => some ((loadCurrent f f.scan).page k)) (written w) k =
        some (pages.page k) := by
  cases w with
  | page key data =>
    obtain ⟨j, hkey, hlen⟩ := h
    obtain ⟨blocks, hblocks⟩ := block_loadCurrentSnapshot f f.scan
    refine ⟨updatePage (loadCurrent f f.scan) j data hlen, _, blocks, ?_, hblocks, fun k => ?_⟩
    · simp [prepare, applyPageUpdate, hkey, hlen]
      rfl
    · simp only [written, hkey, Option.map_some, page_updatePage]
      exact expect_pages _ j k data
  | snapshot s =>
    obtain ⟨bs, hbs⟩ := Option.isSome_iff_exists.mp h
    exact ⟨_, some s, [(snapshotOffset, bs)], rfl, congrArg (Option.map _) hbs, fun k => rfl⟩

lemma persist_of_accepted (h : Accepted w) :
    ∃ sector, persist f false w = .ok (Function.update f (writeTarget f.scan) sector) ∧
      sector.slot.seq? = some (nextSeq f.scan) ∧
      ∀ k, expect (fun k => some ((loadCurrent f f.scan).page k)) (written w) k =
        some (window sector.bytes k.slotOffset k.len) := by
  obtain ⟨pages, snapshot, blocks, hprep, hblocks, hpages⟩ := prepare_of_accepted f h
  have hspan := Codec.span_block hblocks
  refine ⟨staged { pages with seq := nextSeq f.scan } blocks, ?_, seq?_staged hspan _, fun k => ?_⟩
  · simp [persist, hprep, stageSector, hblocks]
  · rw [hpages, window_page_staged hspan]
    cases k <;> rfl

lemma persist_of_not_accepted (h : ¬ Accepted w) : ∃ e, persist f false w = .error e := by
  cases w with
  | page key data =>
    cases hkey : PageKey.fromKey key with
    | none => exact ⟨.notFound, by simp [persist, prepare, applyPageUpdate, hkey]; rfl⟩
    | some k =>
      have hlen : ¬ data.length = k.len := fun hlen => h ⟨k, hkey, hlen⟩
      exact ⟨.io, by simp [persist, prepare, applyPageUpdate, hkey, hlen]; rfl⟩
  | snapshot s =>
    have hnone : historyCodec.block snapshotOffset (some s) = none := by
      refine Option.map_eq_none_iff.mpr ?_
      exact Option.not_isSome_iff_eq_none.mp h
    exact ⟨.io, by simp [persist, prepare, stageSector, hnone]⟩

lemma step_of_accepted (h : Accepted w) :
    writes f (false, w) = written w ∧
      (AtLastSeq f.pair → reads (step f (false, w)) = reads f ∧ ∀ k, (reads f k).isSome) ∧
      (¬ AtLastSeq f.pair →
        Rewrites reads f (step f (false, w)) (written w) (loadCurrent f f.scan).page) := by
  obtain ⟨sector, hok, hseq, hpages⟩ := persist_of_accepted f h
  have hstep : step f (false, w) = Function.update f (writeTarget f.scan) sector := by
    simp only [step, hok]
  have hpair : (step f (false, w)).pair = f.pair.replaced sector.slot := by
    funext i
    rw [hstep, Flash.pair, Pair.replaced]
    exact Function.apply_update (fun _ => Sector.slot) f (writeTarget f.scan) sector i
  refine ⟨by simp only [writes, hok], fun hlast => ?_, fun hlast => ⟨page_load_of_reads, fun k => ?_⟩⟩
  · obtain ⟨slot, hsel⟩ := hlast
    obtain ⟨hsel', hkept⟩ := selects_last_replaced hsel hseq
    rw [← hpair] at hsel' hkept
    have hbytes : (step f (false, w) slot).bytes = (f slot).bytes := congrArg Slot.bytes hkept
    refine ⟨funext fun k => ?_, fun k => ?_⟩
    · rw [reads_of_selects hsel' k, reads_of_selects hsel k, hbytes]
    · rw [reads_of_selects hsel k]
      rfl
  · have hsel := (selects_replaced_iff hseq _).mpr ⟨rfl, hlast⟩
    rw [← hpair] at hsel
    have hsec : step f (false, w) (writeTarget f.scan) = sector := by
      rw [hstep, Function.update_self]
    rw [hpages, reads_of_selects hsel k]
    exact congrArg (fun s : Sector => some (window s.bytes k.slotOffset k.len)) hsec

lemma step_of_refused (h : ¬ (op.1 = false ∧ Accepted op.2)) :
    writes f op = none ∧ step f op = f := by
  have herr : ∃ e, persist f op.1 op.2 = .error e := by
    by_cases hrun : op.1 = false
    · rw [hrun]
      exact persist_of_not_accepted f fun hacc => h ⟨hrun, hacc⟩
    · exact ⟨.engineRunning, by simp [persist, hrun]⟩
  obtain ⟨e, he⟩ := herr
  simp [writes, step, he]

lemma lawful_iff : Lawful reads ⟨step f op, expect (reads f) (writes f op)⟩ ↔ KeepsKeys f op := by
  obtain ⟨running, w⟩ := op
  by_cases h : running = false ∧ Accepted w
  · obtain ⟨rfl, hacc⟩ := h
    obtain ⟨hw, hlast, hnext⟩ := step_of_accepted f hacc
    rw [hw]
    by_cases hl : AtLastSeq f.pair
    · rw [lawful_unchanged_iff (hlast hl).1 (hlast hl).2]
      exact ⟨fun hall _ _ => ⟨fun _ => hall, fun hn => absurd hl hn⟩, fun hk => (hk rfl hacc).1 hl⟩
    · rw [lawful_rewrite_iff (hnext hl)]
      exact ⟨fun hall _ _ => ⟨fun hn => absurd hn hl, fun _ => hall⟩, fun hk => (hk rfl hacc).2 hl⟩
  · obtain ⟨hw, hstep⟩ := step_of_refused f (running, w) h
    rw [hw, hstep]
    exact iff_of_true (fun k b hb => hb) fun hrun hacc => absurd ⟨hrun, hacc⟩ h

variable {op}

lemma expect_eq {f : Flash} (h : KeepsKeys f op) :
    expect (reads f) (writes f op) = reads (step f op) := by
  have hlaw := (lawful_iff f op).mpr h
  obtain ⟨running, w⟩ := op
  by_cases hop : running = false ∧ Accepted w
  · obtain ⟨rfl, hacc⟩ := hop
    obtain ⟨hw, hlast, hnext⟩ := step_of_accepted f hacc
    rw [hw] at hlaw ⊢
    by_cases hl : AtLastSeq f.pair
    · rw [(hlast hl).1]
      exact expect_unchanged ((h rfl hacc).1 hl)
    · exact expect_of_rewrite (hnext hl) hlaw
  · obtain ⟨hw, hstep⟩ := step_of_refused f (running, w) hop
    rw [hw, hstep]
    rfl

end Rp

/-- **The keys are independent as long as they can be read.** For both stores, from any flash image
and along any operations: every key is read only with the bytes last written to it, or with those it
was read with at the start, exactly when every accepted write finds the pages it does not write
readable, and on the RP2040 writes nothing new once the selected slot carries the last number. What a
successful read returns does not depend on the buffer. -/
theorem keys_independent_iff (f : StmStore.Flash) (ws : List Write) (g : RpStore.Flash)
    (ops : List (Bool × Write)) :
    ((KeyLaw Stm.keyStep Stm.reads Stm.writes f ws ↔ Along Stm.keyStep Stm.KeepsKeys f ws) ∧
      ∀ (k : PageKey) (out out' : List UInt8) (n : ℕ),
        StmStore.read f k.bytes out = (.ok n, out') → Stm.reads f k = some (out'.take n)) ∧
    (KeyLaw RpStore.step Rp.reads Rp.writes g ops ↔ Along RpStore.step Rp.KeepsKeys g ops) ∧
      ∀ (k : PageKey) (out out' : List UInt8) (n : ℕ),
        RpStore.read g k.bytes out = (.ok n, out') → Rp.reads g k = some (out'.take n) :=
  ⟨⟨keyLaw_iff Stm.lawful_iff (fun _ _ => Stm.expect_eq) f ws, fun _ _ _ _ => Stm.reads_of_read⟩,
    keyLaw_iff Rp.lawful_iff (fun _ _ => Rp.expect_eq) g ops, fun _ _ _ _ => Rp.reads_of_read⟩

/-! ### A page that was never written -/

def fuelWrite : Write := .page PageKey.fuel.bytes (List.replicate fuelPageLen 1)

lemma accepted_fuelWrite : Accepted fuelWrite := ⟨.fuel, by decide, List.length_replicate⟩

lemma Stm.read_blankFlash (key out : List UInt8) :
    StmStore.read StmStore.blankFlash key out = (.error .notFound, out) := by
  have hheader : ∀ s, (StmStore.blankFlash.header s).ok = false := by
    intro s
    show (StmStore.readHeader StmStore.erasedSector).ok = false
    rfl
  have hnewest : StmStore.blankFlash.newest = none := by
    simp [StmStore.Flash.newest, StmStore.newestSector, hheader]
  simp only [StmStore.read, hnewest]

namespace Rp

def blankFlash : RpStore.Flash := fun _ => ⟨RpStore.erasedSector, List.length_replicate⟩

lemma not_selects_blankFlash : ∀ slot seq, ¬ Selects blankFlash.scan slot seq :=
  not_selects_of_seq? fun _ => congrArg SlotState.seq? (classifySlot_erased (by decide))

lemma loadCurrent_blankFlash : RpStore.loadCurrent blankFlash blankFlash.scan = .zeroed := by
  cases h : blankFlash.scan with
  | valid slot seq saw => exact absurd ⟨saw, h⟩ (not_selects_blankFlash slot seq)
  | _ => rfl

end Rp

/-- On erased flash a write of the fuel page makes the ign page readable, as zeros, in both
stores. -/
theorem unwritten_page_becomes_readable :
    (Stm.reads StmStore.blankFlash .ign = none ∧
      Stm.reads (Stm.keyStep StmStore.blankFlash fuelWrite) .ign =
        some (List.replicate ignPageLen 0) ∧
      ¬ KeyLaw Stm.keyStep Stm.reads Stm.writes StmStore.blankFlash [fuelWrite]) ∧
    Rp.reads Rp.blankFlash .ign = none ∧
      Rp.reads (RpStore.step Rp.blankFlash (false, fuelWrite)) .ign =
        some (List.replicate ignPageLen 0) ∧
      ¬ KeyLaw RpStore.step Rp.reads Rp.writes Rp.blankFlash [(false, fuelWrite)] := by
  have hign : ∀ b, written fuelWrite ≠ some (.ign, b) := by
    simp [fuelWrite, written]
  refine ⟨?_, ?_⟩
  · have hnone : Stm.reads StmStore.blankFlash .ign = none := by
      rfl
    refine ⟨hnone, ?_, fun hlaw => ?_⟩
    · have hrew := (Stm.rewrites_of_accepted StmStore.blankFlash accepted_fuelWrite).2
      rw [hrew.reads_eq, expect_not_written _ hign]
      refine congrArg some ?_
      show (StmStore.read StmStore.blankFlash PageKey.ign.bytes
        (List.replicate PageKey.ign.len 0)).2 = _
      rw [Stm.read_blankFlash]
      rfl
    · have halong := (keyLaw_iff Stm.lawful_iff (fun _ _ => Stm.expect_eq) _ _).mp hlaw
      have hkeeps := halong.1 accepted_fuelWrite .ign hign
      cases hkeeps
  · have hnone : Rp.reads Rp.blankFlash .ign = none := by
      rw [Rp.reads, RpStore.read_of_not_selects Rp.not_selects_blankFlash]
      rfl
    have hlast : ¬ AtLastSeq Rp.blankFlash.pair := fun h =>
      Rp.not_selects_blankFlash _ _ h.choose_spec
    refine ⟨hnone, ?_, fun hlaw => ?_⟩
    · have hrew := (Rp.step_of_accepted Rp.blankFlash accepted_fuelWrite).2.2 hlast
      rw [hrew.reads_eq, expect_not_written _ hign, Rp.loadCurrent_blankFlash]
      rfl
    · have halong := (keyLaw_iff Rp.lawful_iff (fun _ _ => Rp.expect_eq) _ _).mp hlaw
      have hkeeps := (halong.1 rfl accepted_fuelWrite).2 hlast .ign hign
      rw [hnone] at hkeeps
      cases hkeeps

end Pipoco.FlashKeys
