import Pipoco.StmStore

/-!
Power loss in the STM32F4 store.

A write never touches the sector that is read. As long as its last half-word, the marker, has not
been programmed, the header of the sector it rewrites is not valid, so every read and every load
goes to the old sector and returns what it returned before. With the marker the new sector is the
newest, around the wrap of the sequence number too, and everything is read from it as it was
programmed.
-/

namespace Pipoco.StmStore

open Bytes Kv Nor SideRecords ObdHistory Runs Codec Flash PageKey

/-! ### The newest sector and the target -/

variable (f : Flash) {s : ActiveSector} (sec : Sector)

lemma readSeq_eq (sector : List UInt8) :
    readSeq sector = if (readHeader sector).ok then some (readHeader sector).seq else none := by
  unfold readSeq readHeader
  split
  · rfl
  · split <;> rfl

/-- Either the newest sector is the one that is not written, and its number is counted up, or
neither header is valid and the first sector is written. -/
lemma target_cases :
    (∃ s, f.newest = some s ∧ (f.header s).ok = true ∧ f.target = s.other ∧
        f.newSeq = (f.header s).seq + 1) ∨
      (f.newest = none ∧ (∀ s, (f.header s).ok = false) ∧ f.target = .a ∧ f.newSeq = 1) := by
  have hseq : ∀ s, f.seq s = if (f.header s).ok then some (f.header s).seq else none :=
    fun s => readSeq_eq (f s).bytes
  unfold newest newestSector target newSeq
  rw [hseq, hseq]
  cases ha : (f.header .a).ok <;> cases hb : (f.header .b).ok
  · refine .inr ⟨rfl, fun s => ?_, rfl, rfl⟩
    cases s
    · exact ha
    · exact hb
  · exact .inl ⟨.b, rfl, hb, rfl, rfl⟩
  · exact .inl ⟨.a, rfl, ha, rfl, rfl⟩
  · by_cases hlt : (f.header .b).seq - (f.header .a).seq < 0x8000
    · exact .inl ⟨.b, by simp [hlt], hb, by simp [targetSector, hlt, ActiveSector.other],
        by simp [curSeq, hlt]⟩
    · exact .inl ⟨.a, by simp [hlt], ha, by simp [targetSector, hlt, ActiveSector.other],
        by simp [curSeq, hlt]⟩

lemma other_ne (s : ActiveSector) : s ≠ s.other := by
  cases s <;> decide

def Flash.replaced : Flash := Function.update f f.target sec

lemma header_replaced_target : (f.replaced sec).header f.target = readHeader sec.bytes := by
  rw [header, replaced, Function.update_self]

variable {f}

lemma header_replaced_of_ne (h : s ≠ f.target) (sec : Sector) :
    (f.replaced sec).header s = f.header s := by
  rw [header, replaced, Function.update_of_ne h, header]

/-- The next number is ahead of the last one around the circle. -/
lemma succ_ahead (x : UInt16) : x + 1 - x < 0x8000 ∧ ¬ x - (x + 1) < 0x8000 := by
  have hahead : x + 1 - x = 1 := by grind
  have hbehind : x - (x + 1) = 0xFFFF := by grind
  rw [hahead, hbehind]
  decide

lemma replaced_newest (h : f.newest = some s) (sec : Sector) : f.replaced sec s = f s := by
  rcases target_cases f with ⟨s', hs', -, htarget, -⟩ | ⟨hnone, -⟩
  · obtain rfl : s' = s := Option.some.inj (hs'.symm.trans h)
    refine Function.update_of_ne ?_ _ _
    rw [htarget]
    exact other_ne s'
  · rw [hnone] at h
    cases h

lemma newest_of_other_not_ok (hok : (f.header s).ok = true) (hnot : (f.header s.other).ok = false) :
    f.newest = some s := by
  cases s <;> simp_all [newest, newestSector, ActiveSector.other]

lemma newest_of_next (hok : (f.header s).ok = true) (hother : (f.header s.other).ok = true)
    (hseq : (f.header s.other).seq = (f.header s).seq + 1) : f.newest = some s.other := by
  have hahead := succ_ahead (f.header s).seq
  cases s <;> simp_all [newest, newestSector, ActiveSector.other]

variable (f) {sec}

/-- A sector without a valid header does not change which one is newest. -/
lemma newest_replaced_of_not_ok (hnot : (readHeader sec.bytes).ok = false) :
    (f.replaced sec).newest = f.newest := by
  have hsec := header_replaced_target f sec
  rcases target_cases f with ⟨s, hs, hok, htarget, -⟩ | ⟨hnone, hall, htarget, -⟩
  · have hkept : (f.replaced sec).header s = f.header s :=
      header_replaced_of_ne (by rw [htarget]; exact other_ne s) sec
    rw [htarget] at hsec
    rw [hs]
    exact newest_of_other_not_ok (by rw [hkept, hok]) (by rw [hsec, hnot])
  · have hb : (f.replaced sec).header .b = f.header .b :=
      header_replaced_of_ne (by rw [htarget]; decide) sec
    rw [htarget] at hsec
    simp [newest, newestSector, hsec, hnot, hb, hall]

/-- A valid header with the next number makes the written sector the newest, also when the number
wraps. -/
lemma newest_replaced_of_ok (hok : (readHeader sec.bytes).ok = true)
    (hseq : (readHeader sec.bytes).seq = f.newSeq) : (f.replaced sec).newest = some f.target := by
  have hsec := header_replaced_target f sec
  rcases target_cases f with ⟨s, hs, hsok, htarget, hnew⟩ | ⟨-, hall, htarget, -⟩
  · have hkept : (f.replaced sec).header s = f.header s :=
      header_replaced_of_ne (by rw [htarget]; exact other_ne s) sec
    rw [htarget] at hsec ⊢
    exact newest_of_next (by rw [hkept, hsok]) (by rw [hsec, hok]) (by rw [hsec, hseq, hnew, hkept])
  · have hb : (f.replaced sec).header .b = f.header .b :=
      header_replaced_of_ne (by rw [htarget]; decide) sec
    rw [htarget] at hsec ⊢
    exact newest_of_other_not_ok (by rw [hsec, hok]) (by rw [ActiveSector.other, hb]; exact hall .b)

variable (sec) {f}

/-! ### What is read -/

variable {α : Type} (c : Codec α) (off : ℕ)

/-- Every read and every load returns the same. -/
structure SameReads (f f' : Flash) : Prop where
  read : ∀ key out, StmStore.read f key out = StmStore.read f' key out
  records : loadRecords f = loadRecords f'

lemma loadRecord_congr {f' : Flash} (hnew : f'.newest = f.newest)
    (hsec : ∀ s, f.newest = some s → f' s = f s) : loadRecord c off f' = loadRecord c off f := by
  unfold loadRecord
  rw [hnew]
  cases hs : f.newest with
  | none => rfl
  | some s =>
    dsimp only
    rw [hsec s hs]

lemma sameReads_of_newest {f' : Flash} (hnew : f'.newest = f.newest)
    (hsec : ∀ s, f.newest = some s → f' s = f s) : SameReads f' f := by
  refine ⟨fun key out => ?_, ?_⟩
  · unfold StmStore.read header
    rw [hnew]
    cases hs : f.newest with
    | none => rfl
    | some s =>
      dsimp only
      rw [hsec s hs]
  · simp only [loadRecords, loadSnapshot, loadIdentity, loadCommandAudit, loadKey, loadKeyAudit,
      loadRecord_congr _ _ hnew hsec]

/-- The reads and loads return this image. -/
structure Shows (f : Flash) (img : Image) : Prop where
  read : ∀ (k : PageKey) (out : List UInt8), k.len ≤ out.length →
    StmStore.read f k.bytes out = (.ok k.len, put out 0 (img.pages.page k))
  records : loadRecords f = img.records

/-! ### Before the marker -/

variable (seq : UInt16) {r : Records} {e : Write × ℕ} {img : Image} (p : PageImages)
  {blocks records : List (ℕ × List UInt8)}

lemma layout_header :
    Layout (List.replicate pageHeaderLen (0xFF : UInt8)).length (headerBlocks seq p) := by
  refine ⟨?_, ?_⟩ <;> simp [headerBlocks, Clear, pageHeaderLen]

lemma length_encodeRewriteHeader : (encodeRewriteHeader seq p).length = pageHeaderLen := by
  simp [encodeRewriteHeader]

lemma marker_encodeRewriteHeader : window (encodeRewriteHeader seq p) 6 2 = [0xFF, 0xFF] := by
  rw [encodeRewriteHeader, window_putAll_of_clear, window_replicate _ (by decide)]
  · rfl
  · simp [headerBlocks, Clear]

lemma recordBlocks_some (h : recordBlocks r = some blocks) :
    ∃ s i a k ka, historyCodec.block snapshotOffset r.snapshot = some s ∧
      identityCodec.block identityOffset r.identity = some i ∧
      commandAuditCodec.block commandAuditOffset r.commandAudit = some a ∧
      keyCodec.block keyOffset r.key = some k ∧
      keyAuditCodec.block keyAuditOffset r.keyAudit = some ka ∧
      blocks = s ++ (i ++ (a ++ (k ++ ka))) := by
  simp only [recordBlocks, Option.bind_eq_bind, Option.bind_eq_some_iff, Option.some.injEq] at h
  obtain ⟨s, hs, i, hi, a, ha, k, hk, ka, hka, rfl⟩ := h
  exact ⟨s, i, a, k, ka, hs, hi, ha, hk, hka, rfl⟩

lemma span_recordBlocks (h : recordBlocks r = some blocks) :
    Span snapshotOffset usedBytes blocks := by
  obtain ⟨s, i, a, k, ka, hs, hi, ha, hk, hka, rfl⟩ := recordBlocks_some h
  have hka := span_block hka
  have hk := (span_block hk).append hka (by decide) (by decide)
  have ha := (span_block ha).append hk (by decide) (by decide)
  have hi := (span_block hi).append ha (by decide) (by decide)
  exact (span_block hs).append hi (by decide) (by decide)

/-- Only the header reaches the marker, and it programs ones there. -/
lemma word_of_blocks {seq : UInt16} {p : PageImages} (hr : Span snapshotOffset usedBytes records)
    {w : ℕ × UInt16} (hw : w ∈ wordsOf (pageBlocks seq p ++ records)) :
    w.2 = 0xFFFF ∨ Clear w.1 2 6 2 := by
  obtain ⟨b, hb, hw⟩ := List.mem_flatMap.mp hw
  obtain ⟨i, rfl⟩ := mem_halfWords hw
  have hbeyond : 8 ≤ b.1 → Clear (b.1 + 2 * i) 2 6 2 := fun h => Or.inr (by omega)
  rcases List.mem_append.mp hb with hb | hb
  · simp only [pageBlocks, List.mem_cons, List.not_mem_nil, or_false] at hb
    rcases hb with rfl | rfl | rfl | rfl
    · by_cases hi : i = 3
      · have hmarker : window (encodeRewriteHeader seq p) (2 * i) 2 = [0xFF, 0xFF] := by
          rw [hi]
          exact marker_encodeRewriteHeader seq p
        refine .inl ?_
        dsimp only
        rw [hmarker]
        decide
      · refine .inr ?_
        dsimp only [Clear]
        omega
    all_goals
      refine .inr (hbeyond ?_)
      dsimp only
      decide
  · have hlo : snapshotOffset ≤ b.1 := (hr.within b hb).1
    have hoff : snapshotOffset = 1156 := rfl
    exact .inr (hbeyond (by omega))

/-- The write of this event is not refused, its records can be staged, and all its half-words,
the marker last, are programmed. -/
def Commits (f : Flash) (e : Write × ℕ) (img : Image) : Prop :=
  prepare (load f) e.1 = .ok img ∧ (recordBlocks img.records).isSome ∧
    (rewriteWords f.newSeq img).length ≤ e.2

lemma header_of_not_marked {words : List (ℕ × UInt16)}
    (h : ∀ w ∈ words, w.2 = 0xFFFF ∨ Clear w.1 2 6 2) :
    (readHeader (rewritten words).bytes).ok = false := by
  have hmarker : window (rewritten words).bytes 6 2 = [0xFF, 0xFF] := by
    rw [rewritten, window_programAll h, erasedSector, window_replicate _ (by decide)]
    rfl
  unfold readHeader
  rw [hmarker]
  split
  · rfl
  · rw [if_pos (by decide)]
    rfl

lemma not_marked_of_not_commits (hprep : prepare (load f) e.1 = .ok img) (h : ¬ Commits f e img) :
    ∀ w ∈ (rewriteWords f.newSeq img).take e.2, w.2 = 0xFFFF ∨ Clear w.1 2 6 2 := by
  intro w hw
  unfold rewriteWords at hw
  cases hrec : recordBlocks img.records with
  | none =>
    rw [hrec] at hw
    have hmem : w ∈ wordsOf (pageBlocks f.newSeq img.pages ++ []) := by
      exact List.mem_of_mem_take hw
    exact word_of_blocks (span_nil snapshotOffset usedBytes) hmem
  | some records =>
    rw [hrec] at hw
    have hshort : e.2 < (rewriteWords f.newSeq img).length := by
      by_contra hle
      exact h ⟨hprep, by rw [hrec]; rfl, by omega⟩
    simp only [rewriteWords, hrec, List.length_append, List.length_singleton] at hshort
    rw [List.take_append_of_le_length (by omega)] at hw
    exact word_of_blocks (span_recordBlocks hrec) (List.mem_of_mem_take hw)

/-- **Before the marker nothing changes.** -/
theorem sameReads_of_not_commits (h : ∀ img, ¬ Commits f e img) : SameReads (step f e) f := by
  unfold step
  cases hprep : prepare (load f) e.1 with
  | error err => exact ⟨fun _ _ => rfl, rfl⟩
  | ok img =>
    have hnot := header_of_not_marked (not_marked_of_not_commits hprep (h img))
    refine sameReads_of_newest (newest_replaced_of_not_ok f hnot) fun s hs => ?_
    exact replaced_newest hs _

/-! ### After the marker -/

lemma span_pageBlocks : Span 0 snapshotOffset (pageBlocks seq p) := by
  refine Ascends.span ?_
  simp [Ascends, pageBlocks, length_encodeRewriteHeader, p.length_page, pageOffset, pageHeaderLen,
    fuelPageLen, ignPageLen, anglesPageLen, PageKey.len, snapshotOffset]

lemma even_block {c : Codec α} (hc : c.len % 2 = 0) {off : ℕ} {r : Option α}
    {v : List (ℕ × List UInt8)} (h : c.block off r = some v) : ∀ b ∈ v, b.2.length % 2 = 0 := by
  intro b hb
  cases r with
  | none =>
    cases h
    cases hb
  | some a =>
    obtain ⟨bs, hbs, rfl⟩ := Option.map_eq_some_iff.mp h
    rw [List.mem_singleton.mp hb, c.length_of_encode hbs, hc]

lemma even_recordBlocks (h : recordBlocks r = some blocks) : ∀ b ∈ blocks, b.2.length % 2 = 0 := by
  obtain ⟨s, i, a, k, ka, hs, hi, ha, hk, hka, rfl⟩ := recordBlocks_some h
  intro b hb
  simp only [List.mem_append] at hb
  rcases hb with hb | hb | hb | hb | hb
  · exact even_block rfl hs b hb
  · exact even_block rfl hi b hb
  · exact even_block rfl ha b hb
  · exact even_block rfl hk b hb
  · exact even_block rfl hka b hb

lemma even_pageBlocks : ∀ b ∈ pageBlocks seq p, b.2.length % 2 = 0 := by
  simp [pageBlocks, length_encodeRewriteHeader, p.length_page, PageKey.len, pageHeaderLen,
    fuelPageLen, ignPageLen, anglesPageLen]

/-- The sector with all half-words of the image. -/
abbrev completed (seq : UInt16) (img : Image) : Sector := rewritten (rewriteWords seq img)

section Completed

variable {seq : UInt16} {img : Image} {records : List (ℕ × List UInt8)}
  (hrec : recordBlocks img.records = some records) {off : ℕ}
include hrec

lemma span_blocks : Span 0 usedBytes (pageBlocks seq img.pages ++ records) :=
  (span_pageBlocks seq img.pages).append (span_recordBlocks hrec) (by decide) (by decide)

lemma bytes_completed :
    (completed seq img).bytes =
      put (putAll erasedSector (pageBlocks seq img.pages ++ records)) 6 [0, 0] := by
  have hspan : Span 0 usedBytes (pageBlocks seq img.pages ++ records) := span_blocks hrec
  have hsize : usedBytes ≤ sectorBytes := by decide
  have hblocks : programAll erasedSector (wordsOf (pageBlocks seq img.pages ++ records)) =
      putAll erasedSector (pageBlocks seq img.pages ++ records) := by
    refine programAll_blocks hspan.apart (fun b hb => ?_) fun b hb => ?_
    · rcases List.mem_append.mp hb with hb | hb
      · exact even_pageBlocks seq img.pages b hb
      · exact even_recordBlocks hrec b hb
    · exact erased_replicate ((hspan.within b hb).2.trans hsize)
  have hroom : 6 + 2 ≤ (putAll erasedSector (pageBlocks seq img.pages ++ records)).length := by
    rw [length_putAll, erasedSector, List.length_replicate]
    decide
  simp only [completed, rewritten, rewriteWords, hrec]
  rw [programAll_append, hblocks]
  exact program_zeros hroom

lemma window_completed {len : ℕ} (h : Clear 6 2 off len) :
    window (completed seq img).bytes off len =
      window (putAll erasedSector (pageBlocks seq img.pages ++ records)) off len := by
  rw [bytes_completed hrec]
  exact window_put_of_clear h

lemma layout_blocks : Layout erasedSector.length (pageBlocks seq img.pages ++ records) := by
  rw [erasedSector, List.length_replicate]
  exact (span_blocks hrec).layout (by decide)

lemma window_header_completed {len : ℕ} (h : Clear 6 2 off len) (hin : off + len ≤ pageHeaderLen) :
    window (completed seq img).bytes off len =
      window (encodeRewriteHeader seq img.pages) off len := by
  have hheader : window (putAll erasedSector (pageBlocks seq img.pages ++ records)) 0 pageHeaderLen =
      encodeRewriteHeader seq img.pages :=
    window_putAll_of_length (layout_blocks hrec) (by simp [pageBlocks])
      (length_encodeRewriteHeader _ _)
  rw [window_completed hrec h, ← hheader, window_window _ hin, Nat.zero_add]

lemma u16_header_completed {v : UInt16} (h : Clear 6 2 off 2)
    (hb : (off, le16 v) ∈ headerBlocks seq img.pages) (hin : off + 2 ≤ pageHeaderLen) :
    u16 (window (completed seq img).bytes off 2) = v := by
  rw [window_header_completed hrec h hin]
  exact (congrArg u16 (window_putAll_of_length (layout_header _ _) hb (length_le16 v))).trans (u16_le16 v)

lemma header_completed :
    (readHeader (completed seq img).bytes).ok = true ∧
      (readHeader (completed seq img).bytes).seq = seq ∧
      (∀ k, ((readHeader (completed seq img).bytes).pageLen k).toNat = k.len) ∧
      ∀ k, (readHeader (completed seq img).bytes).pageCrc k = crc16 (img.pages.page k) := by
  have hmagic : u32 (window (completed seq img).bytes 0 4) = magic := by
    have hfield : window (encodeRewriteHeader seq img.pages) 0 4 = [0x56, 0x4B, 0x50, 0x32] :=
      window_putAll_of_length (layout_header _ _) (by simp [headerBlocks]) rfl
    rw [window_header_completed hrec (by decide) (by decide), hfield]
    decide
  have hmarker : u16 (window (completed seq img).bytes 6 2) = 0 := by
    have hroom : 6 + ([0, 0] : List UInt8).length ≤
        (putAll erasedSector (pageBlocks seq img.pages ++ records)).length := by
      rw [length_putAll, erasedSector, List.length_replicate]
      decide
    rw [bytes_completed hrec]
    exact (congrArg u16 (window_put_self hroom)).trans (by decide)
  have hheader : readHeader (completed seq img).bytes =
      { ok := true
        seq := u16 (window (completed seq img).bytes 8 2)
        pageLen := fun k => u16 (window (completed seq img).bytes (headerLenOffset k) 2)
        pageCrc := fun k => u16 (window (completed seq img).bytes (headerCrcOffset k) 2) } := by
    unfold readHeader
    rw [if_neg (not_not.mpr hmagic), if_neg (not_not.mpr hmarker)]
  rw [hheader]
  refine ⟨rfl, ?_, fun k => ?_, fun k => ?_⟩
  · exact u16_header_completed hrec (by decide) (by simp [headerBlocks]) (by decide)
  · have hlen : u16 (window (completed seq img).bytes (headerLenOffset k) 2) = .ofNat k.len := by
      cases k <;>
        exact u16_header_completed hrec (by decide)
          (by simp [headerBlocks, headerLenOffset, PageKey.len]) (by decide)
    dsimp only
    rw [hlen]
    cases k <;> rfl
  · cases k <;>
      exact u16_header_completed hrec (by decide) (by simp [headerBlocks, headerCrcOffset])
        (by decide)

lemma page_completed (k : PageKey) :
    window (completed seq img).bytes (pageOffset k) k.len = img.pages.page k := by
  have hclear : Clear 6 2 (pageOffset k) k.len := by
    cases k <;> exact Or.inl (by decide)
  rw [window_completed hrec hclear]
  refine window_putAll_of_length (layout_blocks hrec) ?_ (img.pages.length_page k)
  cases k <;> simp [pageBlocks]

/-- A record of the completed sector, between the blocks before and after it. -/
lemma record_completed {c : Codec α} {r : Option α} {u v w : List (ℕ × List UInt8)}
    (hv : c.block off r = some v) (hsplit : pageBlocks seq img.pages ++ records = u ++ (v ++ w))
    (hu : Span 0 off u) (hw : Span (off + c.len) usedBytes w) (hoff : 8 ≤ off)
    (hend : off + c.len ≤ usedBytes) :
    c.decode (window (completed seq img).bytes off c.len) = r.map c.stored := by
  rw [window_completed hrec (Or.inl hoff), hsplit]
  exact decode_window hv hu hw (Nat.zero_le _) hend (by decide)

end Completed

def Image.stored (img : Image) : Image where
  pages := img.pages
  records :=
    { snapshot := img.records.snapshot.map Snapshot.stored
      identity := img.records.identity.map IdentityRecord.stored
      commandAudit := img.records.commandAudit.map CommandAudit.stored
      key := img.records.key
      keyAudit := img.records.keyAudit }

lemma loadRecord_of_newest (h : f.newest = some s) :
    loadRecord c off f = c.decode (window (f s).bytes off c.len) := by
  rw [loadRecord, h]

/-- The records of a flash whose newest sector was completed with an image. -/
lemma loadRecords_completed {seq : UInt16} (hrec : recordBlocks img.records = some records)
    (hnewest : f.newest = some s) (hsec : f s = completed seq img) :
    loadRecords f = img.stored.records := by
  obtain ⟨s, i, a, k, ka, hs, hi, ha, hk, hka, rfl⟩ := recordBlocks_some hrec
  -- the blocks before and after each record
  have hp := span_pageBlocks seq img.pages
  have hps := hp.append (span_block hs) (by decide) (by decide)
  have hpi := hps.append (span_block hi) (by decide) (by decide)
  have hpa := hpi.append (span_block ha) (by decide) (by decide)
  have hpk := hpa.append (span_block hk) (by decide) (by decide)
  have hka' := span_block hka
  have hk' := (span_block hk).append hka' (by decide) (by decide)
  have ha' := (span_block ha).append hk' (by decide) (by decide)
  have hi' := (span_block hi).append ha' (by decide) (by decide)
  simp only [loadRecords, loadSnapshot, loadIdentity, loadCommandAudit, loadKey, loadKeyAudit,
    loadRecord_of_newest _ _ hnewest, hsec]
  rw [record_completed hrec hs rfl hp hi' (by decide) (by decide),
    record_completed hrec hi (by simp) hps ha' (by decide) (by decide),
    record_completed hrec ha (by simp) hpi hk' (by decide) (by decide),
    record_completed hrec hk (by simp) hpa hka' (by decide) (by decide),
    record_completed hrec hka (w := []) (by simp) hpk (span_nil _ _) (by decide) (by decide)]
  simp [Image.stored, historyCodec, identityCodec, commandAuditCodec, keyCodec, keyAuditCodec]

lemma length_window_page (k : PageKey) : (window sec.bytes (pageOffset k) k.len).length = k.len := by
  refine length_window ?_
  rw [sec.size]
  cases k <;> decide

lemma read_of_good (hs : f.newest = some s) {k : PageKey}
    (hk : validatePageImage (f.header s) k (window (f s).bytes (pageOffset k) k.len) = true)
    {out : List UInt8} (hout : k.len ≤ out.length) :
    read f k.bytes out = (.ok k.len, put out 0 (window (f s).bytes (pageOffset k) k.len)) := by
  have hwin : window (put out 0 (window (f s).bytes (pageOffset k) k.len)) 0 k.len =
      window (f s).bytes (pageOffset k) k.len :=
    window_put_zero (length_window_page (f s) k) hout
  have hhdr : ((f.header s).pageLen k).toNat = k.len := by
    simp only [validatePageImage, Bool.and_eq_true, beq_iff_eq] at hk
    exact hk.1.1.2
  have hok : ¬ (((f.header s).pageLen k).toNat ≠ k.len ∨ out.length < k.len) := by
    omega
  simp only [read, hs, fromKey_bytes]
  rw [if_neg hok, hwin, if_pos hk]

/-- **After the marker the new image is read.** -/
theorem shows_of_commits (h : Commits f e img) : Shows (step f e) img.stored := by
  obtain ⟨hprep, hsome, hlen⟩ := h
  obtain ⟨records, hrec⟩ := Option.isSome_iff_exists.mp hsome
  have hstep : step f e = f.replaced (completed f.newSeq img) := by
    rw [step, hprep]
    dsimp only
    rw [List.take_of_length_le hlen]
    rfl
  set sec := completed f.newSeq img
  obtain ⟨hok, hseq, hpageLen, hpageCrc⟩ :
      (readHeader sec.bytes).ok = true ∧ (readHeader sec.bytes).seq = f.newSeq ∧
        (∀ k, ((readHeader sec.bytes).pageLen k).toNat = k.len) ∧
        ∀ k, (readHeader sec.bytes).pageCrc k = crc16 (img.pages.page k) := header_completed hrec
  have hnewest : (step f e).newest = some f.target := by
    rw [hstep]
    exact newest_replaced_of_ok f hok hseq
  have hsec : step f e f.target = sec := by
    rw [hstep, replaced, Function.update_self]
  refine ⟨fun k out hout => ?_, loadRecords_completed hrec hnewest hsec⟩
  have hpage : window (step f e f.target).bytes (pageOffset k) k.len = img.pages.page k := by
    rw [hsec, page_completed hrec]
  have hvalid : validatePageImage ((step f e).header f.target) k (img.pages.page k) = true := by
    simp [validatePageImage, header, hsec, sec, hok, hpageLen, hpageCrc, img.pages.length_page]
  rw [← hpage] at hvalid
  exact (read_of_good hnewest hvalid hout).trans (by rw [hpage]; rfl)

/-! ### Good images -/

variable (k : PageKey)

/-- The newest sector is valid and all its pages check. -/
def Good (f : Flash) : Prop :=
  ∃ s, f.newest = some s ∧
    ∀ k, validatePageImage (f.header s) k (window (f s).bytes (pageOffset k) k.len) = true

lemma shows_load (h : Good f) : Shows f (load f) := by
  obtain ⟨s, hs, hk⟩ := h
  refine ⟨fun k out hout => ?_, rfl⟩
  have hload : (load f).pages.page k = window (f s).bytes (pageOffset k) k.len := by
    have hzeros : k.len ≤ (List.replicate k.len (0 : UInt8)).length := by simp
    simp only [load, loadCurrentPages, read_of_good hs (hk k) hzeros]
    exact put_zero_of_length (by rw [length_window_page, List.length_replicate])
  rw [hload]
  exact read_of_good hs (hk k) hout

lemma load_of_shows (h : Shows f img) : load f = img := by
  have hpages : loadCurrentPages f = img.pages := by
    refine PageImages.ext (funext fun k => ?_)
    have hzeros : k.len ≤ (List.replicate k.len (0 : UInt8)).length := by simp
    simp only [loadCurrentPages, h.read k _ hzeros]
    exact put_zero_of_length (by rw [img.pages.length_page, List.length_replicate])
  obtain ⟨pages, records⟩ := img
  exact congrArg₂ Image.mk hpages h.records

lemma good_of_shows (h : Shows f img) : Good f := by
  have hread := fun k : PageKey => congrArg Prod.fst
    (h.read k (List.replicate k.len 0) (by simp))
  cases hs : f.newest with
  | none => simpa [StmStore.read, hs] using hread .fuel
  | some s =>
    refine ⟨s, hs, fun k => ?_⟩
    have hk := hread k
    simp only [StmStore.read, hs, fromKey_bytes] at hk
    split at hk
    · cases hk
    · have hwin : window (put (List.replicate k.len 0) 0 (window (f s).bytes (pageOffset k) k.len)) 0
          k.len = window (f s).bytes (pageOffset k) k.len :=
        window_put_zero (length_window_page (f s) k) (by simp)
      rw [hwin] at hk
      split at hk
      · assumption
      · cases hk

/-! ### Images under writes -/

variable {w : Write}

/-- The record of the write is read back as it was given. Every identity record that is accepted
and every key is; a history with more codes than its capacity and an audit with erased lengths are
not. -/
def Write.Exact : Write → Prop
  | .snapshot s => s.stored = s
  | .commandAudit a => a.stored = a
  | _ => True

lemma map_stored_loadRecord (f : Flash) :
    (loadRecord c off f).map c.stored = loadRecord c off f := by
  unfold loadRecord
  cases f.newest with
  | none => rfl
  | some s => exact map_stored_of_decode rfl

lemma stored_of_validate {r : IdentityRecord} {u : Unit} (h : validateIdentityRecord r = .ok u) :
    r.stored = r := by
  unfold validateIdentityRecord at h
  split at h
  · cases h
  · next hlens =>
    simp only [not_or] at hlens
    simp [IdentityRecord.stored, min_of_not_lt, hlens]

lemma ok_of_bind {β ε : Type} {x : Except ε α} {g : α → β} {b : β}
    (h : (x >>= fun a => .ok (g a)) = .ok b) : ∃ a, x = .ok a ∧ g a = b := by
  cases x with
  | error => cases h
  | ok a => exact ⟨a, rfl, Except.ok.inj h⟩

/-- The records a write leaves: those it carries, and the old ones. -/
def Write.newRecords (r : Records) : Write → Records
  | .page .. => r
  | .snapshot s => { r with snapshot := some s }
  | .identity i => { r with identity := some i }
  | .commandAudit a => { r with commandAudit := some a }
  | .key k => { r with key := some k }
  | .keyAudit a => { r with keyAudit := some a }
  | .keyAuditWithKeyRecord a k => { r with key := k, keyAudit := some a }
  | .keyRecordWithAudit k a => { r with key := some k, keyAudit := some a }
  | .armNonce k nonce => { r with key := some ((r.key.getD (.active k 0)).withLastArmNonce nonce) }

def Write.newPages (p : PageKey → List UInt8) : Write → PageKey → List UInt8
  | .page name data => fun k => if PageKey.fromKey name = some k then data else p k
  | _ => p

lemma holds_of_prepare {old : Image} (h : prepare old w = .ok img) :
    img.records = w.newRecords old.records ∧ img.pages.page = w.newPages old.pages.page := by
  cases w with
  | page key data =>
    obtain ⟨pages, hp, rfl⟩ := ok_of_bind h
    refine ⟨rfl, funext fun j => ?_⟩
    unfold applyPageUpdate at hp
    split at hp
    · cases hp
    · next k hk =>
      split at hp <;> cases hp
      simp [Write.newPages, PageImages.update, Function.update_apply, hk, eq_comm]
  | identity r =>
    obtain ⟨u, -, rfl⟩ := ok_of_bind h
    exact ⟨rfl, rfl⟩
  | armNonce key nonce =>
    obtain ⟨record, hr, rfl⟩ := ok_of_bind h
    refine ⟨?_, rfl⟩
    unfold armedRecord at hr
    split at hr
    · split at hr <;> cases hr
      simp [Image.withKey, Write.newRecords, *]
    · cases hr
      simp [Image.withKey, Write.newRecords, *]
  | _ =>
    cases h
    exact ⟨rfl, rfl⟩

/-- The records that were loaded are read back as they were; so is an exact one. -/
lemma stored_of_prepare (h : prepare (load f) w = .ok img) (hexact : w.Exact) :
    img.stored = img := by
  have hs : (loadSnapshot f).map Snapshot.stored = loadSnapshot f :=
    map_stored_loadRecord historyCodec snapshotOffset f
  have hi : (loadIdentity f).map IdentityRecord.stored = loadIdentity f :=
    map_stored_loadRecord identityCodec identityOffset f
  have ha : (loadCommandAudit f).map CommandAudit.stored = loadCommandAudit f :=
    map_stored_loadRecord commandAuditCodec commandAuditOffset f
  obtain ⟨pages, records⟩ := img
  obtain rfl := (holds_of_prepare h).1
  cases w with
  | snapshot s =>
    have hsnap : s.stored = s := hexact
    simp [Image.stored, Write.newRecords, load, loadRecords, hsnap, hi, ha]
  | identity r =>
    obtain ⟨u, hvalid, -⟩ := ok_of_bind h
    simp [Image.stored, Write.newRecords, load, loadRecords, stored_of_validate hvalid, hs, ha]
  | commandAudit a =>
    have haudit : a.stored = a := hexact
    simp [Image.stored, Write.newRecords, load, loadRecords, haudit, hs, hi]
  | _ => simp [Image.stored, Write.newRecords, load, loadRecords, hs, hi, ha]

lemma readsBack_of_records {r : Records} (h : loadRecords f = r) : readsBack f r w = true := by
  subst h
  cases w <;> simp [readsBack, loadRecords]

/-- The image after a write: the new one when all half-words are programmed, the old one before. -/
def imageStep (img : Image) (e : Write × ℕ) : Image :=
  match prepare img e.1 with
  | .error _ => img
  | .ok new =>
    if (recordBlocks new.records).isSome ∧ (rewriteWords 0 new).length ≤ e.2 then new.stored else img

lemma length_rewriteWords (seq' : UInt16) (img : Image) :
    (rewriteWords seq img).length = (rewriteWords seq' img).length := by
  unfold rewriteWords
  cases recordBlocks img.records <;>
    simp [wordsOf, pageBlocks, length_halfWords, length_encodeRewriteHeader]

lemma Shows.congr {f' : Flash} (h : Shows f img) (hsame : SameReads f' f) : Shows f' img :=
  ⟨fun k out hout => (hsame.read _ _).trans (h.read k out hout), hsame.records.trans h.records⟩

lemma shows_step (h : Shows f img) (e : Write × ℕ) : Shows (step f e) (imageStep img e) := by
  obtain rfl := load_of_shows h
  by_cases hc : ∃ new, Commits f e new
  · obtain ⟨new, hnew⟩ := hc
    have himg : imageStep (load f) e = new.stored := by
      unfold imageStep
      rw [hnew.1]
      exact if_pos ⟨hnew.2.1, by rw [length_rewriteWords 0 f.newSeq]; exact hnew.2.2⟩
    rw [himg]
    exact shows_of_commits hnew
  · have hnot : ∀ new, ¬ Commits f e new := fun new hnew => hc ⟨new, hnew⟩
    have himg : imageStep (load f) e = load f := by
      unfold imageStep
      cases hprep : prepare (load f) e.1 with
      | error err => rfl
      | ok new =>
        refine if_neg fun hfull => hnot new ⟨hprep, hfull.1, ?_⟩
        rw [length_rewriteWords f.newSeq 0]
        exact hfull.2
    rw [himg]
    exact h.congr (sameReads_of_not_commits hnot)

/-- One write, interrupted or not: without the marker every read and every load returns what it
returned before, with it they return the new image, which is the old one but for what the write
carries. -/
structure Atomic (f : Flash) (e : Write × ℕ) : Prop where
  interrupted : (∀ img, ¬ Commits f e img) → SameReads (step f e) f
  completed : ∀ img, Commits f e img → Shows (step f e) img.stored ∧
    (img.records = e.1.newRecords (load f).records ∧
      img.pages.page = e.1.newPages (load f).pages.page) ∧
      (e.1.Exact → img.stored = img ∧ readsBack (step f e) img.records e.1 = true)

variable (f)

variable (e) in
lemma atomic : Atomic f e := by
  refine ⟨sameReads_of_not_commits, fun img h => ?_⟩
  have hshows := shows_of_commits h
  refine ⟨hshows, holds_of_prepare h.1, fun hexact => ?_⟩
  have hsame := stored_of_prepare h.1 hexact
  rw [hsame] at hshows
  exact ⟨hsame, readsBack_of_records hshows.records⟩

/-- **The store is atomic under power loss.** From an image whose newest sector is valid with all
its pages checked, along any number of writes, each interrupted after any number of half-words or
completed: every write is atomic, and at the end the reads and loads return the image that the
completed writes have made, whatever the sequence numbers. -/
theorem store_atomic {f : Flash} (h : Good f) (es : List (Write × ℕ)) :
    Along step Atomic f es ∧ Shows (run step f es) (run imageStep (load f) es) :=
  ⟨along_of_forall (fun e _ s => atomic s e) f,
    run_rel (R := Shows) (fun _ _ e h => shows_step h e) (shows_load h) es⟩

/-! ### Completed writes -/

variable {data : List UInt8}

lemma recordBlocks_loadRecords : (recordBlocks (loadRecords f)).isSome := by
  have hblock : ∀ {α : Type} (c : Codec α) (off : ℕ),
      ∃ v, c.block off (loadRecord c off f) = some v := by
    intro α c off
    unfold loadRecord
    cases f.newest with
    | none => exact ⟨[], rfl⟩
    | some s => exact block_of_decode rfl
  obtain ⟨s, hs⟩ := hblock historyCodec snapshotOffset
  obtain ⟨i, hi⟩ := hblock identityCodec identityOffset
  obtain ⟨a, ha⟩ := hblock commandAuditCodec commandAuditOffset
  obtain ⟨k, hk⟩ := hblock keyCodec keyOffset
  obtain ⟨ka, hka⟩ := hblock keyAuditCodec keyAuditOffset
  simp [recordBlocks, loadRecords, loadSnapshot, loadIdentity, loadCommandAudit, loadKey,
    loadKeyAudit, hs, hi, ha, hk, hka]

variable {f}

lemma commits_complete (h : prepare (load f) w = .ok img) (hrec : (recordBlocks img.records).isSome) :
    Commits f (w, wordCount f w) img := by
  refine ⟨h, hrec, ?_⟩
  simp only [wordCount, h]
  exact le_rfl

lemma prepare_page (h : data.length = k.len) :
    prepare img (.page k.bytes data) = .ok { img with pages := img.pages.update k data h } := by
  simp [prepare, applyPageUpdate, h]
  rfl

lemma good_complete_page (f : Flash) (k : PageKey) (h : data.length = k.len) :
    Good (complete f (.page k.bytes data)) :=
  good_of_shows (shows_of_commits
    (commits_complete (prepare_page k h) (recordBlocks_loadRecords f)))

def blankFlash : Flash := fun _ => ⟨erasedSector, List.length_replicate⟩

/-- The flash after a first write of the fuel page. -/
def firstFlash : Flash := complete blankFlash (.page fuel.bytes (List.replicate fuelPageLen 0))

/-- The ign page written over it, interrupted before its marker and then completed. -/
theorem store_atomic_firstFlash :
    Good firstFlash ∧
      Along step Atomic firstFlash
        [(.page ign.bytes (List.replicate ignPageLen 1), 500),
          (.page ign.bytes (List.replicate ignPageLen 1), 1000)] := by
  have hgood : Good firstFlash := good_complete_page _ .fuel (by simp [PageKey.len])
  exact ⟨hgood, (store_atomic hgood _).1⟩

end Pipoco.StmStore
