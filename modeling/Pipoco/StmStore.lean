import Pipoco.Nor
import Pipoco.ObdHistory

/-!
The flash store of the STM32F4 board.

Two sectors hold one image each: a header of sixty-four bytes, the three pages, and after them the
retained history and the four identity records. The newest sector with a valid header is the one
that is read, where sequence numbers are compared around the circle of sixteen bits. A write loads
everything that can be read, changes its part, erases the other sector and programs it half-word by
half-word; the last half-word is the marker that makes the header valid.
-/

namespace Pipoco.StmStore

open Bytes Kv Nor SideRecords ObdHistory Runs

/-! ### Layout -/

def magic : UInt32 := 0x32504B56
def sectorBytes : ℕ := 128 * 1024
def pageHeaderLen : ℕ := 64

/-- Where a page starts in a sector. -/
def pageOffset : PageKey → ℕ
  | .fuel => pageHeaderLen
  | .ign => pageHeaderLen + fuelPageLen
  | .angles => pageHeaderLen + fuelPageLen + ignPageLen

def snapshotOffset : ℕ := pageHeaderLen + fuelPageLen + ignPageLen + anglesPageLen
def identityOffset : ℕ := snapshotOffset + sidecarBytes
def commandAuditOffset : ℕ := identityOffset + identityBytes
def keyOffset : ℕ := commandAuditOffset + commandAuditBytes
def keyAuditOffset : ℕ := keyOffset + keyBytes
def usedBytes : ℕ := keyAuditOffset + keyAuditBytes

structure Sector where
  bytes : List UInt8
  size : bytes.length = sectorBytes

inductive ActiveSector
  | a
  | b
  deriving DecidableEq, Repr

def ActiveSector.other : ActiveSector → ActiveSector
  | .a => .b
  | .b => .a

abbrev Flash := ActiveSector → Sector

/-! ### Headers -/

variable (sector : List UInt8)

structure KvHeader where
  ok : Bool
  seq : UInt16
  (pageLen pageCrc : PageKey → UInt16)

def invalidHeader : KvHeader := ⟨false, 0, fun _ => 0, fun _ => 0⟩

def headerLenOffset : PageKey → ℕ
  | .fuel => 10
  | .ign => 12
  | .angles => 18

def headerCrcOffset : PageKey → ℕ
  | .fuel => 14
  | .ign => 16
  | .angles => 20

def readHeader : KvHeader :=
  if u32 (window sector 0 4) ≠ magic then invalidHeader
  else if u16 (window sector 6 2) ≠ 0 then invalidHeader
  else
    { ok := true
      seq := u16 (window sector 8 2)
      pageLen := fun k => u16 (window sector (headerLenOffset k) 2)
      pageCrc := fun k => u16 (window sector (headerCrcOffset k) 2) }

def newestSector (a b : KvHeader) : Option ActiveSector :=
  match a.ok, b.ok with
  | true, true => if b.seq - a.seq < 0x8000 then some .b else some .a
  | true, false => some .a
  | false, true => some .b
  | false, false => none

variable (f : Flash)

def Flash.header (s : ActiveSector) : KvHeader := readHeader (f s).bytes

def Flash.newest : Option ActiveSector := newestSector (f.header .a) (f.header .b)

def validatePageImage (hdr : KvHeader) (k : PageKey) (data : List UInt8) : Bool :=
  hdr.ok && (hdr.pageLen k).toNat == k.len && data.length == k.len && crc16 data == hdr.pageCrc k

/-! ### Reading -/

/-- The result and the buffer: the bytes are copied before their checksum is looked at, so the
buffer is filled also when the check fails. -/
def read (key out : List UInt8) : Except KvError ℕ × List UInt8 :=
  match f.newest with
  | none => (.error .notFound, out)
  | some s =>
    match PageKey.fromKey key with
    | none => (.error .io, out)
    | some k =>
      if ((f.header s).pageLen k).toNat ≠ k.len ∨ out.length < k.len then (.error .notFound, out)
      else
        let out := put out 0 (window (f s).bytes (pageOffset k) k.len)
        if validatePageImage (f.header s) k (window out 0 k.len) then (.ok k.len, out)
        else (.error .io, out)

@[simp] lemma length_read (key out : List UInt8) : (read f key out).2.length = out.length := by
  unfold read
  split
  · rfl
  · split
    · rfl
    · split
      · rfl
      · dsimp only
        split <;> exact length_put _ _ _

/-- A side record of the newest sector. -/
def loadRecord {α : Type} (c : Codec α) (off : ℕ) (f : Flash) : Option α :=
  match f.newest with
  | none => none
  | some s => c.decode (window (f s).bytes off c.len)

def loadSnapshot : Flash → Option Snapshot := loadRecord historyCodec snapshotOffset
def loadIdentity : Flash → Option IdentityRecord := loadRecord identityCodec identityOffset
def loadCommandAudit : Flash → Option CommandAudit := loadRecord commandAuditCodec commandAuditOffset
def loadKey : Flash → Option KeyRecord := loadRecord keyCodec keyOffset
def loadKeyAudit : Flash → Option KeyAudit := loadRecord keyAuditCodec keyAuditOffset

@[ext]
structure PageImages where
  page : PageKey → List UInt8
  length_page : ∀ k, (page k).length = k.len

structure Records where
  snapshot : Option Snapshot
  identity : Option IdentityRecord
  commandAudit : Option CommandAudit
  key : Option KeyRecord
  keyAudit : Option KeyAudit

/-- The contents of a sector: what a write loads, changes and programs. -/
structure Image where
  pages : PageImages
  records : Records

/-- Buffers of zeros, read into; a failed read leaves in them whatever it left. -/
def loadCurrentPages : PageImages where
  page k := (read f k.bytes (List.replicate k.len 0)).2
  length_page k := by simp

def loadRecords : Records where
  snapshot := loadSnapshot f
  identity := loadIdentity f
  commandAudit := loadCommandAudit f
  key := loadKey f
  keyAudit := loadKeyAudit f

def load : Image := ⟨loadCurrentPages f, loadRecords f⟩

/-! ### Writes -/

variable (img : Image)

inductive Write
  | page (key data : List UInt8)
  | snapshot (s : Snapshot)
  | identity (r : IdentityRecord)
  | commandAudit (a : CommandAudit)
  | key (r : KeyRecord)
  | keyAudit (a : KeyAudit)
  | keyAuditWithKeyRecord (a : KeyAudit) (r : Option KeyRecord)
  | keyRecordWithAudit (r : KeyRecord) (a : KeyAudit)
  | armNonce (currentKey : Page 32) (nonce : UInt32)

def PageImages.update (p : PageImages) (k : PageKey) (data : List UInt8) (h : data.length = k.len) :
    PageImages where
  page := Function.update p.page k data
  length_page j := by
    by_cases hj : j = k
    · subst hj
      simpa using h
    · simp [hj, p.length_page]

def applyPageUpdate (p : PageImages) (key data : List UInt8) : Except KvError PageImages :=
  match PageKey.fromKey key with
  | none => .error .io
  | some k => if h : data.length = k.len then .ok (p.update k data h) else .error .io

def validateIdentityRecord (r : IdentityRecord) : Except KvError Unit :=
  if vinLen < r.vinLen ∨ vinLen < r.calibrationIdLen ∨ 6 < r.boardBuildIdentityLen then .error .io
  else .ok ()

def Image.withKey (r : KeyRecord) : Image :=
  { img with records := { img.records with key := some r } }

def armedRecord (current : Option KeyRecord) (key : Page 32) : Except KvError KeyRecord :=
  match current with
  | some record => if record.activeKey = some key then .ok record else .error .io
  | none => .ok (.active key 0)

/-- The image a write programs, from the one it has loaded. -/
def prepare : Write → Except KvError Image
  | .page key data => do
    let pages ← applyPageUpdate img.pages key data
    .ok { img with pages }
  | .snapshot s => .ok { img with records := { img.records with snapshot := some s } }
  | .identity r => do
    validateIdentityRecord r
    .ok { img with records := { img.records with identity := some r } }
  | .commandAudit a => .ok { img with records := { img.records with commandAudit := some a } }
  | .key r => .ok (img.withKey r)
  | .keyAudit a => .ok { img with records := { img.records with keyAudit := some a } }
  | .keyAuditWithKeyRecord a r =>
    .ok { img with records := { img.records with key := r, keyAudit := some a } }
  | .keyRecordWithAudit r a =>
    .ok { img with records := { img.records with key := some r, keyAudit := some a } }
  | .armNonce key nonce => do
    let record ← armedRecord img.records.key key
    .ok (img.withKey (record.withLastArmNonce nonce))

/-! ### Programming -/

variable (w : Write)

def readSeq : Option UInt16 :=
  if u32 (window sector 0 4) ≠ magic then none
  else if u16 (window sector 6 2) ≠ 0 then none
  else some (u16 (window sector 8 2))

def curSeq (a b : Option UInt16) : UInt16 :=
  match a, b with
  | some a, some b => if b - a < 0x8000 then b else a
  | some a, none => a
  | none, some b => b
  | none, none => 0

def targetSector (a b : Option UInt16) : ActiveSector :=
  match a, b with
  | some a, some b => if b - a < 0x8000 then .a else .b
  | some _, none => .b
  | none, some _ => .a
  | none, none => .a

def Flash.seq (s : ActiveSector) : Option UInt16 := readSeq (f s).bytes
def Flash.target : ActiveSector := targetSector (f.seq .a) (f.seq .b)
def Flash.newSeq : UInt16 := curSeq (f.seq .a) (f.seq .b) + 1

/-- The fields of the header; the bytes of the marker stay erased. -/
def headerBlocks (seq : UInt16) (p : PageImages) : List (ℕ × List UInt8) :=
  [(0, [0x56, 0x4B, 0x50, 0x32]), (4, [2, 0]), (8, le16 seq), (10, le16 (.ofNat fuelPageLen)),
    (12, le16 (.ofNat ignPageLen)), (18, le16 (.ofNat anglesPageLen)),
    (14, le16 (crc16 (p.page .fuel))), (16, le16 (crc16 (p.page .ign))),
    (20, le16 (crc16 (p.page .angles)))]

def encodeRewriteHeader (seq : UInt16) (p : PageImages) : List UInt8 :=
  putAll (List.replicate pageHeaderLen 0xFF) (headerBlocks seq p)

def pageBlocks (seq : UInt16) (p : PageImages) : List (ℕ × List UInt8) :=
  [(0, encodeRewriteHeader seq p), (pageOffset .fuel, p.page .fuel), (pageOffset .ign, p.page .ign),
    (pageOffset .angles, p.page .angles)]

/-- The blocks of the side records, unless the history cannot be staged. -/
def recordBlocks (r : Records) : Option (List (ℕ × List UInt8)) := do
  let snapshot ← historyCodec.block snapshotOffset r.snapshot
  let identity ← identityCodec.block identityOffset r.identity
  let commandAudit ← commandAuditCodec.block commandAuditOffset r.commandAudit
  let key ← keyCodec.block keyOffset r.key
  let keyAudit ← keyAuditCodec.block keyAuditOffset r.keyAudit
  some (snapshot ++ (identity ++ (commandAudit ++ (key ++ keyAudit))))

def wordsOf (blocks : List (ℕ × List UInt8)) : List (ℕ × UInt16) :=
  blocks.flatMap fun b => halfWords b.1 b.2

def validMarker : ℕ × UInt16 := (6, 0)

/-- The half-words `rewrite_sector` programs, in order. When the history cannot be staged the
write stops after the pages, without the marker. -/
def rewriteWords (seq : UInt16) (img : Image) : List (ℕ × UInt16) :=
  match recordBlocks img.records with
  | none => wordsOf (pageBlocks seq img.pages)
  | some records => wordsOf (pageBlocks seq img.pages ++ records) ++ [validMarker]

def erasedSector : List UInt8 := List.replicate sectorBytes 0xFF

/-- The sector after the erase and the given half-words. -/
def rewritten (words : List (ℕ × UInt16)) : Sector where
  bytes := programAll erasedSector words
  size := by simp [erasedSector]

/-- A write of which the given number of half-words were programmed after the erase. A write that
is refused does not touch the flash. -/
def step (e : Write × ℕ) : Flash :=
  match prepare (load f) e.1 with
  | .error _ => f
  | .ok img => Function.update f f.target (rewritten ((rewriteWords f.newSeq img).take e.2))

def wordCount : ℕ :=
  match prepare (load f) w with
  | .error _ => 0
  | .ok img => (rewriteWords f.newSeq img).length

/-- A write that is not interrupted. -/
def complete : Flash := step f (w, wordCount f w)

/-- What the writer loads again and compares: nothing after a page or a history, the key record
with every audit of it. -/
def readsBack (r : Records) : Write → Bool
  | .page .. | .snapshot _ => true
  | .identity _ => loadIdentity f = r.identity
  | .commandAudit _ => loadCommandAudit f = r.commandAudit
  | .key _ | .armNonce .. => loadKey f = r.key
  | _ => loadKeyAudit f = r.keyAudit ∧ loadKey f = r.key

def outcome : Except KvError Unit :=
  match prepare (load f) w with
  | .error e => .error e
  | .ok img =>
    if (recordBlocks img.records).isSome ∧ readsBack (complete f w) img.records w then .ok ()
    else .error .io

end Pipoco.StmStore
