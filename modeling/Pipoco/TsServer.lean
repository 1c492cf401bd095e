import Pipoco.TuningLink
import Pipoco.TsProto

/-!
The server behind the serial link.

A request is decoded, carried out on a page store and answered into an output buffer. The store is
any one: what it does is given by its functions, and by laws where a result needs them. A slice or
an index out of range stops the server; the model then has no result.

A write of a page comes in two forms, the whole page or a part of it behind an offset and a length,
which nothing but the length of the request tells apart.
-/

namespace Pipoco.Ts

open Bytes Domain TuningLink

inductive PersistError
  | unsupported | fail | engineRunning
  deriving DecidableEq, Repr

/-! ### Slices -/

variable (l : List UInt8)

/-- `l[lo..hi]` -/
def slice (lo hi : ℕ) : Option (List UInt8) :=
  if lo ≤ hi ∧ hi ≤ l.length then some (window l lo (hi - lo)) else none

/-- `l[lo..hi].copy_from_slice(src)` -/
def copyInto (lo hi : ℕ) (src : List UInt8) : Option (List UInt8) :=
  if lo ≤ hi ∧ hi ≤ l.length ∧ src.length = hi - lo then some (put l lo src) else none

/-- `u16::from_le_bytes([l[i], l[i + 1]])` -/
def fromLeBytes (i : ℕ) : Option ℕ :=
  l[i]?.bind fun lo => l[i + 1]?.map fun hi => (u16 [lo, hi]).toNat

/-! ### The live data block -/

structure Outpc where
  (rpm mapKpaX10 : UInt16)
  tpsPercent : UInt8
  (cltC iatC : Int16)
  (vbattMv lambdaX100 pwUs dwellUs : UInt16)
  advanceX10 : Int16
  synced : UInt8
  targetAfrX10 : UInt16
  (egoCorrectionPercent egoSensor : UInt8)
  (mapdotKpaS tpsdotPctS : Int16)
  (injDutyX10 idleDutyX10 : UInt16)
  fanState : UInt8
  (engineState baroKpa : UInt16)
  gear : UInt8
  (vehicleSpeedKphX10 mafX100 knockX100 : UInt16)
  camPhaseDeg10 : Int16
  (camPhaseValid sensorValidityFlags : UInt8)

namespace Outpc

variable (o : Outpc)

def wireLen : ℕ := 48

def default : Outpc :=
  ⟨0, 0, 0, 0, 0, 0, 0, 0, 0, 0, 0, 0, 0, 0, 0, 0, 0, 0, 0, 0, 0, 0, 0, 0, 0, 0, 0, 0⟩

def blocks : List (ℕ × List UInt8) :=
  [(0, le16 o.rpm), (2, le16 o.mapKpaX10), (4, [o.tpsPercent]), (5, le16 o.cltC.toUInt16),
    (7, le16 o.iatC.toUInt16), (9, le16 o.vbattMv), (11, le16 o.lambdaX100), (13, le16 o.pwUs),
    (15, le16 o.dwellUs), (17, le16 o.advanceX10.toUInt16), (19, [o.synced]),
    (20, le16 o.targetAfrX10), (22, [o.egoCorrectionPercent]), (23, [o.egoSensor]),
    (24, le16 o.mapdotKpaS.toUInt16), (26, le16 o.tpsdotPctS.toUInt16), (28, le16 o.injDutyX10),
    (30, le16 o.idleDutyX10), (32, [o.fanState]), (33, le16 o.engineState), (35, le16 o.baroKpa),
    (37, [o.gear]), (38, le16 o.vehicleSpeedKphX10), (40, le16 o.mafX100), (42, le16 o.knockX100),
    (44, le16 o.camPhaseDeg10.toUInt16), (46, [o.camPhaseValid]), (47, [o.sensorValidityFlags])]

def encode (out : List UInt8) : List UInt8 × Option ℕ :=
  if out.length < wireLen then (out, none) else (putAll out o.blocks, some wireLen)

end Outpc

/-! ### What the server is given -/

structure OutpcProvider where
  fillOutpc : Outpc → Outpc
  engineRunning : Bool

/-- A page store with states `σ`. A buffer lent to the store keeps its length. -/
structure PageStore (σ : Type) where
  pageLen : σ → UInt8 → Option ℕ
  /-- The buffer after the call and the number of bytes read. -/
  readPage : σ → UInt8 → List UInt8 → Option (List UInt8 × ℕ)
  writePage : σ → UInt8 → List UInt8 → σ × Except PageError Unit
  burn : σ → σ × Except PersistError Unit
  exportPackageWire : σ → List UInt8 → Except PageError (List UInt8 × ℕ)
  importPackageWire : σ → List UInt8 → σ × Except PageError Unit
  length_readPage : ∀ {s p buf r}, readPage s p buf = some r → r.1.length = buf.length
  length_exportPackageWire : ∀ {s buf r}, exportPackageWire s buf = .ok r → r.1.length = buf.length

/-- The owner of the bench commands, with states `β`: each handler gets the payload and the output
buffer. -/
structure BenchToolingOwner (β : Type) where
  (handleOutputTest handleToothStats : β → List UInt8 → List UInt8 → β × List UInt8 × Option ℕ)
  handleToothCompositeLog : β → List UInt8 → List UInt8 → β × List UInt8 × Option ℕ
  handleVersionInfo : β → List UInt8 → List UInt8 → β × List UInt8 × Option ℕ
  (handleCompatibilityInfo handleReboot : β → List UInt8 → List UInt8 → β × List UInt8 × Option ℕ)

def ascii (s : String) : List UInt8 := s.toList.map fun c => UInt8.ofNat c.toNat

/-- A bench command nobody owns is refused, if it is well formed. -/
def refuseBench (cmd : Cmd) (wellFormed : Bool) (out : List UInt8) : Unit × List UInt8 × Option ℕ :=
  if wellFormed then ((), encodeReply cmd (ascii "ERR") out) else ((), out, none)

def noBenchTooling : BenchToolingOwner Unit where
  handleOutputTest _ payload out := refuseBench .outputTest (6 ≤ payload.length) out
  handleToothStats _ payload out := refuseBench .toothStats payload.isEmpty out
  handleToothCompositeLog _ payload out := refuseBench .toothCompositeLog payload.isEmpty out
  handleVersionInfo _ payload out := refuseBench .versionInfo payload.isEmpty out
  handleCompatibilityInfo _ payload out := refuseBench .compatibilityInfo payload.isEmpty out
  handleReboot _ payload out := refuseBench .reboot payload.isEmpty out

/-! ### Checksums of the page layouts -/

variable (page : UInt8)

structure TsPageDescriptor where
  page : UInt8
  writable : Bool
  label : String
  persistedSetupPage : Bool

def tsPageDescriptors : List TsPageDescriptor :=
  [⟨1, true, "fuel", true⟩, ⟨2, true, "ign", true⟩, ⟨3, true, "sensors", false⟩,
    ⟨4, true, "ae", false⟩, ⟨5, true, "dfco", false⟩, ⟨6, true, "limits", false⟩,
    ⟨7, false, "diag", false⟩, ⟨8, false, "diag_log", false⟩, ⟨9, true, "angles", true⟩,
    ⟨10, true, "wue", false⟩, ⟨11, true, "ase", false⟩, ⟨12, true, "idle", false⟩,
    ⟨13, true, "fan", false⟩, ⟨14, true, "cl", false⟩, ⟨15, false, "snapshot", false⟩,
    ⟨16, true, "expert_trigger", false⟩, ⟨17, true, "ve_tune", false⟩,
    ⟨18, true, "ve_table", false⟩, ⟨19, true, "afr_table", false⟩]

def tsPageDescriptor : Option TsPageDescriptor := tsPageDescriptors.find? fun d => d.page = page

def tsPageSchemaVersion : Option UInt16 := (tsPageDescriptor page).map fun _ => 1

structure PageCrcInfoEntry where
  page : UInt8
  (len schemaVersion layoutCrc : UInt16)
  flags : UInt8

variable (d : TsPageDescriptor)

def pageCrcInfoFlags : UInt8 := d.writable.toUInt8 ||| d.persistedSetupPage.toUInt8 <<< 1

/-- The label goes behind six bytes of a buffer of 32. -/
def pageCrcLayoutCrc (len schemaVersion : UInt16) : Option UInt16 :=
  let payload := putAll (List.replicate 32 0)
    [(0, [d.page]), (1, le16 len), (3, le16 schemaVersion), (5, [pageCrcInfoFlags d])]
  let label := ascii d.label
  (copyInto payload 6 (6 + label.length) label).map fun payload =>
    crc16Ccitt (payload.take (6 + label.length))

def pageCrcInfoEntry (len : UInt16) : Option PageCrcInfoEntry :=
  let schemaVersion := (tsPageSchemaVersion d.page).getD 0
  (pageCrcLayoutCrc d len schemaVersion).map fun layoutCrc =>
    ⟨d.page, len, schemaVersion, layoutCrc, pageCrcInfoFlags d⟩

def PageCrcInfoEntry.wire (e : PageCrcInfoEntry) : List UInt8 :=
  e.page :: (le16 e.len ++ le16 e.schemaVersion ++ le16 e.layoutCrc) ++ [e.flags]

def encodePageCrcInfoReply (entries : List PageCrcInfoEntry) (out : List UInt8) :
    List UInt8 × Option ℕ :=
  let count := min entries.length tsPageDescriptors.length
  encodeReply .pageCrcInfo
    (1 :: UInt8.ofNat count :: (entries.take count).flatMap PageCrcInfoEntry.wire) out

/-- The entries of the pages the store has; none of them if one is too long for its field. -/
def pageCrcInfoEntries (pageLen : UInt8 → Option ℕ) :
    List TsPageDescriptor → Option (Option (List PageCrcInfoEntry))
  | [] => some (some [])
  | d :: ds =>
    match pageLen d.page with
    | none => pageCrcInfoEntries pageLen ds
    | some len =>
      if len < 2 ^ 16 then
        (pageCrcInfoEntry d (.ofNat len)).bind fun entry =>
          (pageCrcInfoEntries pageLen ds).map fun entries => entries.map (entry :: ·)
      else some none

/-! ### The server -/

structure ServerStats where
  (rxOk rxInvalid readOk writeOk writeErr burnOk burnErr : UInt32)
  deriving DecidableEq, Repr

structure TunerstudioServer (σ : Type) where
  signature : List UInt8
  provider : OutpcProvider
  store : σ
  stats : ServerStats

/-- The server and the output buffer after a request, and the length of the reply if there is
one. -/
structure Handled (σ : Type) where
  server : TunerstudioServer σ
  out : List UInt8
  reply : Option ℕ

namespace TunerstudioServer

variable {σ : Type}

def new (signature : List UInt8) (provider : OutpcProvider) (store : σ) : TunerstudioServer σ :=
  ⟨signature, provider, store, ⟨0, 0, 0, 0, 0, 0, 0⟩⟩

section Counters

variable (srv : TunerstudioServer σ)

def countRxOk : TunerstudioServer σ :=
  { srv with stats := { srv.stats with rxOk := satAdd32 srv.stats.rxOk 1 } }

def countRxInvalid : TunerstudioServer σ :=
  { srv with stats := { srv.stats with rxInvalid := satAdd32 srv.stats.rxInvalid 1 } }

def countReadOk : TunerstudioServer σ :=
  { srv with stats := { srv.stats with readOk := satAdd32 srv.stats.readOk 1 } }

def countWriteOk : TunerstudioServer σ :=
  { srv with stats := { srv.stats with writeOk := satAdd32 srv.stats.writeOk 1 } }

def countWriteErr : TunerstudioServer σ :=
  { srv with stats := { srv.stats with writeErr := satAdd32 srv.stats.writeErr 1 } }

def countBurnOk : TunerstudioServer σ :=
  { srv with stats := { srv.stats with burnOk := satAdd32 srv.stats.burnOk 1 } }

def countBurnErr : TunerstudioServer σ :=
  { srv with stats := { srv.stats with burnErr := satAdd32 srv.stats.burnErr 1 } }

def silent (out : List UInt8) : Handled σ := ⟨srv, out, none⟩

def answer (cmd : Cmd) (payload out : List UInt8) : Handled σ :=
  ⟨srv, (encodeReply cmd payload out).1, (encodeReply cmd payload out).2⟩

end Counters

variable (S : PageStore σ) (srv : TunerstudioServer σ) (payload out : List UInt8) (page : UInt8)
  (pageLen : ℕ)

def handleOutpc : Option (Handled σ) :=
  let block := srv.provider.fillOutpc .default
  match block.encode (List.replicate Outpc.wireLen 0) with
  | (_, none) => some (srv.silent out)
  | (encoded, some len) => (slice encoded 0 len).map fun bytes => srv.answer .outpc bytes out

/-- The part of the page that is asked for; none if it lies outside of the page. -/
def readRange : Option (Option (ℕ × ℕ)) :=
  if payload.length = 5 then
    (fromLeBytes payload 1).bind fun offset => (fromLeBytes payload 3).map fun len =>
      if pageLen < offset + len then none else some (offset, len)
  else some (some (0, pageLen))

def handleReadPage : Option (Handled σ) :=
  if payload.length ≠ 1 ∧ payload.length ≠ 5 then some (srv.silent out)
  else
    payload[0]?.bind fun page =>
      match S.pageLen srv.store page with
      | none => some (srv.silent out)
      | some pageLen =>
        (readRange payload pageLen).bind fun range =>
          match range with
          | none => some (srv.silent out)
          | some (offset, len) =>
            (slice (List.replicate 1024 0) 0 pageLen).bind fun lent =>
              match S.readPage srv.store page lent with
              | none => some (srv.silent out)
              | some (lent, n) =>
                if n < offset + len then some (srv.silent out)
                else
                  (slice (put (List.replicate 1024 0) 0 lent) offset (offset + len)).map fun bytes =>
                    srv.countReadOk.answer .readPage bytes out

/-- A part of the page is read, changed and written back as a whole. -/
def writePart (offset len : ℕ) (data : List UInt8) : Option (σ × Except PageError Unit) :=
  if pageLen < offset + len then some (srv.store, .error .wrongSize)
  else
    (slice (List.replicate 1024 0) 0 pageLen).bind fun lent =>
      match S.readPage srv.store page lent with
      | some (lent, n) =>
        if n = pageLen then
          (copyInto (put (List.replicate 1024 0) 0 lent) offset (offset + len) data).bind
            fun pageBuf => (slice pageBuf 0 pageLen).map fun bytes =>
              S.writePage srv.store page bytes
        else some (srv.store, .error .invalid)
      | none => some (srv.store, .error .invalid)

/-- What a write does to the store; a malformed part write is refused before. -/
def writeResult : Option (σ × Except PageError Unit) :=
  if payload.length = pageLen + 1 then
    (slice payload 1 payload.length).map fun data => S.writePage srv.store page data
  else if 5 ≤ payload.length then
    (fromLeBytes payload 1).bind fun offset => (fromLeBytes payload 3).bind fun len =>
      (slice payload 5 payload.length).bind fun data =>
        if len = 0 ∨ data.length ≠ len then some (srv.store, .error .wrongSize)
        else writePart S srv page pageLen offset len data
  else some (srv.store, .error .wrongSize)

def answerWrite : σ × Except PageError Unit → Handled σ
  | (store, .ok ()) => ({ srv with store }.countWriteOk).answer .writePage (ascii "OK") out
  | (store, .error _) => ({ srv with store }.countWriteErr).answer .writePage (ascii "ERR") out

def handleWritePage : Option (Handled σ) :=
  if payload.length < 2 then some (srv.silent out)
  else
    payload[0]?.bind fun page =>
      if srv.provider.engineRunning then
        some (srv.countWriteErr.answer .writePage (ascii "ERR") out)
      else
        match S.pageLen srv.store page with
        | none => some (srv.countWriteErr.answer .writePage (ascii "ERR") out)
        | some pageLen => (writeResult S srv payload page pageLen).map (answerWrite srv out)

def persistErrRunning : List UInt8 := 1 :: ascii "RUN"

def handleBurn : Handled σ :=
  if payload ≠ [] ∧ payload.length ≠ 1 then srv.silent out
  else if srv.provider.engineRunning then srv.countBurnErr.answer .burn persistErrRunning out
  else
    match S.burn srv.store with
    | (store, .ok ()) => ({ srv with store }.countBurnOk).answer .burn (ascii "OK") out
    | (store, .error .engineRunning) =>
      ({ srv with store }.countBurnErr).answer .burn persistErrRunning out
    | (store, .error _) => ({ srv with store }.countBurnErr).answer .burn (ascii "ERR") out

def handlePackageExport : Option (Handled σ) :=
  if payload ≠ [] then some (srv.silent out)
  else
    match S.exportPackageWire srv.store (List.replicate 512 0) with
    | .ok (buf, len) =>
      (slice buf 0 len).map fun bytes => srv.countReadOk.answer .packageExport bytes out
    | .error _ => some (srv.answer .packageExport (ascii "ERR") out)

def handlePackageImport : Handled σ :=
  if payload = [] then srv.silent out
  else if srv.provider.engineRunning then
    srv.countWriteErr.answer .packageImport (ascii "ERR") out
  else
    match S.importPackageWire srv.store payload with
    | (store, .ok ()) => ({ srv with store }.countWriteOk).answer .packageImport (ascii "OK") out
    | (store, .error _) =>
      ({ srv with store }.countWriteErr).answer .packageImport (ascii "ERR") out

def handlePageCrcInfo : Option (Handled σ) :=
  if payload ≠ [] then some (srv.silent out)
  else
    (pageCrcInfoEntries (S.pageLen srv.store) tsPageDescriptors).map fun entries =>
      match entries with
      | none => srv.silent out
      | some entries =>
        ⟨srv.countReadOk, (encodePageCrcInfoReply entries out).1,
          (encodePageCrcInfoReply entries out).2⟩

variable {β : Type} (B : BenchToolingOwner β) (bench : β) (req : List UInt8)

/-- The request with the bench commands routed to their owner. -/
def handleWithBenchTooling : Option (Handled σ × β) :=
  match decodeRequest req with
  | none => some (srv.countRxInvalid.silent out, bench)
  | some (cmd, payload) =>
    let srv := srv.countRxOk
    let benched (r : β × List UInt8 × Option ℕ) : Option (Handled σ × β) :=
      some (⟨srv, r.2.1, r.2.2⟩, r.1)
    match cmd with
    | .sig => some (srv.answer .sig srv.signature out, bench)
    | .outpc => (handleOutpc srv out).map (·, bench)
    | .ping => some (srv.answer .ping (ascii "PONG") out, bench)
    | .readPage => (handleReadPage S srv payload out).map (·, bench)
    | .writePage => (handleWritePage S srv payload out).map (·, bench)
    | .burn => some (handleBurn S srv payload out, bench)
    | .packageExport => (handlePackageExport S srv payload out).map (·, bench)
    | .packageImport => some (handlePackageImport S srv payload out, bench)
    | .pageCrcInfo => (handlePageCrcInfo S srv payload out).map (·, bench)
    | .outputTest => benched (B.handleOutputTest bench payload out)
    | .toothStats => benched (B.handleToothStats bench payload out)
    | .toothCompositeLog => benched (B.handleToothCompositeLog bench payload out)
    | .versionInfo => benched (B.handleVersionInfo bench payload out)
    | .compatibilityInfo => benched (B.handleCompatibilityInfo bench payload out)
    | .reboot => benched (B.handleReboot bench payload out)

def handle : Option (Handled σ) :=
  (handleWithBenchTooling S srv out noBenchTooling () req).map Prod.fst

end TunerstudioServer

/-! ### Replies -/

namespace Handled

variable {σ : Type}

/-- The reply is a frame with this command and payload. -/
def Says (h : Handled σ) (cmd : Cmd) (payload : List UInt8) : Prop :=
  ∃ n, h.reply = some n ∧ decodeRequest (h.out.take n) = some (cmd, payload)

end Handled

namespace TunerstudioServer

variable {σ : Type} (srv : TunerstudioServer σ)

/-- An answer can be read when it fits the output buffer and its length field. -/
lemma says_answer {cmd c : Cmd} {payload out p : List UInt8} (h : payload.length ≤ 65532) :
    (srv.answer cmd payload out).Says c p ↔
      payload.length + 7 ≤ out.length ∧ c = cmd ∧ p = payload := by
  have hdec : decodeRequest (frame cmd payload) = some (cmd, payload) :=
    (decodeRequest_frame cmd payload).mpr (by omega)
  constructor
  · rintro ⟨n, hn, hread⟩
    obtain ⟨hroom, -, htake⟩ := encodeReply_eq_some cmd (Prod.ext rfl hn)
    change decodeRequest ((encodeReply cmd payload out).1.take n) = some (c, p) at hread
    rw [htake, hdec] at hread
    cases hread
    exact ⟨hroom, rfl, rfl⟩
  · rintro ⟨hroom, rfl, rfl⟩
    have hsome : (encodeReply c p out).2 = some (p.length + 7) := by rw [encodeReply_of_le c hroom]
    obtain ⟨-, -, htake⟩ := encodeReply_eq_some c (Prod.ext rfl hsome)
    refine ⟨_, hsome, ?_⟩
    change decodeRequest ((encodeReply c p out).1.take _) = _
    rw [htake, hdec]

end TunerstudioServer

/-! ### Writing a part of a page -/

/-- A store that gives back what was written: a page has a content, a whole read shows it, and a
write that is taken makes it what was written. A write that is refused may leave a part. -/
structure PageMemory {σ : Type} (S : PageStore σ) where
  content : σ → UInt8 → List UInt8
  length_content : ∀ {s p n}, S.pageLen s p = some n → (content s p).length = n
  read : ∀ {s p n buf r}, S.pageLen s p = some n → buf.length = n →
    S.readPage s p buf = some (r, n) → r = content s p
  write_ok : ∀ {s p d s'}, S.writePage s p d = (s', .ok ()) → content s' p = d

/-- The bytes from `off` on are the data and all others are as before. -/
def OnlyChanged (old new : List UInt8) (off : ℕ) (data : List UInt8) : Prop :=
  window new off data.length = data ∧ ∀ i, i < off ∨ off + data.length ≤ i → new[i]? = old[i]?

lemma onlyChanged_iff {old data : List UInt8} {off : ℕ} (h : off + data.length ≤ old.length)
    (new : List UInt8) : OnlyChanged old new off data ↔ new = put old off data := by
  constructor
  · rintro ⟨hdata, hrest⟩
    refine List.ext_getElem? fun i => ?_
    rw [getElem?_put]
    by_cases hi : off ≤ i ∧ i < off + data.length ∧ i < old.length
    · rw [if_pos hi]
      have hget : (window new off data.length)[i - off]? = data[i - off]? := by rw [hdata]
      rw [getElem?_window, if_pos (by omega)] at hget
      rw [← hget]
      congr 1
      omega
    · rw [if_neg hi]
      exact hrest i (by omega)
  · rintro rfl
    refine ⟨window_put_self h, fun i hi => ?_⟩
    rw [getElem?_put, if_neg (by omega)]

namespace TunerstudioServer

variable {σ : Type} {S : PageStore σ} (srv : TunerstudioServer σ) {page : UInt8} {n : ℕ} {off : ℕ}
  {data : List UInt8}

lemma slice_zeros {k : ℕ} (h : n ≤ k) :
    slice (List.replicate k 0) 0 n = some (List.replicate n 0) := by
  rw [slice, if_pos ⟨Nat.zero_le _, by rw [List.length_replicate]; exact h⟩, Nat.sub_zero,
    window_replicate _ (by omega)]

/-- The first bytes of a long buffer that holds a page, with a part overwritten. -/
lemma window_put_put {z lent : List UInt8} (hz : lent.length ≤ z.length) :
    window (put (put z 0 lent) off data) 0 lent.length = put lent off data := by
  refine List.ext_getElem? fun i => ?_
  simp only [getElem?_window, getElem?_put, length_put, Nat.zero_add, Nat.zero_le, true_and,
    Nat.sub_zero]
  by_cases hi : i < lent.length
  · have hz' : i < z.length := by omega
    rw [if_pos hi]
    by_cases hin : off ≤ i ∧ i < off + data.length
    · rw [if_pos ⟨hin.1, hin.2, hz'⟩, if_pos ⟨hin.1, hin.2, hi⟩]
    · rw [if_neg fun h => hin ⟨h.1, h.2.1⟩, if_pos ⟨hi, hz'⟩, if_neg fun h => hin ⟨h.1, h.2.1⟩]
  · rw [if_neg hi, if_neg fun h => hi h.2.2, List.getElem?_eq_none (by omega)]

/-- The page is read into a buffer, changed there and written back. -/
lemma writePart_of_read {lent : List UInt8} (hfit : off + data.length ≤ n) (hcap : n ≤ 1024)
    (hread : S.readPage srv.store page (List.replicate n 0) = some (lent, n)) :
    writePart S srv page n off data.length data =
      some (S.writePage srv.store page (put lent off data)) := by
  have hsize : lent.length = n := by rw [S.length_readPage hread, List.length_replicate]
  have hcopy : copyInto (put (List.replicate 1024 0) 0 lent) off (off + data.length) data =
      some (put (put (List.replicate 1024 0) 0 lent) off data) := by
    rw [copyInto, if_pos ⟨by omega, by rw [length_put, List.length_replicate]; omega, by omega⟩]
  have hslice : slice (put (put (List.replicate 1024 0) 0 lent) off data) 0 n =
      some (put lent off data) := by
    rw [slice, if_pos ⟨by omega, by rw [length_put, length_put, List.length_replicate]; omega⟩,
      Nat.sub_zero, ← hsize, window_put_put (by rw [List.length_replicate]; omega)]
  rw [writePart, if_neg (by omega), slice_zeros hcap, Option.bind_some, hread]
  change (if n = n then _ else _) = _
  rw [if_pos rfl, hcopy, Option.bind_some, hslice, Option.map_some]

section PartRequest

variable (S) (offset length : UInt16) {data : List UInt8}

/-- The payload of a part write: page, offset, length, data. -/
def partPayload (page : UInt8) (offset length : UInt16) (data : List UInt8) : List UInt8 :=
  page :: (le16 offset ++ le16 length ++ data)

lemma length_partPayload (page : UInt8) (data : List UInt8) :
    (partPayload page offset length data).length = data.length + 5 := by
  simp only [partPayload, List.length_cons, List.length_append, length_le16]
  omega

/-- What a part write does to the store. If four bytes and the data are as long as the page, it is
taken for a write of the whole page. -/
lemma writeResult_partPayload (hdata : data.length = length.toNat) (hpos : 0 < length.toNat) :
    writeResult S srv (partPayload page offset length data) page n =
      if length.toNat + 4 = n then
        some (S.writePage srv.store page (le16 offset ++ le16 length ++ data))
      else writePart S srv page n offset.toNat data.length data := by
  have hsize := length_partPayload offset length page data
  have hoff : fromLeBytes (partPayload page offset length data) 1 = some offset.toNat := by
    change some (u16 (le16 offset)).toNat = _
    rw [u16_le16]
  have hlen : fromLeBytes (partPayload page offset length data) 3 = some length.toNat := by
    change some (u16 (le16 length)).toNat = _
    rw [u16_le16]
  have hfrom (i : ℕ) (hi : i ≤ data.length + 5) :
      slice (partPayload page offset length data) i (data.length + 5) =
        some ((partPayload page offset length data).drop i) := by
    rw [slice, hsize, if_pos ⟨hi, le_rfl⟩, window, List.take_of_length_le]
    rw [List.length_drop, hsize]
  rw [writeResult, hsize]
  by_cases hwhole : length.toNat + 4 = n
  · rw [if_pos (by omega), if_pos hwhole, hfrom 1 (by omega)]
    rfl
  · have hmatch : ¬ (length.toNat = 0 ∨ data.length ≠ length.toNat) := by omega
    rw [if_neg (by omega), if_neg hwhole, if_pos (by omega), hoff, Option.bind_some, hlen,
      Option.bind_some, hfrom 5 (by omega), Option.bind_some]
    change (if length.toNat = 0 ∨ data.length ≠ length.toNat then _ else _) = _
    rw [if_neg hmatch, hdata]
    rfl

variable {S} {offset length}

/-- What the store is asked to write: header and data, if they are as long as the page; else the page
with the part changed, if the buffer of the server holds the page and the page can be read. -/
def Asked (M : PageMemory S) (page : UInt8) (n : ℕ) (offset length : UInt16)
    (data d : List UInt8) : Prop :=
  if length.toNat + 4 = n then d = le16 offset ++ le16 length ++ data
  else n ≤ 1024 ∧ (∃ lent, S.readPage srv.store page (List.replicate n 0) = some (lent, n)) ∧
    d = put (M.content srv.store page) offset.toNat data

lemma writeResult_of_asked {M : PageMemory S} {d : List UInt8}
    (hlen : S.pageLen srv.store page = some n) (hfit : offset.toNat + data.length ≤ n)
    (hdata : data.length = length.toNat) (hpos : 0 < length.toNat)
    (h : Asked srv M page n offset length data d) :
    writeResult S srv (partPayload page offset length data) page n =
      some (S.writePage srv.store page d) := by
  rw [writeResult_partPayload S srv offset length hdata hpos]
  by_cases hwhole : length.toNat + 4 = n
  · rw [Asked, if_pos hwhole] at h
    rw [if_pos hwhole, h]
  · rw [Asked, if_neg hwhole] at h
    obtain ⟨hcap, ⟨lent, hread⟩, rfl⟩ := h
    rw [if_neg hwhole, writePart_of_read srv hfit hcap hread, M.read hlen List.length_replicate hread]

/-- A part write is refused before the store sees it, or the store is asked. -/
lemma asked_of_writeResult (M : PageMemory S) (hlen : S.pageLen srv.store page = some n)
    (hfit : offset.toNat + data.length ≤ n) (hdata : data.length = length.toNat)
    (hpos : 0 < length.toNat) {r : σ × Except PageError Unit}
    (hr : writeResult S srv (partPayload page offset length data) page n = some r) :
    (∃ e, r = (srv.store, .error e)) ∨
      ∃ d, Asked srv M page n offset length data d ∧ r = S.writePage srv.store page d := by
  have hasked {d : List UInt8} (hd : Asked srv M page n offset length data d) :
      ∃ d, Asked srv M page n offset length data d ∧ r = S.writePage srv.store page d := by
    rw [writeResult_of_asked srv hlen hfit hdata hpos hd] at hr
    exact ⟨d, hd, (Option.some.inj hr).symm⟩
  by_cases hwhole : length.toNat + 4 = n
  · exact .inr (hasked (by rw [Asked, if_pos hwhole]))
  have h := hr
  rw [writeResult_partPayload S srv offset length hdata hpos, if_neg hwhole, writePart,
    if_neg (by omega)] at h
  rcases Nat.lt_or_ge 1024 n with hbig | hcap
  · -- a page that does not fit the buffer stops the server
    rw [slice, if_neg fun hs => by rw [List.length_replicate] at hs; omega, Option.bind_none] at h
    cases h
  rw [slice_zeros hcap, Option.bind_some] at h
  rcases hread : S.readPage srv.store page (List.replicate n 0) with _ | ⟨lent, k⟩
  · rw [hread] at h
    exact .inl ⟨_, (Option.some.inj h).symm⟩
  · by_cases hk : k = n
    · subst hk
      exact .inr (hasked (by rw [Asked, if_neg hwhole]; exact ⟨hcap, ⟨lent, hread⟩, rfl⟩))
    · simp only [hread, if_neg hk] at h
      exact .inl ⟨_, (Option.some.inj h).symm⟩

variable (out : List UInt8)

lemma handle_partPayload {req : List UInt8} (hidle : srv.provider.engineRunning = false)
    (hlen : S.pageLen srv.store page = some n)
    (hreq : decodeRequest req = some (.writePage, partPayload page offset length data)) :
    handle S srv out req =
      (writeResult S srv (partPayload page offset length data) page n).map
        (answerWrite srv.countRxOk out) := by
  have hwrite : handleWritePage S srv.countRxOk (partPayload page offset length data) out =
      (writeResult S srv (partPayload page offset length data) page n).map
        (answerWrite srv.countRxOk out) := by
    change (if srv.provider.engineRunning then _ else _) = _
    rw [hidle, if_neg Bool.false_ne_true]
    change (match S.pageLen srv.store page with | none => _ | some _ => _) = _
    rw [hlen]
    rfl
  rw [handle, handleWithBenchTooling, hreq, Option.map_map]
  exact Option.map_id'.trans hwrite

lemma says_answerWrite (r : σ × Except PageError Unit) :
    (answerWrite srv out r).server.store = r.1 ∧
      ((answerWrite srv out r).Says .writePage (ascii "OK") ↔ 9 ≤ out.length ∧ r.2 = .ok ()) ∧
      ((answerWrite srv out r).Says .writePage (ascii "ERR") ↔
        10 ≤ out.length ∧ ∃ e, r.2 = .error e) := by
  have hok : (ascii "OK").length = 2 := by decide
  have herr : (ascii "ERR").length = 3 := by decide
  have hne : ascii "ERR" ≠ ascii "OK" := by decide
  obtain ⟨store, _ | u⟩ := r
  · refine ⟨rfl, (says_answer _ (by omega)).trans ?_, (says_answer _ (by omega)).trans ?_⟩
    · simp [hne.symm]
    · simp [herr]
  · refine ⟨rfl, (says_answer _ (by omega)).trans ?_, (says_answer _ (by omega)).trans ?_⟩
    · simp [hok]
    · simp [hne]

end PartRequest

/-- **A part write changes the part and nothing else**, exactly when the bytes the store is asked for
and takes are the page with the part changed, and a refusal of these bytes changes no page. They are
not if the request is as long as a write of the whole page. -/
theorem writePage_part_iff (S : PageStore σ) (M : PageMemory S) (srv : TunerstudioServer σ)
    (page : UInt8) (n : ℕ) (offset length : UInt16) (data req out : List UInt8)
    (hidle : srv.provider.engineRunning = false) (hlen : S.pageLen srv.store page = some n)
    (hfit : offset.toNat + length.toNat ≤ n) (hpos : 0 < length.toNat)
    (hdata : data.length = length.toNat)
    (hreq : decodeRequest req = some (.writePage, partPayload page offset length data)) :
    (∀ h, handle S srv out req = some h →
        (h.Says .writePage (ascii "OK") →
          OnlyChanged (M.content srv.store page) (M.content h.server.store page) offset.toNat data) ∧
        (h.Says .writePage (ascii "ERR") → M.content h.server.store = M.content srv.store)) ↔
      ∀ d, Asked srv M page n offset length data d →
        (9 ≤ out.length → (S.writePage srv.store page d).2 = .ok () →
          d = put (M.content srv.store page) offset.toNat data) ∧
        (10 ≤ out.length → ∀ e, (S.writePage srv.store page d).2 = .error e →
          M.content (S.writePage srv.store page d).1 = M.content srv.store) := by
  have hold : offset.toNat + data.length ≤ (M.content srv.store page).length := by
    rw [M.length_content hlen]
    omega
  have hsays := says_answerWrite srv.countRxOk out
  rw [handle_partPayload srv out hidle hlen hreq]
  constructor
  · intro hall d hd
    have h := hall _ (by rw [writeResult_of_asked srv hlen (by omega) hdata hpos hd, Option.map_some])
    obtain ⟨hstore, hok, herr⟩ := hsays (S.writePage srv.store page d)
    rw [hok, herr, hstore, onlyChanged_iff hold] at h
    refine ⟨fun hroom htaken => ?_, fun hroom e he => h.2 ⟨hroom, e, he⟩⟩
    exact (M.write_ok (Prod.ext rfl htaken)).symm.trans (h.1 ⟨hroom, htaken⟩)
  · intro hcond h hh
    obtain ⟨r, hr, rfl⟩ := Option.map_eq_some_iff.mp hh
    obtain ⟨hstore, hok, herr⟩ := hsays r
    rw [hok, herr, hstore, onlyChanged_iff hold]
    rcases asked_of_writeResult srv M hlen (by omega) hdata hpos hr with ⟨e, rfl⟩ | ⟨d, hd, rfl⟩
    · exact ⟨fun h => (nomatch h.2), fun _ => rfl⟩
    · refine ⟨fun h => ?_, fun ⟨hroom, e, he⟩ => (hcond d hd).2 hroom e he⟩
      exact (M.write_ok (Prod.ext rfl h.2)).trans ((hcond d hd).1 h.1 h.2)

/-! #### The warm-up page -/

variable {buf : List UInt8} {r : List UInt8 × ℕ} (s : List UInt8)

/-- The eight bytes of the page; what was never written is zero. -/
def wueContent : List UInt8 := (s ++ List.replicate 8 0).take 8

lemma length_wueContent : (wueContent s).length = 8 := by
  rw [wueContent, List.length_take, List.length_append, List.length_replicate]
  omega

def wueRead (page : UInt8) (buf : List UInt8) : Option (List UInt8 × ℕ) :=
  if page = 10 ∧ buf.length = 8 then some (wueContent s, 8) else none

def wueWrite (page : UInt8) (data : List UInt8) : List UInt8 × Except PageError Unit :=
  if page = 10 ∧ data.length = 8 then (data, .ok ()) else (s, .error .wrongSize)

variable {s}

lemma length_wueRead (h : wueRead s page buf = some r) : r.1.length = buf.length := by
  obtain ⟨hp, heq⟩ := Option.ite_none_right_eq_some.mp h
  rw [← Option.some.inj heq, length_wueContent, hp.2]

/-- A store with the warm-up page alone, in memory. -/
def wueStore : PageStore (List UInt8) where
  pageLen _ page := if page = 10 then some 8 else none
  readPage := wueRead
  writePage := wueWrite
  burn s := (s, .error .unsupported)
  exportPackageWire _ _ := .error .invalid
  importPackageWire s _ := (s, .error .invalid)
  length_readPage := length_wueRead
  length_exportPackageWire := nofun

lemma wueStore_write_ok {s' : List UInt8} (h : wueStore.writePage s page data = (s', .ok ())) :
    wueContent s' = data := by
  change wueWrite s page data = (s', .ok ()) at h
  rw [wueWrite] at h
  split at h
  · next hp =>
    obtain rfl := congrArg Prod.fst h
    rw [wueContent, List.take_append_of_le_length hp.2.ge, List.take_of_length_le hp.2.le]
  · cases h

def wueMemory : PageMemory wueStore where
  content s _ := wueContent s
  length_content h :=
    (length_wueContent _).trans (Option.some.inj (Option.ite_none_right_eq_some.mp h).2)
  read _ _ h := (congrArg Prod.fst (Option.some.inj (Option.ite_none_right_eq_some.mp h).2)).symm
  write_ok := wueStore_write_ok

/-- A server on that store, with the engine at rest. -/
def wueServer : TunerstudioServer (List UInt8) := new [] ⟨id, false⟩ [1, 2, 3, 4, 5, 6, 7, 8]

/-- Three bytes written behind the second. -/
theorem writePage_part_iff_three :
    decodeRequest (frame .writePage (partPayload 10 2 3 [9, 9, 9])) =
        some (.writePage, partPayload 10 2 3 [9, 9, 9]) ∧
      (handle wueStore wueServer (List.replicate 9 0)
          (frame .writePage (partPayload 10 2 3 [9, 9, 9]))).map (·.server.store) =
        some [1, 2, 9, 9, 9, 6, 7, 8] ∧
      OnlyChanged (wueMemory.content [1, 2, 3, 4, 5, 6, 7, 8] 10)
        (wueMemory.content [1, 2, 9, 9, 9, 6, 7, 8] 10) 2 [9, 9, 9] := by
  have hreq : decodeRequest (frame .writePage (partPayload 10 2 3 [9, 9, 9])) =
      some (.writePage, partPayload 10 2 3 [9, 9, 9]) := by decide +kernel
  have hread : wueStore.readPage wueServer.store 10 (List.replicate 8 0) =
      some ([1, 2, 3, 4, 5, 6, 7, 8], 8) := by decide
  have hwrite : writeResult wueStore wueServer (partPayload 10 2 3 [9, 9, 9]) 10 8 =
      some ([1, 2, 9, 9, 9, 6, 7, 8], .ok ()) := by
    rw [writeResult_partPayload wueStore wueServer 2 3 rfl (by decide), if_neg (by decide),
      writePart_of_read wueServer (by decide) (by decide) hread]
    decide
  have hrun : (handle wueStore wueServer (List.replicate 9 0)
      (frame .writePage (partPayload 10 2 3 [9, 9, 9]))).map (fun h => (h.server.store, h.out, h.reply)) =
        some ([1, 2, 9, 9, 9, 6, 7, 8], frame .writePage (ascii "OK"), some 9) := by
    rw [handle_partPayload wueServer _ rfl rfl hreq, hwrite]
    decide +kernel
  obtain ⟨h, hh, hval⟩ := Option.map_eq_some_iff.mp hrun
  have hstore : h.server.store = [1, 2, 9, 9, 9, 6, 7, 8] := congrArg Prod.fst hval
  have hout : h.out = frame .writePage (ascii "OK") := congrArg (·.2.1) hval
  have hreply : h.reply = some 9 := congrArg (·.2.2) hval
  have hpart := (writePage_part_iff wueStore wueMemory wueServer 10 8 2 3 [9, 9, 9] _
    (List.replicate 9 0) rfl rfl (by decide) (by decide) rfl hreq).mpr
      (fun d hd => ⟨fun _ _ => hd.2.2, nofun⟩) h hh
  refine ⟨hreq, by rw [hh, Option.map_some, hstore], ?_⟩
  rw [hstore] at hpart
  refine hpart.1 ⟨9, hreply, ?_⟩
  rw [hout]
  decide +kernel

/-- Four bytes written at the start: the header of the request ends up in the page. -/
theorem writePage_four_of_eight :
    (handle wueStore wueServer (List.replicate 9 0)
        (frame .writePage (partPayload 10 0 4 [9, 9, 9, 9]))).map
      (fun h => (h.server.store, h.reply.map (h.out.take ·))) =
        some ([0, 0, 4, 0, 9, 9, 9, 9], some (frame .writePage (ascii "OK"))) ∧
      ¬ OnlyChanged (wueMemory.content [1, 2, 3, 4, 5, 6, 7, 8] 10)
        (wueMemory.content [0, 0, 4, 0, 9, 9, 9, 9] 10) 0 [9, 9, 9, 9] := by
  refine ⟨by decide +kernel, fun h => ?_⟩
  exact absurd h.1 (by decide +kernel)

end TunerstudioServer

end Pipoco.Ts
