import Pipoco.TsServer

/-!
What the server lets through.

While the engine runs no request reaches a function of the store that changes it: the calls are
counted by a store that keeps a log. Every reply is a frame for the command of its request, except
for a signature that is too long for a frame; and no request stops the server, except where the
store claims to have exported more than the buffer holds.
-/

namespace Pipoco.Ts

open Bytes Domain TuningLink

variable {σ : Type}

/-! ### Counting the calls -/

/-- The calls that change a store. -/
inductive StoreCall
  | writePage | burn | importPackageWire
  deriving DecidableEq, Repr

section Logged

variable (S : PageStore σ) {s : σ × List StoreCall} {buf : List UInt8} {r : List UInt8 × ℕ}

/-- The store, with a log of the calls that change it. -/
def logged : PageStore (σ × List StoreCall) where
  pageLen s := S.pageLen s.1
  readPage s := S.readPage s.1
  writePage s p data :=
    (((S.writePage s.1 p data).1, s.2 ++ [.writePage]), (S.writePage s.1 p data).2)
  burn s := (((S.burn s.1).1, s.2 ++ [.burn]), (S.burn s.1).2)
  exportPackageWire s := S.exportPackageWire s.1
  importPackageWire s data :=
    (((S.importPackageWire s.1 data).1, s.2 ++ [.importPackageWire]), (S.importPackageWire s.1 data).2)
  length_readPage := S.length_readPage
  length_exportPackageWire := S.length_exportPackageWire

end Logged

namespace TunerstudioServer

variable (S : PageStore σ) (srv : TunerstudioServer σ) (payload out : List UInt8)

/-- The same server on another store. -/
def withStore {τ : Type} (store : τ) : TunerstudioServer τ :=
  ⟨srv.signature, srv.provider, store, srv.stats⟩

/-! ### One command at a time -/

variable (cmd : Cmd) (p : List UInt8) {l : List UInt8}

/-- A reply, if there is one, is a frame for the command. -/
def RepliesTo (h : Handled σ) : Prop :=
  ∀ n, h.reply = some n → ∃ p, decodeRequest (h.out.take n) = some (cmd, p)

lemma window_append_of_le {u : List UInt8} (v : List UInt8) {off : ℕ} (len : ℕ)
    (h : off + len ≤ u.length) : window (u ++ v) off len = window u off len := by
  rw [window, window, List.drop_append_of_le_length (by omega),
    List.take_append_of_le_length (by rw [List.length_drop]; omega)]

/-- The length of a payload as a frame announces it, without command and checksum. -/
def announced : ℕ := (p.length + 3) % 2 ^ 16 - 3

/-- A payload longer than a frame that has, behind the bytes the frame announces, their checksum. -/
def ShortFrame : Prop :=
  3 ≤ (p.length + 3) % 2 ^ 16 ∧
    window p (announced p) 2 = le16 (crc16Ccitt (cmd.code :: p.take (announced p)))

variable {p}

/-- A frame with a longer payload than its length can say is still accepted for its command if the
bytes it announces happen to be followed by their checksum. -/
lemma decodeRequest_long_frame {cmd : Cmd} (hlong : 65532 < p.length) :
    (∃ q, decodeRequest (frame cmd p) = some (cmd, q)) ↔ ShortFrame cmd p := by
  constructor
  · rintro ⟨q, hq⟩
    have hfield : (p.length + 3) % 2 ^ 16 = q.length + 3 := by
      have hlen := frameLen_frame_append cmd p []
      rw [List.append_nil, frameLen_of_decodeRequest hq] at hlen
      exact hlen.symm
    have hk : announced p = q.length := by rw [announced, hfield]; rfl
    obtain ⟨-, rest, hrest⟩ := decodeRequest_eq_some.mp hq
    have hbody : p ++ le16 (crc16Ccitt (cmd.code :: p)) =
        q ++ (le16 (crc16Ccitt (cmd.code :: q)) ++ rest) :=
      (congrArg (List.drop 5) hrest).trans (List.append_assoc _ _ _)
    have htake : p.take q.length = q := by
      have htk := congrArg (List.take q.length) hbody
      rwa [List.take_append_of_le_length (by omega), List.take_left] at htk
    refine ⟨by omega, ?_⟩
    rw [hk, htake]
    calc window p q.length 2
        = window (p ++ le16 (crc16Ccitt (cmd.code :: p))) q.length 2 :=
          (window_append_of_le _ _ (by omega)).symm
      _ = window (q ++ (le16 (crc16Ccitt (cmd.code :: q)) ++ rest)) q.length 2 := by rw [hbody]
      _ = le16 (crc16Ccitt (cmd.code :: q)) := by
          rw [window_append_right _ _ le_rfl, Nat.sub_self, window_append_left _ _ (length_le16 _)]
  · rintro ⟨h3, hcrc⟩
    have hk : announced p + 3 = (p.length + 3) % 2 ^ 16 := by rw [announced]; omega
    have hlen : (p.take (announced p)).length = announced p := by
      rw [List.length_take]
      omega
    refine ⟨p.take (announced p), decodeRequest_eq_some.mpr ⟨by omega,
      p.drop (announced p + 2) ++ le16 (crc16Ccitt (cmd.code :: p)), ?_⟩⟩
    have hfield : UInt16.ofNat (1 + p.length + 2) = UInt16.ofNat (1 + announced p + 2) := by
      refine UInt16.toNat_inj.mp ?_
      rw [UInt16.toNat_ofNat', UInt16.toNat_ofNat']
      omega
    have hbody (crc : List UInt8) : p ++ crc =
        p.take (announced p) ++ (le16 (crc16Ccitt (cmd.code :: p.take (announced p))) ++
          (p.drop (announced p + 2) ++ crc)) := by
      rw [← hcrc, ← List.append_assoc (window _ _ _), ← List.append_assoc,
        ← List.append_assoc (p.take _), window, ← List.take_add, List.take_append_drop]
    rw [frame, frame, hlen, hfield, List.append_assoc, List.append_assoc, List.append_assoc,
      List.cons_append, List.cons_append, hbody]

lemma repliesTo_answer {cmd : Cmd} :
    RepliesTo cmd (srv.answer cmd p out) ↔
      p.length ≤ 65532 ∨ out.length < p.length + 7 ∨ ShortFrame cmd p := by
  rcases Nat.lt_or_ge out.length (p.length + 7) with hlt | hroom
  · refine ⟨fun _ => .inr (.inl hlt), fun _ n hn => ?_⟩
    change (encodeReply cmd p out).2 = some n at hn
    rw [encodeReply_of_lt cmd hlt] at hn
    cases hn
  have hsome : (encodeReply cmd p out).2 = some (p.length + 7) := by
    rw [encodeReply_of_le cmd hroom]
  obtain ⟨-, -, htake⟩ := encodeReply_eq_some cmd (Prod.ext rfl hsome)
  have hiff : RepliesTo cmd (srv.answer cmd p out) ↔
      ∃ q, decodeRequest (frame cmd p) = some (cmd, q) := by
    rw [← htake]
    refine ⟨fun h => h _ hsome, fun h n hn => ?_⟩
    cases hsome.symm.trans hn
    exact h
  rw [hiff]
  rcases Nat.lt_or_ge 65532 p.length with hlong | hfit
  · rw [decodeRequest_long_frame hlong]
    exact ⟨fun h => .inr (.inr h), fun h => (h.resolve_left (by omega)).resolve_left (by omega)⟩
  · exact ⟨fun _ => .inl hfit, fun _ => ⟨p, (decodeRequest_frame cmd p).mpr (by omega)⟩⟩

/-- The request gets no reply, or one with a short payload. -/
def Plain (out : List UInt8) (h : Handled σ) : Prop :=
  h.reply = none ∨ ∃ p, p.length ≤ 1024 ∧ (h.out, h.reply) = encodeReply cmd p out

variable {cmd} {h : Handled σ}

lemma Plain.repliesTo {out : List UInt8} (hp : Plain cmd out h) : RepliesTo cmd h := by
  rcases hp with hnone | ⟨p, hlen, heq⟩
  · intro n hn
    rw [hnone] at hn
    cases hn
  · have hanswer : RepliesTo cmd (h.server.answer cmd p out) :=
      (repliesTo_answer h.server out).mpr (.inl (by omega))
    obtain ⟨hout, hreply⟩ := Prod.mk.inj heq
    intro n hn
    rw [hout]
    exact hanswer n (hreply.symm.trans hn)

lemma length_of_slice {bytes : List UInt8} {lo hi : ℕ} (h : slice l lo hi = some bytes) :
    bytes.length ≤ l.length := by
  rw [slice] at h
  split at h
  · next hs =>
    cases h
    rw [window, List.length_take, List.length_drop]
    omega
  · cases h

lemma slice_of_le (lo : ℕ) {hi : ℕ} (h : lo ≤ hi ∧ hi ≤ l.length) :
    slice l lo hi = some (window l lo (hi - lo)) := if_pos h

/-- The reply is short, and the store of a running engine is left alone. -/
def Safe (cmd : Cmd) (h : Handled σ) : Prop :=
  Plain cmd out h ∧ (srv.provider.engineRunning → h.server.store = srv.store)

lemma safe_silent (cmd : Cmd) : Safe srv out cmd (srv.silent out) := ⟨.inl rfl, fun _ => rfl⟩

variable {srv} in
lemma safe_answer {srv' : TunerstudioServer σ}
    (hstore : srv.provider.engineRunning → srv'.store = srv.store) (cmd : Cmd) (h : p.length ≤ 1024) :
    Safe srv out cmd (srv'.answer cmd p out) := ⟨.inr ⟨p, h, rfl⟩, hstore⟩

lemma handleOutpc_safe : ∃ h, handleOutpc srv out = some h ∧ Safe srv out .outpc h := by
  have hlen : (putAll (List.replicate Outpc.wireLen 0)
      (srv.provider.fillOutpc .default).blocks).length = Outpc.wireLen := by
    rw [length_putAll, List.length_replicate]
  have henc : (srv.provider.fillOutpc .default).encode (List.replicate Outpc.wireLen 0) =
      (putAll (List.replicate Outpc.wireLen 0) (srv.provider.fillOutpc .default).blocks,
        some Outpc.wireLen) := by
    rw [Outpc.encode, if_neg (by rw [List.length_replicate]; exact lt_irrefl _)]
  have hslice := slice_of_le 0 ⟨Nat.zero_le _, hlen.ge⟩
  refine ⟨_, ?_, safe_answer out (fun _ => rfl) .outpc ((length_of_slice hslice).trans ?_)⟩
  · simp only [handleOutpc, henc, hslice, Option.map_some]
  · rw [hlen]
    decide

lemma handleReadPage_safe (hh : handleReadPage S srv payload out = some h) :
    Safe srv out .readPage h := by
  have hsilent (heq : some (srv.silent out) = some h) : Safe srv out .readPage h :=
    Option.some.inj heq ▸ safe_silent srv out _
  rw [handleReadPage] at hh
  split at hh
  · exact hsilent hh
  obtain ⟨page, -, hh⟩ := Option.bind_eq_some_iff.mp hh
  split at hh
  · exact hsilent hh
  obtain ⟨range, -, hh⟩ := Option.bind_eq_some_iff.mp hh
  split at hh
  · exact hsilent hh
  obtain ⟨lent, -, hh⟩ := Option.bind_eq_some_iff.mp hh
  split at hh
  · exact hsilent hh
  split at hh
  · exact hsilent hh
  obtain ⟨bytes, hbytes, rfl⟩ := Option.map_eq_some_iff.mp hh
  have hlen := length_of_slice hbytes
  rw [length_put, List.length_replicate] at hlen
  exact safe_answer out (fun _ => rfl) _ hlen

lemma handleWritePage_safe (hh : handleWritePage S srv payload out = some h) :
    Safe srv out .writePage h := by
  have hrefused (heq : some (srv.countWriteErr.answer .writePage (ascii "ERR") out) = some h) :
      Safe srv out .writePage h := Option.some.inj heq ▸ safe_answer out (fun _ => rfl) _ (by decide)
  rw [handleWritePage] at hh
  split at hh
  · exact Option.some.inj hh ▸ safe_silent srv out _
  obtain ⟨page, -, hh⟩ := Option.bind_eq_some_iff.mp hh
  split at hh
  · exact hrefused hh
  next hidle =>
  split at hh
  · exact hrefused hh
  obtain ⟨⟨store, _ | u⟩, -, rfl⟩ := Option.map_eq_some_iff.mp hh <;>
    exact safe_answer out (fun hrun => absurd hrun hidle) _ (by decide)

lemma handleBurn_safe : Safe srv out .burn (handleBurn S srv payload out) := by
  rw [handleBurn]
  split
  · exact safe_silent srv out _
  split
  · exact safe_answer out (fun _ => rfl) _ (by decide)
  next hidle =>
  split <;> exact safe_answer out (fun hrun => absurd hrun hidle) _ (by decide)

lemma handlePackageImport_safe :
    Safe srv out .packageImport (handlePackageImport S srv payload out) := by
  rw [handlePackageImport]
  split
  · exact safe_silent srv out _
  split
  · exact safe_answer out (fun _ => rfl) _ (by decide)
  next hidle =>
  split <;> exact safe_answer out (fun hrun => absurd hrun hidle) _ (by decide)

lemma handlePackageExport_safe (hh : handlePackageExport S srv payload out = some h) :
    Safe srv out .packageExport h := by
  rw [handlePackageExport] at hh
  split at hh
  · exact Option.some.inj hh ▸ safe_silent srv out _
  split at hh
  · next buf len hexport =>
    obtain ⟨bytes, hbytes, rfl⟩ := Option.map_eq_some_iff.mp hh
    have hlen := length_of_slice hbytes
    have hbuf : buf.length = 512 := (S.length_exportPackageWire hexport).trans List.length_replicate
    exact safe_answer out (fun _ => rfl) _ (by omega)
  · exact Option.some.inj hh ▸ safe_answer out (fun _ => rfl) _ (by decide)

lemma length_wire (e : PageCrcInfoEntry) : e.wire.length = 8 := by
  simp only [PageCrcInfoEntry.wire, List.cons_append, List.length_cons, List.length_append,
    length_le16, List.length_nil]

lemma handlePageCrcInfo_safe (hh : handlePageCrcInfo S srv payload out = some h) :
    Safe srv out .pageCrcInfo h := by
  rw [handlePageCrcInfo] at hh
  split at hh
  · exact Option.some.inj hh ▸ safe_silent srv out _
  obtain ⟨_ | entries, -, rfl⟩ := Option.map_eq_some_iff.mp hh
  · exact safe_silent srv out _
  · refine safe_answer out (fun _ => rfl) _ ?_
    have hcount : tsPageDescriptors.length = 19 := rfl
    have hflat (l : List PageCrcInfoEntry) :
        (l.flatMap PageCrcInfoEntry.wire).length = 8 * l.length := by
      simp [List.length_flatMap, length_wire, Nat.mul_comm]
    rw [List.length_cons, List.length_cons, hflat, List.length_take]
    omega

lemma refuseBench_plain (cmd : Cmd) (wellFormed : Bool) :
    Plain cmd out (⟨srv, (refuseBench cmd wellFormed out).2.1, (refuseBench cmd wellFormed out).2.2⟩ :
      Handled σ) := by
  cases wellFormed with
  | false => exact .inl rfl
  | true => exact .inr ⟨ascii "ERR", by decide, rfl⟩

/-! ### Whole requests -/

variable {req : List UInt8} {o : Option (Handled σ)}

/-- What carries out a request, by its command; the server has already counted it. -/
inductive Branch : Cmd → Option (Handled σ) → Prop
  | sig : Branch .sig (some (srv.answer .sig srv.signature out))
  | outpc : Branch .outpc (handleOutpc srv out)
  | ping : Branch .ping (some (srv.answer .ping (ascii "PONG") out))
  | readPage : Branch .readPage (handleReadPage S srv payload out)
  | writePage : Branch .writePage (handleWritePage S srv payload out)
  | burn : Branch .burn (some (handleBurn S srv payload out))
  | packageExport : Branch .packageExport (handlePackageExport S srv payload out)
  | packageImport : Branch .packageImport (some (handlePackageImport S srv payload out))
  | pageCrcInfo : Branch .pageCrcInfo (handlePageCrcInfo S srv payload out)
  | bench {cmd : Cmd} (hexport : cmd ≠ .packageExport) (wellFormed : Bool) :
      Branch cmd (some ⟨srv, (refuseBench cmd wellFormed out).2.1,
        (refuseBench cmd wellFormed out).2.2⟩)

lemma handle_branch {payload : List UInt8} (hreq : decodeRequest req = some (cmd, payload)) :
    Branch S srv.countRxOk payload out cmd (handle S srv out req) := by
  have hmap (o : Option (Handled σ)) : (o.map (·, ())).map Prod.fst = o := by
    rw [Option.map_map]
    exact Option.map_id'
  simp only [handle, handleWithBenchTooling, hreq]
  cases cmd with
  | sig => exact .sig
  | outpc => rw [hmap]; exact .outpc
  | ping => exact .ping
  | readPage => rw [hmap]; exact .readPage
  | writePage => rw [hmap]; exact .writePage
  | burn => exact .burn
  | packageExport => rw [hmap]; exact .packageExport
  | packageImport => exact .packageImport
  | pageCrcInfo => rw [hmap]; exact .pageCrcInfo
  | outputTest | toothStats | toothCompositeLog | versionInfo | compatibilityInfo | reboot =>
    exact .bench (by decide) _

/-- The store is as before if the engine runs, and the reply is a frame for the command, with a
short payload unless it is the signature. -/
lemma Branch.spec (hb : Branch S srv payload out cmd o) (hh : o = some h) :
    cmd = .sig ∧ h = srv.answer .sig srv.signature out ∨ Safe srv out cmd h := by
  cases hb with
  | sig => exact .inl ⟨rfl, (Option.some.inj hh).symm⟩
  | outpc =>
    obtain ⟨g, hg, hs⟩ := handleOutpc_safe srv out
    cases hg.symm.trans hh
    exact .inr hs
  | ping =>
    cases hh
    exact .inr (safe_answer out (fun _ => rfl) _ (by decide))
  | readPage => exact .inr (handleReadPage_safe S srv payload out hh)
  | writePage => exact .inr (handleWritePage_safe S srv payload out hh)
  | burn =>
    cases hh
    exact .inr (handleBurn_safe S srv payload out)
  | packageExport => exact .inr (handlePackageExport_safe S srv payload out hh)
  | packageImport =>
    cases hh
    exact .inr (handlePackageImport_safe S srv payload out)
  | pageCrcInfo => exact .inr (handlePageCrcInfo_safe S srv payload out hh)
  | bench _ wellFormed =>
    cases hh
    exact .inr ⟨refuseBench_plain srv out _ wellFormed, fun _ => rfl⟩

lemma handle_spec (hh : handle S srv out req = some h) :
    (srv.provider.engineRunning → h.server.store = srv.store) ∧
      ((decodeRequest req = none ∧ h.reply = none) ∨
        ∃ cmd payload, decodeRequest req = some (cmd, payload) ∧
          (cmd = .sig ∧ h = srv.countRxOk.answer .sig srv.signature out ∨ Plain cmd out h)) := by
  rcases hreq : decodeRequest req with _ | ⟨cmd, payload⟩
  · simp only [handle, handleWithBenchTooling, hreq, Option.map_some] at hh
    cases hh
    exact ⟨fun _ => rfl, .inl ⟨rfl, rfl⟩⟩
  · rcases (handle_branch S srv out hreq).spec S _ payload out hh with ⟨rfl, rfl⟩ | hsafe
    · exact ⟨fun _ => rfl, .inr ⟨.sig, payload, rfl, .inl ⟨rfl, rfl⟩⟩⟩
    · exact ⟨hsafe.2, .inr ⟨cmd, payload, rfl, .inr hsafe.1⟩⟩

/-! ### No request stops the server -/

/-- Every page fits the server's buffers. -/
def PagesFit : Prop := ∀ page n, S.pageLen srv.store page = some n → n ≤ 1024

lemma fromLeBytes_isSome {i : ℕ} (h : i + 1 < l.length) : ∃ v, fromLeBytes l i = some v := by
  rw [fromLeBytes, List.getElem?_eq_getElem (by omega), List.getElem?_eq_getElem h]
  exact ⟨_, rfl⟩

lemma readRange_isSome (pageLen : ℕ) :
    ∃ range, readRange payload pageLen = some range ∧
      ∀ offset len, range = some (offset, len) → offset + len ≤ pageLen := by
  rw [readRange]
  split
  · next h5 =>
    obtain ⟨offset, hoff⟩ := fromLeBytes_isSome (l := payload) (i := 1) (by omega)
    obtain ⟨len, hlen⟩ := fromLeBytes_isSome (l := payload) (i := 3) (by omega)
    rw [hoff, Option.bind_some, hlen, Option.map_some]
    refine ⟨_, rfl, fun off' len' h => ?_⟩
    split at h
    · cases h
    · next hle =>
      cases h
      omega
  · refine ⟨_, rfl, fun off' len' h => ?_⟩
    cases h
    omega

variable {S srv}

lemma handleReadPage_isSome (hfit : PagesFit S srv) :
    (handleReadPage S srv payload out).isSome := by
  rw [handleReadPage]
  split
  · rfl
  next hlen =>
  rw [List.getElem?_eq_getElem (by omega), Option.bind_some]
  split
  · rfl
  next pageLen hpage =>
  obtain ⟨range, hrange, hbound⟩ := readRange_isSome payload pageLen
  have hcap := hfit _ _ hpage
  rw [hrange, Option.bind_some]
  split
  · rfl
  next offset len =>
  have hin := hbound offset len rfl
  rw [slice_zeros hcap, Option.bind_some]
  split
  · rfl
  split
  · rfl
  rw [slice_of_le offset ⟨by omega, by rw [length_put, List.length_replicate]; omega⟩]
  rfl

lemma writePart_isSome {page : UInt8} {pageLen offset len : ℕ} {data : List UInt8}
    (hcap : pageLen ≤ 1024) (hdata : data.length = len) :
    ∃ r, writePart S srv page pageLen offset len data = some r := by
  subst hdata
  by_cases hin : pageLen < offset + data.length
  · exact ⟨_, if_pos hin⟩
  by_cases hread : ∃ lent, S.readPage srv.store page (List.replicate pageLen 0) = some (lent, pageLen)
  · obtain ⟨lent, hread⟩ := hread
    exact ⟨_, writePart_of_read srv (by omega) hcap hread⟩
  · rw [writePart, if_neg hin, slice_zeros hcap, Option.bind_some]
    rcases hnone : S.readPage srv.store page (List.replicate pageLen 0) with _ | ⟨lent, k⟩
    · exact ⟨_, rfl⟩
    · have hk : k ≠ pageLen := by
        rintro rfl
        exact hread ⟨lent, hnone⟩
      exact ⟨_, if_neg hk⟩

lemma handleWritePage_isSome (hfit : PagesFit S srv) :
    (handleWritePage S srv payload out).isSome := by
  rw [handleWritePage]
  split
  · rfl
  next hlen =>
  rw [List.getElem?_eq_getElem (by omega), Option.bind_some]
  split
  · rfl
  split
  · rfl
  next pageLen hpage =>
  have hcap := hfit _ _ hpage
  rw [Option.isSome_map, writeResult]
  split
  · rw [slice_of_le 1 ⟨by omega, le_rfl⟩]
    rfl
  split
  · next h5 =>
    obtain ⟨offset, hoff⟩ := fromLeBytes_isSome (l := payload) (i := 1) (by omega)
    obtain ⟨len, hlen⟩ := fromLeBytes_isSome (l := payload) (i := 3) (by omega)
    rw [hoff, Option.bind_some, hlen, Option.bind_some, slice_of_le 5 ⟨h5, le_rfl⟩, Option.bind_some]
    split
    · rfl
    · next hmatch =>
      push Not at hmatch
      obtain ⟨r, hr⟩ := writePart_isSome hcap hmatch.2
      rw [hr]
      rfl
  · rfl

lemma handlePackageExport_isSome : (handlePackageExport S srv payload out).isSome ↔
    (payload = [] → ∀ r, S.exportPackageWire srv.store (List.replicate 512 0) = .ok r → r.2 ≤ 512) := by
  rw [handlePackageExport]
  split
  · next hne => exact ⟨fun _ hnil => absurd hnil hne, fun _ => rfl⟩
  next hnil =>
  push Not at hnil
  split
  · next buf len hexport =>
    have hbuf : buf.length = 512 := (S.length_exportPackageWire hexport).trans List.length_replicate
    rw [Option.isSome_map, slice]
    split
    · next hle =>
      refine ⟨fun _ _ r hr => ?_, fun _ => rfl⟩
      cases hexport.symm.trans hr
      exact hle.2.trans hbuf.le
    · next hgt =>
      refine ⟨fun h => absurd h Bool.false_ne_true, fun h => ?_⟩
      have hle : len ≤ 512 := h hnil _ hexport
      exact absurd ⟨Nat.zero_le _, hle.trans hbuf.ge⟩ hgt
  · next e hexport =>
    refine ⟨fun _ _ r hr => ?_, fun _ => rfl⟩
    cases hexport.symm.trans hr

/-- The labels of the pages fit the buffer of the layout checksum. -/
lemma pageCrcInfoEntry_isSome {d : TsPageDescriptor} (hd : d ∈ tsPageDescriptors) (len : UInt16) :
    ∃ e, pageCrcInfoEntry d len = some e := by
  have hlabel : ∀ d ∈ tsPageDescriptors, 6 + (ascii d.label).length ≤ 32 := by decide
  have hd' := hlabel d hd
  rw [pageCrcInfoEntry, pageCrcLayoutCrc, copyInto, if_pos]
  · exact ⟨_, rfl⟩
  · rw [length_putAll, List.length_replicate]
    omega

lemma pageCrcInfoEntries_isSome (pageLen : UInt8 → Option ℕ) {ds : List TsPageDescriptor}
    (hds : ∀ d ∈ ds, d ∈ tsPageDescriptors) : ∃ r, pageCrcInfoEntries pageLen ds = some r := by
  induction ds with
  | nil => exact ⟨_, rfl⟩
  | cons d ds ih =>
    obtain ⟨r, hr⟩ := ih fun e he => hds e (.tail _ he)
    rw [pageCrcInfoEntries]
    split
    · exact ⟨r, hr⟩
    · next len hlen =>
      split
      · obtain ⟨e, he⟩ := pageCrcInfoEntry_isSome (hds d (.head _)) (.ofNat len)
        rw [he, Option.bind_some, hr]
        exact ⟨_, rfl⟩
      · exact ⟨_, rfl⟩

lemma handlePageCrcInfo_isSome : (handlePageCrcInfo S srv payload out).isSome := by
  rw [handlePageCrcInfo]
  split
  · rfl
  · obtain ⟨r, hr⟩ := pageCrcInfoEntries_isSome (S.pageLen srv.store) fun _ h => h
    rw [hr]
    rfl

lemma Branch.export_eq (hb : Branch S srv payload out .packageExport o) :
    o = handlePackageExport S srv payload out := by
  cases hb with
  | packageExport => rfl
  | bench hexport _ => exact absurd rfl hexport

/-- Of the branches only the export can stop. -/
lemma Branch.isSome (hfit : PagesFit S srv) (hb : Branch S srv payload out cmd o)
    (hcmd : cmd ≠ .packageExport) : o.isSome := by
  cases hb with
  | outpc =>
    obtain ⟨g, hg, -⟩ := handleOutpc_safe srv out
    rw [hg]
    rfl
  | readPage => exact handleReadPage_isSome payload out hfit
  | writePage => exact handleWritePage_isSome payload out hfit
  | pageCrcInfo => exact handlePageCrcInfo_isSome payload out
  | packageExport => exact absurd rfl hcmd
  | sig | ping | burn | packageImport | bench _ _ => rfl

/-- **The server stops exactly on an export that is longer than its buffer.** -/
lemma handle_isSome (hfit : PagesFit S srv) (req : List UInt8) :
    (handle S srv out req).isSome ↔
      (decodeRequest req = some (.packageExport, []) →
        ∀ r, S.exportPackageWire srv.store (List.replicate 512 0) = .ok r → r.2 ≤ 512) := by
  rcases hreq : decodeRequest req with _ | ⟨cmd, payload⟩
  · refine ⟨fun _ heq => absurd heq (by simp), fun _ => ?_⟩
    simp only [handle, handleWithBenchTooling, hreq, Option.map_some, Option.isSome_some]
  have hb := handle_branch S srv out hreq
  have hfit : PagesFit S srv.countRxOk := hfit
  by_cases hcmd : cmd = .packageExport
  · subst hcmd
    rw [hb.export_eq payload out, handlePackageExport_isSome]
    refine ⟨fun h heq => h (congrArg Prod.snd (Option.some.inj heq)), fun h hnil => ?_⟩
    exact h (by rw [hnil])
  · refine ⟨fun _ heq => ?_, fun _ => hb.isSome payload out hfit hcmd⟩
    exact absurd (congrArg Prod.fst (Option.some.inj heq)) hcmd

/-- **The link is safe** while the engine runs: no call that changes the store is made. Every reply
is a frame for the command of its request exactly when a signature that is sent fits a frame, and
with pages that fit the buffers no request stops the server exactly when an export that is sent
does. -/
theorem handle_guarded (S : PageStore σ) (srv : TunerstudioServer σ) (req out : List UInt8) :
    (srv.provider.engineRunning → ∀ (calls : List StoreCall) (h : Handled (σ × List StoreCall)),
        handle (logged S) (srv.withStore (srv.store, calls)) out req = some h →
        h.server.store.2 = calls) ∧
      ((∀ h, handle S srv out req = some h → ∀ n, h.reply = some n →
          ∃ cmd payload p, decodeRequest req = some (cmd, payload) ∧
            decodeRequest (h.out.take n) = some (cmd, p)) ↔
        ∀ payload, decodeRequest req = some (.sig, payload) → srv.signature.length ≤ 65532 ∨
          out.length < srv.signature.length + 7 ∨ ShortFrame .sig srv.signature) ∧
      (PagesFit S srv → ((handle S srv out req).isSome ↔
        (decodeRequest req = some (.packageExport, []) →
          ∀ r, S.exportPackageWire srv.store (List.replicate 512 0) = .ok r → r.2 ≤ 512))) := by
  refine ⟨fun hrun calls h hh => ?_, ⟨fun hall payload hreq => ?_, fun hsig h hh n hn => ?_⟩,
    fun hfit => handle_isSome out hfit req⟩
  · exact congrArg Prod.snd ((handle_spec (logged S) _ out hh).1 hrun)
  · rw [← repliesTo_answer srv.countRxOk out]
    intro n hn
    obtain ⟨cmd, payload', p, hcmd, hp⟩ := hall (srv.countRxOk.answer .sig srv.signature out)
      (by simp only [handle, handleWithBenchTooling, hreq]; rfl) n hn
    cases hreq.symm.trans hcmd
    exact ⟨p, hp⟩
  · rcases (handle_spec S srv out hh).2 with
      ⟨-, hnone⟩ | ⟨cmd, payload, hreq, ⟨rfl, rfl⟩ | hplain⟩
    · cases hnone.symm.trans hn
    · obtain ⟨p, hp⟩ := (repliesTo_answer srv.countRxOk out).mpr (hsig payload hreq) n hn
      exact ⟨.sig, payload, p, hreq, hp⟩
    · obtain ⟨p, hp⟩ := hplain.repliesTo n hn
      exact ⟨cmd, payload, p, hreq, hp⟩

/-- A server on the warm-up page, with the engine running. -/
def runningServer : TunerstudioServer (List UInt8) := new [] ⟨id, true⟩ [1, 2, 3, 4, 5, 6, 7, 8]

/-- A write of the whole page. -/
def wholeWrite : List UInt8 := frame .writePage [10, 0, 0, 0, 0, 0, 0, 0, 0]

theorem handle_guarded_running :
    runningServer.provider.engineRunning ∧
      (handle (logged wueStore) (runningServer.withStore (runningServer.store, [])) (List.replicate 10 0)
        wholeWrite).map (·.server.store.2) = some [] := by
  have hsome : (handle (logged wueStore) (runningServer.withStore (runningServer.store, []))
      (List.replicate 10 0) wholeWrite).isSome := by decide +kernel
  obtain ⟨h, hh⟩ := Option.isSome_iff_exists.mp hsome
  refine ⟨rfl, ?_⟩
  rw [hh, Option.map_some, (handle_guarded wueStore runningServer wholeWrite
    (List.replicate 10 0)).1 rfl [] h hh]

/-- A store that claims one byte more than it was lent. -/
def longExport : PageStore (List UInt8) :=
  { wueStore with
    exportPackageWire := fun _ buf => .ok (buf, 513)
    length_exportPackageWire := fun h => by cases h; rfl }

/-- A server with a signature of 65533 bytes. -/
def longSignature : TunerstudioServer (List UInt8) := new (List.replicate 65533 0) ⟨id, false⟩ []

lemma handle_sig_wrapped (S : PageStore σ) {out : List UInt8} (hlen : srv.signature.length = 65533)
    (hout : out.length = 65540) :
    (handle S srv out (frame .sig [])).map (fun h => (h.reply, decodeRequest (h.out.take 65540))) =
      some (some 65540, none) := by
  have hhandle : handle S srv out (frame .sig []) =
      some (srv.countRxOk.answer .sig srv.signature out) := by
    rfl
  obtain ⟨hreply, hread⟩ := encodeReply_wrapped .sig (by rw [hlen]) hout.ge (by rw [hlen]; decide)
  rw [hhandle, Option.map_some, answer, hreply, hread]

/-- The export stops the server, and the signature comes back as a frame with length zero. -/
theorem handle_unguarded :
    (handle longExport wueServer [] (frame .packageExport [])).isSome = false ∧
      (handle wueStore longSignature (List.replicate 65540 0) (frame .sig [])).map
        (fun h => (h.reply, decodeRequest (h.out.take 65540))) = some (some 65540, none) :=
  ⟨by decide +kernel, handle_sig_wrapped wueStore List.length_replicate List.length_replicate⟩

end TunerstudioServer

end Pipoco.Ts
