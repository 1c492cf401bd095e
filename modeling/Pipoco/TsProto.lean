import Pipoco.KvAb

/-!
Frames of the serial link.

A frame is the magic, a length, a command, a payload and a checksum over command and payload. The
length counts everything behind it and has 16 bits, the payload of a reply has any length.

What the decoder accepts is a frame followed by anything: this one fact gives the round trip in
both directions, and it is all the later files use of the decoder.
-/

namespace Pipoco.Ts

open Bytes

variable (buf : List UInt8)

def magic : UInt16 := 0x55AA

inductive Cmd
  | sig | outpc | ping | readPage | writePage | burn | packageExport | packageImport | outputTest
  | toothStats | toothCompositeLog | versionInfo | compatibilityInfo | reboot | pageCrcInfo
  deriving DecidableEq, Repr

namespace Cmd

def code : Cmd → UInt8
  | sig => 0x10
  | outpc => 0x11
  | ping => 0x12
  | readPage => 0x20
  | writePage => 0x21
  | burn => 0x22
  | packageExport => 0x23
  | packageImport => 0x24
  | outputTest => 0x30
  | toothStats => 0x31
  | toothCompositeLog => 0x32
  | versionInfo => 0x33
  | compatibilityInfo => 0x34
  | reboot => 0x35
  | pageCrcInfo => 0x36

def ofCode : UInt8 → Option Cmd
  | 0x10 => some sig
  | 0x11 => some outpc
  | 0x12 => some ping
  | 0x20 => some readPage
  | 0x21 => some writePage
  | 0x22 => some burn
  | 0x23 => some packageExport
  | 0x24 => some packageImport
  | 0x30 => some outputTest
  | 0x31 => some toothStats
  | 0x32 => some toothCompositeLog
  | 0x33 => some versionInfo
  | 0x34 => some compatibilityInfo
  | 0x35 => some reboot
  | 0x36 => some pageCrcInfo
  | _ => none

@[simp] lemma ofCode_code (c : Cmd) : ofCode c.code = some c := by
  cases c <;> rfl

lemma code_of_ofCode {b : UInt8} {c : Cmd} (h : ofCode b = some c) : c.code = b := by
  unfold ofCode at h
  split at h <;> cases h <;> rfl

end Cmd

/-- The same checksum as that of the page store, with the same start value. -/
def crc16Ccitt (data : List UInt8) : UInt16 := Kv.crc16Ccitt 0xFFFF data

variable (cmd : Cmd)

/-- The output buffer after the call, and the length of the reply if it fits. -/
def encodeReply (payload out : List UInt8) : List UInt8 × Option ℕ :=
  let headerLen := 2 + 2 + 1
  let total := headerLen + payload.length + 2
  if out.length < total then (out, none)
  else
    let out := put out 0 (le16 magic)
    -- the cast drops what does not fit 16 bits
    let out := put out 2 (le16 (.ofNat (1 + payload.length + 2)))
    let out := put out 4 [cmd.code]
    let out := put out 5 payload
    let crc := crc16Ccitt (window out 4 (1 + payload.length))
    (put out (5 + payload.length) (le16 crc), some total)

def decodeRequest : Option (Cmd × List UInt8) :=
  if buf.length < 5 then none
  else if u16 (window buf 0 2) ≠ magic then none
  else
    let len := (u16 (window buf 2 2)).toNat
    if len < 3 then none
    else if buf.length < 4 + len then none
    else
      let payloadLen := len - 1 - 2
      if crc16Ccitt (window buf 4 (1 + payloadLen)) ≠ u16 (window buf (5 + payloadLen) 2) then none
      else (Cmd.ofCode (byteAt buf 4)).map fun cmd => (cmd, window buf 5 payloadLen)

/-- The length a frame announces. -/
def frameLen : ℕ := (u16 (window buf 2 2)).toNat

/-! ### Frames -/

def frame (payload : List UInt8) : List UInt8 :=
  le16 magic ++ (le16 (.ofNat (1 + payload.length + 2)) ++
    (cmd.code :: payload ++ le16 (crc16Ccitt (cmd.code :: payload))))

@[simp] lemma length_frame (payload : List UInt8) :
    (frame cmd payload).length = payload.length + 7 := by
  simp only [frame, List.length_append, length_le16, List.length_cons]
  omega

section Windows

variable {α : Type*} (u v : List α) (l : List α)

lemma window_append_left {len : ℕ} (h : u.length = len) : window (u ++ v) 0 len = u := by
  subst h
  simp [window]

lemma window_append_right {off : ℕ} (h : u.length ≤ off) (len : ℕ) :
    window (u ++ v) off len = window v (off - u.length) len := by
  rw [window, window, List.drop_append, List.drop_eq_nil_of_le h, List.nil_append]

lemma window_add (off m n : ℕ) : window l off (m + n) = window l off m ++ window l (off + m) n := by
  rw [window, window, window, List.take_add, List.drop_drop]

lemma put_follow (off : ℕ) (u v : List α) {next : ℕ} (h : next = off + u.length) :
    put (put l off u) next v = put l off (u ++ v) := by
  rw [h, put_append]

end Windows

section Fields

variable (cmd : Cmd) (payload rest : List UInt8)

lemma window_frame_magic : window (frame cmd payload ++ rest) 0 2 = le16 magic := by
  rw [frame, List.append_assoc, window_append_left _ _ (length_le16 _)]

lemma window_frame_len :
    window (frame cmd payload ++ rest) 2 2 = le16 (.ofNat (1 + payload.length + 2)) := by
  rw [frame, List.append_assoc, window_append_right _ _ (length_le16 _).le, length_le16,
    List.append_assoc, window_append_left _ _ (length_le16 _)]

/-- Behind magic and length, the frame goes on with what the checksum covers. -/
lemma window_frame_body (off len : ℕ) (h : 4 ≤ off) :
    window (frame cmd payload ++ rest) off len =
      window (cmd.code :: payload ++ (le16 (crc16Ccitt (cmd.code :: payload)) ++ rest)) (off - 4)
        len := by
  have hmagic : (le16 magic).length ≤ off := by rw [length_le16]; omega
  have hlen : (le16 (.ofNat (1 + payload.length + 2))).length ≤ off - (le16 magic).length := by
    rw [length_le16, length_le16]; omega
  rw [frame, List.append_assoc, window_append_right _ _ hmagic, List.append_assoc,
    window_append_right _ _ hlen, List.append_assoc, length_le16, length_le16, Nat.sub_sub]

lemma frameLen_frame_append :
    frameLen (frame cmd payload ++ rest) = (payload.length + 3) % 2 ^ 16 := by
  rw [frameLen, window_frame_len, u16_le16, UInt16.toNat_ofNat']
  congr 1
  omega

end Fields

variable {payload : List UInt8}

variable {cmd}

/-- **Frames are accepted**, whatever follows them, as long as the length fits its field. -/
lemma decodeRequest_frame_append (h : payload.length + 3 < 2 ^ 16) (rest : List UInt8) :
    decodeRequest (frame cmd payload ++ rest) = some (cmd, payload) := by
  have hlen : (u16 (window (frame cmd payload ++ rest) 2 2)).toNat = payload.length + 3 :=
    (frameLen_frame_append cmd payload rest).trans (Nat.mod_eq_of_lt h)
  have hbody : window (frame cmd payload ++ rest) 4 (1 + payload.length) = cmd.code :: payload := by
    rw [window_frame_body _ _ _ _ _ le_rfl, window_append_left]
    rw [List.length_cons]; omega
  have hcrc : window (frame cmd payload ++ rest) (5 + payload.length) 2 =
      le16 (crc16Ccitt (cmd.code :: payload)) := by
    rw [window_frame_body _ _ _ _ _ (by omega), window_append_right _ _ (by simp; omega)]
    have hoff : 5 + payload.length - 4 - (cmd.code :: payload).length = 0 := by simp; omega
    rw [hoff, window_append_left _ _ (length_le16 _)]
  have hpay : window (frame cmd payload ++ rest) 5 payload.length = payload := by
    rw [window_frame_body _ _ _ _ _ (by omega)]
    simp [window]
  have hcmd : byteAt (frame cmd payload ++ rest) 4 = cmd.code := by
    refine byteAt_of_window ?_
    rw [window_frame_body _ _ _ _ _ le_rfl]
    simp [window]
  have hplen : payload.length + 3 - 1 - 2 = payload.length := by omega
  have htotal : (frame cmd payload ++ rest).length = payload.length + 7 + rest.length := by simp
  rw [decodeRequest, if_neg (by omega), if_neg (by rw [window_frame_magic, u16_le16]; simp)]
  simp only [hlen]
  rw [if_neg (by omega), if_neg (by omega), hplen, hbody, hcrc, u16_le16, if_neg (by simp), hcmd,
    Cmd.ofCode_code, Option.map_some, hpay]

variable {buf}

lemma decodeRequest_eq_some :
    decodeRequest buf = some (cmd, payload) ↔
      payload.length + 3 < 2 ^ 16 ∧ ∃ rest, buf = frame cmd payload ++ rest := by
  constructor
  · intro h
    rw [decodeRequest] at h
    by_cases h5 : buf.length < 5
    · rw [if_pos h5] at h; cases h
    by_cases hmagic : u16 (window buf 0 2) ≠ magic
    · rw [if_neg h5, if_pos hmagic] at h; cases h
    simp only [if_neg h5, if_neg hmagic] at h
    generalize hlen : u16 (window buf 2 2) = len at h
    by_cases h3 : len.toNat < 3
    · rw [if_pos h3] at h; cases h
    by_cases htotal : buf.length < 4 + len.toNat
    · rw [if_neg h3, if_pos htotal] at h; cases h
    rw [if_neg h3, if_neg htotal] at h
    obtain ⟨plen, hplen⟩ : ∃ plen, len.toNat = plen + 3 := ⟨len.toNat - 3, by omega⟩
    have hsub : len.toNat - 1 - 2 = plen := by omega
    rw [hsub] at h
    by_cases hcrc : crc16Ccitt (window buf 4 (1 + plen)) ≠ u16 (window buf (5 + plen) 2)
    · rw [if_pos hcrc] at h; cases h
    rw [if_neg hcrc] at h
    obtain ⟨c, hc, hpair⟩ := Option.map_eq_some_iff.mp h
    obtain ⟨rfl, rfl⟩ := Prod.mk.inj hpair
    push Not at hmagic hcrc
    have hpay : (window buf 5 plen).length = plen := length_window (by omega)
    have hbody : window buf 4 (1 + plen) = c.code :: window buf 5 plen := by
      rw [window_add, window_one (by omega), Cmd.code_of_ofCode hc]
      rfl
    have hlt := len.toNat_lt
    refine ⟨by rw [hpay]; omega, buf.drop (4 + len.toNat), ?_⟩
    have hfield : le16 (.ofNat (1 + plen + 2)) = window buf 2 2 := by
      rw [← le16_u16 (length_window (by omega)), hlen]
      congr 1
      refine UInt16.toNat_inj.mp ?_
      rw [UInt16.toNat_ofNat', Nat.mod_eq_of_lt (by omega)]
      omega
    have hsplit : 4 + len.toNat = 2 + (2 + ((1 + plen) + 2)) := by omega
    have hend : 0 + 2 + 2 + (1 + plen) = 5 + plen := by omega
    have htake : buf.take (4 + len.toNat) =
        window buf 0 2 ++ (window buf 2 2 ++ (window buf 4 (1 + plen) ++ window buf (5 + plen) 2)) := by
      rw [← hend, hsplit, ← window_add buf (0 + 2 + 2), ← window_add buf (0 + 2),
        ← window_add buf 0]
      rfl
    have hframe : frame c (window buf 5 plen) = buf.take (4 + len.toNat) := by
      rw [frame, hpay, ← hbody, hcrc, ← hmagic, le16_u16 (length_window (by omega)),
        le16_u16 (length_window (by omega)), hfield, htake]
    rw [hframe, List.take_append_drop]
  · rintro ⟨hlt, rest, rfl⟩
    exact decodeRequest_frame_append hlt rest

/-- The length of what is accepted counts the command, the payload and the checksum. -/
lemma frameLen_of_decodeRequest (h : decodeRequest buf = some (cmd, payload)) :
    frameLen buf = payload.length + 3 := by
  obtain ⟨hlt, rest, rfl⟩ := decodeRequest_eq_some.mp h
  rw [frameLen_frame_append, Nat.mod_eq_of_lt hlt]

variable (buf cmd)

/-! ### Replies -/

section Replies

variable (cmd : Cmd) {payload out : List UInt8}

lemma encodeReply_of_le (h : payload.length + 7 ≤ out.length) :
    encodeReply cmd payload out = (put out 0 (frame cmd payload), some (payload.length + 7)) := by
  set head := put (put out 0 (le16 magic)) 2 (le16 (.ofNat (1 + payload.length + 2))) with hhead
  have hbody : put (put head 4 [cmd.code]) 5 payload = put head 4 (cmd.code :: payload) :=
    put_follow head 4 [cmd.code] payload rfl
  have hlen : (cmd.code :: payload).length = 1 + payload.length := by
    rw [List.length_cons, Nat.add_comm]
  have hcover : window (put head 4 (cmd.code :: payload)) 4 (1 + payload.length) =
      cmd.code :: payload := by
    rw [← hlen]
    exact window_put_self (by rw [hlen, hhead, length_put, length_put]; omega)
  rw [encodeReply, if_neg (by omega)]
  simp only [← hhead, hbody, hcover]
  rw [put_follow head 4 _ _ (by rw [hlen]; omega), hhead,
    put_follow out 0 _ _ (by simp), put_follow out 0 _ _ (by simp), List.append_assoc]
  congr 2
  omega

lemma encodeReply_of_lt (h : out.length < payload.length + 7) :
    encodeReply cmd payload out = (out, none) := by
  rw [encodeReply, if_pos (by omega)]

lemma take_put_zero {α : Type*} (l bs : List α) (h : bs.length ≤ l.length) :
    (put l 0 bs).take bs.length = bs := by
  have hself : window (put l 0 bs) 0 bs.length = bs := window_put_self (by omega)
  rwa [window, List.drop_zero] at hself

lemma encodeReply_eq_some {out' : List UInt8} {n : ℕ}
    (h : encodeReply cmd payload out = (out', some n)) :
    payload.length + 7 ≤ out.length ∧ n = payload.length + 7 ∧ out'.take n = frame cmd payload := by
  rcases Nat.lt_or_ge out.length (payload.length + 7) with hlt | hle
  · rw [encodeReply_of_lt cmd hlt] at h
    cases h
  · rw [encodeReply_of_le cmd hle] at h
    obtain ⟨rfl, hn⟩ := Prod.mk.inj h
    cases hn
    have htake := take_put_zero out (frame cmd payload) (by rw [length_frame]; exact hle)
    rw [length_frame] at htake
    exact ⟨hle, rfl, htake⟩

end Replies

lemma decodeRequest_frame (payload : List UInt8) :
    decodeRequest (frame cmd payload) = some (cmd, payload) ↔ payload.length + 3 < 2 ^ 16 := by
  constructor
  · intro h
    exact (decodeRequest_eq_some.mp h).1
  · intro h
    exact decodeRequest_eq_some.mpr ⟨h, [], (List.append_nil _).symm⟩

/-- A reply whose length field wraps around to less than command and checksum is no frame. -/
lemma encodeReply_wrapped {out : List UInt8} {n : ℕ} (hn : n = payload.length + 7)
    (hroom : n ≤ out.length) (h : (payload.length + 3) % 2 ^ 16 < 3) :
    (encodeReply cmd payload out).2 = some n ∧
      decodeRequest ((encodeReply cmd payload out).1.take n) = none := by
  subst hn
  have hsome : (encodeReply cmd payload out).2 = some (payload.length + 7) := by
    rw [encodeReply_of_le cmd hroom]
  obtain ⟨-, -, htake⟩ := encodeReply_eq_some cmd (Prod.ext rfl hsome)
  refine ⟨hsome, ?_⟩
  rw [htake]
  rcases hdec : decodeRequest (frame cmd payload) with _ | ⟨c, p⟩
  · rfl
  · have hfield := frameLen_frame_append cmd payload []
    rw [List.append_nil, frameLen_of_decodeRequest hdec] at hfield
    omega

/-- **Round trip.** A reply is read back as its command and payload exactly when the length fits
the 16 bits of its field; and whatever is accepted is encoded again to the same bytes, into every
buffer that has room for them. -/
theorem encodeReply_roundTrip (cmd : Cmd) (payload out out' : List UInt8) (n : ℕ) :
    (encodeReply cmd payload out = (out', some n) →
        (decodeRequest (out'.take n) = some (cmd, payload) ↔ payload.length ≤ 65532)) ∧
      ∀ (buf : List UInt8) (c : Cmd) (p : List UInt8), decodeRequest buf = some (c, p) →
        ∀ o : List UInt8, 4 + frameLen buf ≤ o.length →
          (encodeReply c p o).2 = some (4 + frameLen buf) ∧
            (encodeReply c p o).1.take (4 + frameLen buf) = buf.take (4 + frameLen buf) := by
  refine ⟨fun h => ?_, fun buf c p hbuf o ho => ?_⟩
  · obtain ⟨-, -, htake⟩ := encodeReply_eq_some cmd h
    rw [htake, decodeRequest_frame]
    omega
  · obtain ⟨hlt, rest, rfl⟩ := decodeRequest_eq_some.mp hbuf
    have hlen : 4 + frameLen (frame c p ++ rest) = p.length + 7 := by
      rw [frameLen_of_decodeRequest hbuf]
      omega
    rw [hlen] at ho ⊢
    rw [encodeReply_of_le c ho]
    refine ⟨rfl, ?_⟩
    have htake := take_put_zero o (frame c p) (by rw [length_frame]; exact ho)
    rw [length_frame] at htake
    rw [htake, ← length_frame c p, List.take_left]

theorem encodeReply_roundTrip_ping :
    encodeReply .ping [80, 79] (List.replicate 9 0) =
        ([0xAA, 0x55, 5, 0, 0x12, 80, 79, 0x0B, 0x56], some 9) ∧
      decodeRequest (([0xAA, 0x55, 5, 0, 0x12, 80, 79, 0x0B, 0x56] : List UInt8).take 9) =
        some (.ping, [80, 79]) := by
  have h : encodeReply .ping [80, 79] (List.replicate 9 0) =
      ([0xAA, 0x55, 5, 0, 0x12, 80, 79, 0x0B, 0x56], some 9) := by decide +kernel
  exact ⟨h, ((encodeReply_roundTrip .ping [80, 79] _ _ 9).1 h).mpr (by decide)⟩

/-- A payload of 65533 bytes makes the length field zero, and the reply is no frame. -/
theorem encodeReply_lengthField_zero :
    (encodeReply .ping (List.replicate 65533 0) (List.replicate 65540 0)).2 = some 65540 ∧
      decodeRequest
        ((encodeReply .ping (List.replicate 65533 0) (List.replicate 65540 0)).1.take 65540) = none := by
  refine encodeReply_wrapped .ping ?_ ?_ ?_
  · rw [List.length_replicate]
  · rw [List.length_replicate]
  · rw [List.length_replicate]
    decide

end Pipoco.Ts
