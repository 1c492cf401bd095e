import Pipoco.Domain
import Pipoco.KvAb

/-!
The records kept beside the pages.

Four identity records share one format: a magic word and a version in front, a checksum of
everything before it in the last two bytes, erased bytes where nothing is written. The retained
OBD-II history has no checksum but a header with its length. For each record the encoder, the
decoder and what is read back after writing are given; what has been read once is written and read
again without change.
-/

namespace Pipoco.SideRecords

open Bytes Kv

/-- The checksum of the tuning protocol, which the STM32F4 store uses. -/
def crc16 (data : List UInt8) : UInt16 := crc16Ccitt 0xFFFF data

/-! ### Sealed records -/

variable (bytes : List UInt8)

section Sealed

variable (n : ℕ) (magic : UInt32) (version : UInt16) (fields : List (ℕ × List UInt8))

def sealHead : List (ℕ × List UInt8) := (0, le32 magic) :: (4, le16 version) :: fields

/-- The head and the fields over erased bytes, with the checksum of all before it at the end. -/
def sealBlocks : List (ℕ × List UInt8) :=
  sealHead magic version fields ++
    [(n - 2, le16 (crc16 ((putAll (List.replicate n 0xFF) (sealHead magic version fields)).take
      (n - 2))))]

def sealRecord : List UInt8 := putAll (List.replicate n 0xFF) (sealBlocks n magic version fields)

/-- The checks every decoder makes first. -/
def Intact (bytes : List UInt8) : Prop :=
  ¬ bytes.all (· == 0xFF) ∧ u32 (window bytes 0 4) = magic ∧ u16 (window bytes 4 2) = version ∧
    crc16 (bytes.take (n - 2)) = u16 (window bytes (n - 2) 2)
  deriving Decidable

variable {n magic version fields}

@[simp] lemma length_sealRecord : (sealRecord n magic version fields).length = n := by
  simp [sealRecord]

lemma layout_sealBlocks (hn : 2 ≤ n) (h : Layout (n - 2) (sealHead magic version fields)) :
    Layout (List.replicate n (0xFF : UInt8)).length (sealBlocks n magic version fields) := by
  rw [List.length_replicate]
  refine ⟨List.pairwise_append.mpr ⟨h.apart, List.pairwise_singleton _ _, ?_⟩, ?_⟩
  · intro b hb c hc
    rw [List.mem_singleton.mp hc]
    exact Or.inl (h.fits b hb)
  · intro b hb
    rcases List.mem_append.mp hb with hb | hb
    · have := h.fits b hb
      omega
    · rw [List.mem_singleton.mp hb]
      simp only [length_le16]
      omega

lemma intact_sealRecord (hn : 2 ≤ n) (hmagic : magic ≠ 0xFFFFFFFF)
    (h : Layout (n - 2) (sealHead magic version fields)) :
    Intact n magic version (sealRecord n magic version fields) := by
  have hl := layout_sealBlocks hn h
  have hm : u32 (window (sealRecord n magic version fields) 0 4) = magic := u32_putAll hl 0 rfl
  have hv : u16 (window (sealRecord n magic version fields) 4 2) = version := u16_putAll hl 1 rfl
  have hcrc : u16 (window (sealRecord n magic version fields) (n - 2) 2) =
      crc16 ((putAll (List.replicate n 0xFF) (sealHead magic version fields)).take (n - 2)) :=
    u16_putAll hl (fields.length + 2) (by simp [sealBlocks, sealHead])
  refine ⟨fun hall => hmagic ?_, hm, hv, ?_⟩
  · -- an erased record carries no magic word
    have heq : sealRecord n magic version fields = List.replicate n 0xFF := by
      refine List.eq_replicate_iff.mpr ⟨length_sealRecord, fun b hb => ?_⟩
      simpa using List.all_eq_true.mp hall b hb
    have hfit := h.fits (0, le32 magic) (.head _)
    rw [length_le32] at hfit
    rw [← hm, heq, window_replicate _ (by omega)]
    rfl
  · rw [hcrc, sealRecord, sealBlocks, putAll_append, putAll_cons, putAll_nil]
    have hclear : ∀ v, Clear (n - 2) (le16 v).length 0 (n - 2) := fun _ => Or.inr (Nat.zero_add _).le
    exact congrArg crc16 (window_put_of_clear (hclear _))

lemma not_intact_erased : ¬ Intact n magic version (List.replicate n 0xFF) := by
  intro h
  refine h.1 (List.all_eq_true.mpr fun b hb => ?_)
  rw [List.eq_of_mem_replicate hb]
  rfl

/-! The fields of a sealed record are read back, and the bytes no field covers are erased. -/

section Fields

variable (hn : 2 ≤ n) (h : Layout (n - 2) (sealHead magic version fields)) {off : ℕ}
include hn h

lemma window_sealRecord {bs : List UInt8} (hb : (off, bs) ∈ fields) :
    window (sealRecord n magic version fields) off bs.length = bs :=
  window_putAll (layout_sealBlocks hn h) (b := (off, bs)) (by simp [sealBlocks, sealHead, hb])

lemma byteAt_sealRecord {b : UInt8} (hb : (off, [b]) ∈ fields) :
    byteAt (sealRecord n magic version fields) off = b :=
  byteAt_of_window (window_sealRecord hn h hb)

omit h in
lemma byteAt_sealRecord_of_clear {off : ℕ} (hoff : off < n - 2)
    (hb : ∀ b ∈ sealHead magic version fields, Clear b.1 b.2.length off 1) :
    byteAt (sealRecord n magic version fields) off = 0xFF := by
  refine byteAt_of_window ?_
  rw [sealRecord, window_putAll_of_clear, window_replicate _ (by omega)]
  · rfl
  · intro b hmem
    rcases List.mem_append.mp hmem with hmem | hmem
    · exact hb b hmem
    · rw [List.mem_singleton.mp hmem]
      exact Or.inr (by omega)

end Fields

end Sealed

def arrayAt (off n : ℕ) : Page n := .ofFn fun i => byteAt bytes (off + i)

lemma arrayAt_of_window {bytes : List UInt8} {off n : ℕ} {v : Page n}
    (h : window bytes off v.toList.length = v.toList) : arrayAt bytes off n = v := by
  refine List.Vector.ext fun i => ?_
  have hlt : i.val < v.toList.length := by simp
  have hi : (window bytes off v.toList.length)[i.val]? = v.toList[i.val]? := by rw [h]
  rw [getElem?_window, if_pos hlt, List.getElem?_eq_getElem hlt] at hi
  rw [arrayAt, List.Vector.get_ofFn, byteAt, List.getD_eq_getElem?_getD, hi, Option.getD_some,
    List.Vector.get_eq_get_toList]
  rfl

lemma not_lt_min (a b : UInt8) : ¬ b < min a b := by
  show ¬ b < (if a ≤ b then a else b)
  split
  · rwa [UInt8.not_lt]
  · exact UInt8.lt_irrefl b

lemma min_of_not_lt {a b : UInt8} (h : ¬ b < a) : min a b = a := if_pos (UInt8.not_lt.mp h)

/-! ### The identity record -/

def vinLen : UInt8 := 17

structure IdentityRecord where
  vinLen : UInt8
  vin : Page 17
  calibrationIdLen : UInt8
  calibrationId : Page 17
  boardBuildIdentityLen : UInt8
  boardBuildIdentity : Page 6
  deriving DecidableEq

def identityBytes : ℕ := 52
def identityMagic : UInt32 := 0x3249424F
def identityVersion : UInt16 := 1

variable (r : IdentityRecord)

def identityFields : List (ℕ × List UInt8) :=
  [(6, [min r.vinLen vinLen]), (7, [min r.calibrationIdLen vinLen]),
    (8, [min r.boardBuildIdentityLen 6]), (9, r.vin.toList), (26, r.calibrationId.toList),
    (43, r.boardBuildIdentity.toList)]

def encodeIdentityRecord : List UInt8 :=
  sealRecord identityBytes identityMagic identityVersion (identityFields r)

def decodeIdentityRecord : Option IdentityRecord :=
  if ¬ Intact identityBytes identityMagic identityVersion bytes then none
  else if vinLen < byteAt bytes 6 ∨ vinLen < byteAt bytes 7 ∨ 6 < byteAt bytes 8 then none
  else some
    { vinLen := byteAt bytes 6
      vin := arrayAt bytes 9 17
      calibrationIdLen := byteAt bytes 7
      calibrationId := arrayAt bytes 26 17
      boardBuildIdentityLen := byteAt bytes 8
      boardBuildIdentity := arrayAt bytes 43 6 }

/-- What is read back: the lengths are clamped to the arrays. -/
def IdentityRecord.stored : IdentityRecord :=
  { r with
    vinLen := min r.vinLen SideRecords.vinLen
    calibrationIdLen := min r.calibrationIdLen SideRecords.vinLen
    boardBuildIdentityLen := min r.boardBuildIdentityLen 6 }

lemma layout_identity :
    Layout (identityBytes - 2) (sealHead identityMagic identityVersion (identityFields r)) := by
  refine Ascends.layout ?_
  simp [Ascends, sealHead, identityFields, identityBytes]

lemma decode_encodeIdentityRecord :
    decodeIdentityRecord (encodeIdentityRecord r) = some r.stored := by
  have hl := layout_identity r
  have hn : 2 ≤ identityBytes := by decide
  have hb := layout_sealBlocks hn hl
  have h6 : byteAt (encodeIdentityRecord r) 6 = min r.vinLen vinLen := byteAt_putAll hb 2 rfl
  have h7 : byteAt (encodeIdentityRecord r) 7 = min r.calibrationIdLen vinLen :=
    byteAt_putAll hb 3 rfl
  have h8 : byteAt (encodeIdentityRecord r) 8 = min r.boardBuildIdentityLen 6 :=
    byteAt_putAll hb 4 rfl
  have hvin : arrayAt (encodeIdentityRecord r) 9 17 = r.vin :=
    arrayAt_of_window (window_sealRecord hn hl (by simp [identityFields]))
  have hcal : arrayAt (encodeIdentityRecord r) 26 17 = r.calibrationId :=
    arrayAt_of_window (window_sealRecord hn hl (by simp [identityFields]))
  have hboard : arrayAt (encodeIdentityRecord r) 43 6 = r.boardBuildIdentity :=
    arrayAt_of_window (window_sealRecord hn hl (by simp [identityFields]))
  have hlens : ¬ (vinLen < byteAt (encodeIdentityRecord r) 6 ∨
      vinLen < byteAt (encodeIdentityRecord r) 7 ∨ 6 < byteAt (encodeIdentityRecord r) 8) := by
    rw [h6, h7, h8]
    simp [not_lt_min]
  have hintact : Intact identityBytes identityMagic identityVersion (encodeIdentityRecord r) :=
    intact_sealRecord hn (by decide) hl
  rw [decodeIdentityRecord, if_neg (not_not.mpr hintact), if_neg hlens, h6, h7, h8, hvin, hcal,
    hboard]
  rfl

lemma stored_of_decodeIdentityRecord {bytes : List UInt8} {r : IdentityRecord}
    (h : decodeIdentityRecord bytes = some r) : r.stored = r := by
  unfold decodeIdentityRecord at h
  split at h
  · cases h
  · split at h
    · cases h
    · next hlens =>
      cases h
      simp only [not_or] at hlens
      simp [IdentityRecord.stored, min_of_not_lt, hlens]

/-! ### The command audit -/

inductive ProvisioningField
  | vin | calibrationId | boardBuildIdentity
  deriving DecidableEq, Repr

structure ProvisioningLengths where
  (vin calibrationId boardBuildIdentity : UInt8)
  deriving DecidableEq, Repr

structure ProvisioningStatus where
  (attempted accepted : Bool)
  rejectedField : Option ProvisioningField
  storeFailed : Bool
  normalizedLengths : Option ProvisioningLengths
  deriving DecidableEq, Repr

structure CommandAudit where
  requestId : UInt32
  (authorized authorizationFailed : Bool)
  provisioningStatus : Option ProvisioningStatus
  deriving DecidableEq, Repr

def commandAuditBytes : ℕ := 20
def commandAuditMagic : UInt32 := 0x4149424F
def commandAuditVersion : UInt16 := 1

def encodeRejectedField : Option ProvisioningField → UInt8
  | none => 0
  | some .vin => 1
  | some .calibrationId => 2
  | some .boardBuildIdentity => 3

def decodeRejectedField (value : UInt8) : Option (Option ProvisioningField) :=
  if value = 0 ∨ value = 0xFF then some none
  else if value = 1 then some (some .vin)
  else if value = 2 then some (some .calibrationId)
  else if value = 3 then some (some .boardBuildIdentity)
  else none

def decodeAuditLengths (vin calibrationId boardBuildIdentity : UInt8) :
    Option ProvisioningLengths :=
  if vin = 0xFF ∧ calibrationId = 0xFF ∧ boardBuildIdentity = 0xFF then none
  else some ⟨vin, calibrationId, boardBuildIdentity⟩

def flag (b : Bool) (bit : UInt8) : UInt8 := if b then bit else 0

def statusFlags (st : ProvisioningStatus) : UInt8 :=
  0x04 ||| flag st.attempted 0x08 ||| flag st.accepted 0x10 ||| flag st.storeFailed 0x20

variable (a : CommandAudit)

def commandAuditFlags : UInt8 :=
  flag a.authorized 0x01 ||| flag a.authorizationFailed 0x02 |||
    (a.provisioningStatus.map statusFlags).getD 0

def lengthFields : Option ProvisioningLengths → List (ℕ × List UInt8)
  | none => []
  | some l => [(12, [l.vin]), (13, [l.calibrationId]), (14, [l.boardBuildIdentity])]

def statusFields : Option ProvisioningStatus → List (ℕ × List UInt8)
  | none => []
  | some st => (11, [encodeRejectedField st.rejectedField]) :: lengthFields st.normalizedLengths

def commandAuditFields : List (ℕ × List UInt8) :=
  (6, le32 a.requestId) :: (statusFields a.provisioningStatus ++ [(10, [commandAuditFlags a])])

def encodeCommandAudit : List UInt8 :=
  sealRecord commandAuditBytes commandAuditMagic commandAuditVersion (commandAuditFields a)

def decodeStatus : Option (Option ProvisioningStatus) :=
  if byteAt bytes 10 &&& 0x04 ≠ 0 then do
    let rejected ← decodeRejectedField (byteAt bytes 11)
    some (some
      { attempted := byteAt bytes 10 &&& 0x08 != 0
        accepted := byteAt bytes 10 &&& 0x10 != 0
        rejectedField := rejected
        storeFailed := byteAt bytes 10 &&& 0x20 != 0
        normalizedLengths :=
          decodeAuditLengths (byteAt bytes 12) (byteAt bytes 13) (byteAt bytes 14) })
  else some none

def decodeCommandAudit : Option CommandAudit :=
  if ¬ Intact commandAuditBytes commandAuditMagic commandAuditVersion bytes then none
  else do
    let status ← decodeStatus bytes
    some
      { requestId := u32 (window bytes 6 4)
        authorized := byteAt bytes 10 &&& 0x01 != 0
        authorizationFailed := byteAt bytes 10 &&& 0x02 != 0
        provisioningStatus := status }

/-- Three lengths of `0xFF` cannot be told from erased bytes. -/
def ProvisioningLengths.readable (l : ProvisioningLengths) : Option ProvisioningLengths :=
  decodeAuditLengths l.vin l.calibrationId l.boardBuildIdentity

/-- What is read back: lengths that are all `0xFF` are read as none. -/
def CommandAudit.stored : CommandAudit :=
  { a with
    provisioningStatus := a.provisioningStatus.map fun st =>
      { st with normalizedLengths := st.normalizedLengths.bind (·.readable) } }

lemma layout_commandAudit :
    Layout (commandAuditBytes - 2)
      (sealHead commandAuditMagic commandAuditVersion (commandAuditFields a)) := by
  -- the flags are written last and stand before the status, so the offsets do not ascend
  rcases a with ⟨req, au, af, _ | ⟨att, acc, rej, sf, _ | l⟩⟩ <;>
    exact ⟨by simp [sealHead, commandAuditFields, statusFields, lengthFields, Clear],
      by simp [sealHead, commandAuditFields, statusFields, lengthFields, commandAuditBytes]⟩

lemma decode_encodeRejectedField (f : Option ProvisioningField) :
    decodeRejectedField (encodeRejectedField f) = some f := by
  rcases f with _ | _ | _ | _ <;> rfl

/-- The flags of the status are read back when there is one. -/
lemma bits_statusFlags (au af : Bool) (st : ProvisioningStatus) :
    let f := flag au 0x01 ||| flag af 0x02 ||| statusFlags st
    f &&& 0x04 ≠ 0 ∧ (f &&& 0x08 != 0) = st.attempted ∧ (f &&& 0x10 != 0) = st.accepted ∧
      (f &&& 0x20 != 0) = st.storeFailed ∧ (f &&& 0x01 != 0) = au ∧ (f &&& 0x02 != 0) = af := by
  obtain ⟨att, acc, rej, sf, l⟩ := st
  simp only [statusFlags]
  revert au af att acc sf
  decide

lemma bits_noStatus : ∀ au af : Bool,
    let f := flag au 0x01 ||| flag af 0x02 ||| 0
    ¬ f &&& 0x04 ≠ 0 ∧ (f &&& 0x01 != 0) = au ∧ (f &&& 0x02 != 0) = af := by decide

/-- Lengths that were not written are erased and read as none. -/
lemma decode_lengths {st : ProvisioningStatus} (h : a.provisioningStatus = some st) :
    decodeAuditLengths (byteAt (encodeCommandAudit a) 12) (byteAt (encodeCommandAudit a) 13)
      (byteAt (encodeCommandAudit a) 14) = st.normalizedLengths.bind (·.readable) := by
  have hn : 2 ≤ commandAuditBytes := by decide
  cases hl : st.normalizedLengths with
  | some l =>
    have hb : ∀ {off b}, (off, [b]) ∈ lengthFields (some l) → byteAt (encodeCommandAudit a) off = b :=
      fun hb => byteAt_sealRecord hn (layout_commandAudit a)
        (by simp [commandAuditFields, h, statusFields, hl, hb])
    rw [hb (b := l.vin) (by simp [lengthFields]), hb (b := l.calibrationId) (by simp [lengthFields]),
      hb (b := l.boardBuildIdentity) (by simp [lengthFields])]
    rfl
  | none =>
    have hb : ∀ off, 12 ≤ off → off < 15 → byteAt (encodeCommandAudit a) off = 0xFF := by
      intro off h12 h15
      refine byteAt_sealRecord_of_clear hn (by simp only [commandAuditBytes]; omega) ?_
      simp only [sealHead, commandAuditFields, h, statusFields, hl, lengthFields, Clear]
      simp only [List.mem_cons, List.mem_append, List.not_mem_nil, or_false, forall_eq_or_imp,
        forall_eq, length_le32, length_le16, List.length_cons, List.length_nil]
      omega
    rw [hb 12 (by omega) (by omega), hb 13 (by omega) (by omega), hb 14 (by omega) (by omega)]
    rfl

lemma decode_encodeCommandAudit : decodeCommandAudit (encodeCommandAudit a) = some a.stored := by
  have hn : 2 ≤ commandAuditBytes := by decide
  have hl := layout_commandAudit a
  have hreq : u32 (window (encodeCommandAudit a) 6 4) = a.requestId :=
    u32_putAll (layout_sealBlocks hn hl) 2 rfl
  have hflags : byteAt (encodeCommandAudit a) 10 = commandAuditFlags a :=
    byteAt_sealRecord hn hl (by simp [commandAuditFields])
  have hintact : Intact commandAuditBytes commandAuditMagic commandAuditVersion
      (encodeCommandAudit a) := intact_sealRecord hn (by decide) hl
  rw [decodeCommandAudit, if_neg (not_not.mpr hintact), decodeStatus, hflags, hreq]
  cases hst : a.provisioningStatus with
  | none =>
    have hf : commandAuditFlags a = flag a.authorized 0x01 ||| flag a.authorizationFailed 0x02 ||| 0 := by
      simp [commandAuditFlags, hst]
    obtain ⟨h4, h1, h2⟩ := bits_noStatus a.authorized a.authorizationFailed
    rw [hf, if_neg h4, h1, h2]
    simp [CommandAudit.stored, hst]
  | some st =>
    have hrej : byteAt (encodeCommandAudit a) 11 = encodeRejectedField st.rejectedField :=
      byteAt_sealRecord hn hl (by simp [commandAuditFields, hst, statusFields])
    have hf : commandAuditFlags a =
        flag a.authorized 0x01 ||| flag a.authorizationFailed 0x02 ||| statusFlags st := by
      simp [commandAuditFlags, hst]
    obtain ⟨h4, h8, h10, h20, h1, h2⟩ := bits_statusFlags a.authorized a.authorizationFailed st
    rw [hf, if_pos h4, hrej, decode_encodeRejectedField, h8, h10, h20, h1, h2, decode_lengths a hst]
    simp [CommandAudit.stored, hst]

lemma readable_of_decodeAuditLengths {x y z : UInt8} {l : ProvisioningLengths}
    (h : decodeAuditLengths x y z = some l) : l.readable = some l := by
  unfold decodeAuditLengths at h
  split at h
  · cases h
  · next hne =>
    cases h
    exact if_neg hne

lemma stored_of_decodeCommandAudit {bytes : List UInt8} {a : CommandAudit}
    (h : decodeCommandAudit bytes = some a) : a.stored = a := by
  unfold decodeCommandAudit at h
  split at h
  · cases h
  · obtain ⟨status, hstatus, h⟩ := Option.bind_eq_some_iff.mp h
    cases h
    cases status with
    | none => rfl
    | some st =>
      have hlen : st.normalizedLengths.bind (·.readable) = st.normalizedLengths := by
        unfold decodeStatus at hstatus
        split at hstatus
        · obtain ⟨rejected, -, hst⟩ := Option.bind_eq_some_iff.mp hstatus
          cases Option.some.inj hst
          cases hl : decodeAuditLengths (byteAt bytes 12) (byteAt bytes 13) (byteAt bytes 14) with
          | none => rfl
          | some l => exact readable_of_decodeAuditLengths hl
        · cases hstatus
      simp [CommandAudit.stored, hlen]

/-! ### The provisioning key -/

structure KeyRecord where
  key : Page 32
  (generation lastArmNonce : UInt32)
  revoked : Bool
  deriving DecidableEq

def keyBytes : ℕ := 50
def keyMagic : UInt32 := 0x4B49424F
def keyVersion : UInt16 := 1
def keyActive : UInt8 := 0x01
def keyRevoked : UInt8 := 0x02

def KeyRecord.active (key : Page 32) (generation : UInt32) : KeyRecord :=
  ⟨key, generation, 0, false⟩

variable (r : KeyRecord)

def KeyRecord.withLastArmNonce (nonce : UInt32) : KeyRecord :=
  { r with lastArmNonce := nonce }

def KeyRecord.activeKey : Option (Page 32) := if r.revoked then none else some r.key

def keyFields : List (ℕ × List UInt8) :=
  [(6, [if r.revoked then keyRevoked else keyActive]), (8, le32 r.generation), (12, r.key.toList),
    (44, le32 r.lastArmNonce)]

def encodeKeyRecord : List UInt8 := sealRecord keyBytes keyMagic keyVersion (keyFields r)

def countOnes (b : UInt8) : ℕ := (List.range 8).countP fun i => b.toBitVec.getLsbD i

def decodeKeyRecord : Option KeyRecord :=
  let flags := byteAt bytes 6
  if ¬ Intact keyBytes keyMagic keyVersion bytes then none
  else if flags &&& ~~~(keyActive ||| keyRevoked) ≠ 0 ∨
      countOnes (flags &&& (keyActive ||| keyRevoked)) ≠ 1 then none
  else some
    { key := arrayAt bytes 12 32
      generation := u32 (window bytes 8 4)
      lastArmNonce := u32 (window bytes 44 4)
      revoked := flags &&& keyRevoked != 0 }

lemma layout_key : Layout (keyBytes - 2) (sealHead keyMagic keyVersion (keyFields r)) := by
  refine Ascends.layout ?_
  simp [Ascends, sealHead, keyFields, keyBytes]

lemma decode_encodeKeyRecord : decodeKeyRecord (encodeKeyRecord r) = some r := by
  have hn : 2 ≤ keyBytes := by decide
  have hl := layout_key r
  have hb := layout_sealBlocks hn hl
  have h6 : byteAt (encodeKeyRecord r) 6 = if r.revoked then keyRevoked else keyActive :=
    byteAt_putAll hb 2 rfl
  have hgen : u32 (window (encodeKeyRecord r) 8 4) = r.generation := u32_putAll hb 3 rfl
  have hnonce : u32 (window (encodeKeyRecord r) 44 4) = r.lastArmNonce := u32_putAll hb 5 rfl
  have hkey : arrayAt (encodeKeyRecord r) 12 32 = r.key :=
    arrayAt_of_window (window_sealRecord hn hl (by simp [keyFields]))
  have hintact : Intact keyBytes keyMagic keyVersion (encodeKeyRecord r) :=
    intact_sealRecord hn (by decide) hl
  have hflags : ∀ rev : Bool,
      ¬ ((if rev then keyRevoked else keyActive) &&& ~~~(keyActive ||| keyRevoked) ≠ 0 ∨
        countOnes ((if rev then keyRevoked else keyActive) &&& (keyActive ||| keyRevoked)) ≠ 1) ∧
      ((if rev then keyRevoked else keyActive) &&& keyRevoked != 0) = rev := by decide
  rw [decodeKeyRecord, if_neg (not_not.mpr hintact), h6, if_neg (hflags r.revoked).1, hgen, hnonce,
    hkey, (hflags r.revoked).2]

/-! ### The key audit -/

structure KeyAudit where
  requestId : UInt32
  (authorized accepted storeFailed : Bool)
  rejectedReason : UInt8
  generation : UInt32
  deriving DecidableEq, Repr

def keyAuditBytes : ℕ := 22
def keyAuditMagic : UInt32 := 0x4C49424F
def keyAuditVersion : UInt16 := 1

variable (a : KeyAudit)

def keyAuditFlags : UInt8 :=
  flag a.authorized 0x01 ||| flag a.accepted 0x02 ||| flag a.storeFailed 0x04

def keyAuditFields : List (ℕ × List UInt8) :=
  [(6, le32 a.requestId), (10, [keyAuditFlags a]), (11, [a.rejectedReason]),
    (12, le32 a.generation)]

def encodeKeyAudit : List UInt8 :=
  sealRecord keyAuditBytes keyAuditMagic keyAuditVersion (keyAuditFields a)

def decodeKeyAudit : Option KeyAudit :=
  let flags := byteAt bytes 10
  if ¬ Intact keyAuditBytes keyAuditMagic keyAuditVersion bytes then none
  else if flags &&& ~~~0x07 ≠ 0 then none
  else some
    { requestId := u32 (window bytes 6 4)
      authorized := flags &&& 0x01 != 0
      accepted := flags &&& 0x02 != 0
      storeFailed := flags &&& 0x04 != 0
      rejectedReason := byteAt bytes 11
      generation := u32 (window bytes 12 4) }

lemma layout_keyAudit :
    Layout (keyAuditBytes - 2) (sealHead keyAuditMagic keyAuditVersion (keyAuditFields a)) := by
  refine Ascends.layout ?_
  simp [Ascends, sealHead, keyAuditFields, keyAuditBytes]

lemma bits_keyAuditFlags : ∀ au ac sf : Bool,
    let f := flag au 0x01 ||| flag ac 0x02 ||| flag sf 0x04
    ¬ f &&& ~~~0x07 ≠ 0 ∧ (f &&& 0x01 != 0) = au ∧ (f &&& 0x02 != 0) = ac ∧
      (f &&& 0x04 != 0) = sf := by decide

lemma decode_encodeKeyAudit : decodeKeyAudit (encodeKeyAudit a) = some a := by
  have hn : 2 ≤ keyAuditBytes := by decide
  have hl := layout_keyAudit a
  have hb := layout_sealBlocks hn hl
  have hreq : u32 (window (encodeKeyAudit a) 6 4) = a.requestId := u32_putAll hb 2 rfl
  have h10 : byteAt (encodeKeyAudit a) 10 = keyAuditFlags a := byteAt_putAll hb 3 rfl
  have h11 : byteAt (encodeKeyAudit a) 11 = a.rejectedReason := byteAt_putAll hb 4 rfl
  have hgen : u32 (window (encodeKeyAudit a) 12 4) = a.generation := u32_putAll hb 5 rfl
  have hintact : Intact keyAuditBytes keyAuditMagic keyAuditVersion (encodeKeyAudit a) :=
    intact_sealRecord hn (by decide) hl
  obtain ⟨hfree, h1, h2, h4⟩ := bits_keyAuditFlags a.authorized a.accepted a.storeFailed
  rw [decodeKeyAudit, if_neg (not_not.mpr hintact), h10, keyAuditFlags, if_neg hfree, hreq, h1, h2,
    h4, h11, hgen]

/-! ### The formats -/

def identityCodec : Codec IdentityRecord where
  len := identityBytes
  encode r := some (encodeIdentityRecord r)
  decode := decodeIdentityRecord
  stored := IdentityRecord.stored
  length_of_encode h := Option.some.inj h ▸ length_sealRecord
  decode_of_encode h := Option.some.inj h ▸ decode_encodeIdentityRecord _
  stored_of_decode := stored_of_decodeIdentityRecord
  encode_of_decode _ := ⟨_, rfl⟩
  decode_erased := if_pos not_intact_erased

def commandAuditCodec : Codec CommandAudit where
  len := commandAuditBytes
  encode a := some (encodeCommandAudit a)
  decode := decodeCommandAudit
  stored := CommandAudit.stored
  length_of_encode h := Option.some.inj h ▸ length_sealRecord
  decode_of_encode h := Option.some.inj h ▸ decode_encodeCommandAudit _
  stored_of_decode := stored_of_decodeCommandAudit
  encode_of_decode _ := ⟨_, rfl⟩
  decode_erased := if_pos not_intact_erased

def keyCodec : Codec KeyRecord where
  len := keyBytes
  encode r := some (encodeKeyRecord r)
  decode := decodeKeyRecord
  stored := id
  length_of_encode h := Option.some.inj h ▸ length_sealRecord
  decode_of_encode h := Option.some.inj h ▸ decode_encodeKeyRecord _
  stored_of_decode _ := rfl
  encode_of_decode _ := ⟨_, rfl⟩
  decode_erased := by
    unfold decodeKeyRecord
    exact if_pos not_intact_erased

def keyAuditCodec : Codec KeyAudit where
  len := keyAuditBytes
  encode a := some (encodeKeyAudit a)
  decode := decodeKeyAudit
  stored := id
  length_of_encode h := Option.some.inj h ▸ length_sealRecord
  decode_of_encode h := Option.some.inj h ▸ decode_encodeKeyAudit _
  stored_of_decode _ := rfl
  encode_of_decode _ := ⟨_, rfl⟩
  decode_erased := by
    unfold decodeKeyAudit
    exact if_pos not_intact_erased

end Pipoco.SideRecords
