import Pipoco.StmAtomic

/-!
Provisioning of the vehicle identity over CAN.

Whoever holds the key arms one identity, and one command with the same contents then writes it. An
arm message is fresh when its nonce is above the last accepted one, which is kept in memory and in
the key record of the store; a key command, of a higher generation than the stored one, replaces
the key or revokes it. The store is the image of the flash with its own preparation of writes, of
which each may fail.
-/

namespace Pipoco.Provisioning

open Bytes Kv SideRecords StmStore

/-! ### Messages -/

abbrev Key := Page 32
abbrev Tag := Page 32

/-- What an arm message, a command and the armed command have in common: arrays with the number of
bytes that are used. -/
structure WireCommand where
  requestId : UInt32
  vinLen : UInt8
  vin : Page 17
  calibrationIdLen : UInt8
  calibrationId : Page 17
  boardBuildIdentityLen : UInt8
  boardBuildIdentity : Page 6
  deriving DecidableEq

structure ArmMessage extends WireCommand where
  nonce : UInt32
  tag : Tag
  deriving DecidableEq

structure KeyCommand where
  (requestId nonce generation : UInt32)
  revoke : Bool
  key : Key
  tag : Tag
  deriving DecidableEq

structure Command where
  requestId : UInt32
  (vin calibrationId boardBuildIdentity : List UInt8)
  deriving DecidableEq

structure AuditMessage where
  requestId : UInt32
  (authorized authorizationFailed attempted accepted storeFailed : Bool)
  (rejectedField vinLen calibrationIdLen boardBuildIdentityLen : UInt8)
  deriving DecidableEq

/-- The messages of the transport; those that are none of the six are all alike here. -/
inductive Message
  | arm (m : ArmMessage)
  | command (c : WireCommand)
  | keyCommand (c : KeyCommand)
  | armAudit (requestId : UInt32) (armed : Bool)
  | audit (a : AuditMessage)
  | keyAudit (a : KeyAudit)
  | other
  deriving DecidableEq

/-! ### Tags -/

def asciiBytes (s : String) : List UInt8 := s.toList.map fun c => UInt8.ofNat c.toNat

def armBytes (c : WireCommand) (nonce : UInt32) : List UInt8 :=
  asciiBytes "pipoco:stm32f4:obd2-identity-provisioning:v1" ++ le32 c.requestId ++ le32 nonce ++
    [c.vinLen] ++ c.vin.toList ++ [c.calibrationIdLen] ++ c.calibrationId.toList ++
    [c.boardBuildIdentityLen] ++ c.boardBuildIdentity.toList

def keyCommandBytes (requestId nonce generation : UInt32) (revoke : Bool) (key : Key) :
    List UInt8 :=
  asciiBytes "pipoco:stm32f4:obd2-identity-key-management:v1" ++ le32 requestId ++ le32 nonce ++
    le32 generation ++ [if revoke then 1 else 0] ++ key.toList

section Tags

variable (mac : Key → List UInt8 → Tag) (currentKey key : Key)

def armTag (c : WireCommand) (nonce : UInt32) : Tag := mac key (armBytes c nonce)

def verifyArmTag (m : ArmMessage) : Bool := armTag mac key m.toWireCommand m.nonce = m.tag

def keyCommandTag (requestId nonce generation : UInt32) (revoke : Bool) (key : Key) : Tag :=
  mac currentKey (keyCommandBytes requestId nonce generation revoke key)

def verifyKeyCommandTag (c : KeyCommand) : Bool :=
  keyCommandTag mac currentKey c.requestId c.nonce c.generation c.revoke c.key = c.tag

end Tags

/-! ### The armed operator -/

variable (byte : UInt8)

structure OperatorArm where
  armedCommand : Option WireCommand
  key : Option Key
  lastArmNonce : Option UInt32
  deriving DecidableEq

def hexNibble : Option UInt8 :=
  if 48 ≤ byte ∧ byte ≤ 57 then some (byte - 48)
  else if 97 ≤ byte ∧ byte ≤ 102 then some (byte - 97 + 10)
  else if 65 ≤ byte ∧ byte ≤ 70 then some (byte - 65 + 10)
  else none

def parseHexKey32 (hex : List UInt8) : Option Key :=
  if hex.length ≠ 64 then none
  else
    List.Vector.mOfFn fun i : Fin 32 => do
      let hi ← hexNibble (byteAt hex (i * 2))
      let lo ← hexNibble (byteAt hex (i * 2 + 1))
      some (hi <<< 4 ||| lo)

namespace OperatorArm

variable (key : Option Key) (hex : Option (List UInt8))

def newWithOptionalKeyAndLastArmNonce (lastArmNonce : Option UInt32) : OperatorArm :=
  ⟨none, key, lastArmNonce⟩

def newWithOptionalKey : OperatorArm := newWithOptionalKeyAndLastArmNonce key none

def compileTimeEnvKey : Option Key := hex.bind parseHexKey32

/-- The key of the store is used as soon as there is a record, also a revoked one. -/
def fromPersistedKeyOrCompileTimeEnv (persistedKey : Option (Option Key × UInt32)) : OperatorArm :=
  match persistedKey with
  | some (key, lastArmNonce) => newWithOptionalKeyAndLastArmNonce key (some lastArmNonce)
  | none => newWithOptionalKey (compileTimeEnvKey hex)

def nonceIsFresh (operator : OperatorArm) (nonce : UInt32) : Bool :=
  (operator.lastArmNonce.map fun last => decide (last < nonce)).getD true

def arm (mac : Key → List UInt8 → Tag) (operator : OperatorArm) (m : ArmMessage) :
    OperatorArm × Message :=
  let armed := operator.nonceIsFresh m.nonce &&
    (operator.key.map fun key => verifyArmTag mac key m).getD false
  (if armed then
    { operator with lastArmNonce := some m.nonce, armedCommand := some m.toWireCommand }
  else operator, .armAudit m.requestId armed)

end OperatorArm

def WireCommand.matches (armed : WireCommand) (command : Command) : Bool :=
  armed.requestId = command.requestId &&
    armed.vinLen.toNat = command.vin.length &&
    armed.calibrationIdLen.toNat = command.calibrationId.length &&
    armed.boardBuildIdentityLen.toNat = command.boardBuildIdentity.length &&
    armed.vin.toList.take command.vin.length = command.vin &&
    armed.calibrationId.toList.take command.calibrationId.length = command.calibrationId &&
    armed.boardBuildIdentity.toList.take command.boardBuildIdentity.length =
      command.boardBuildIdentity

variable (operator : OperatorArm)

/-- An authorization uses the armed command up. -/
def OperatorArm.authorize (command : Command) : OperatorArm × Bool :=
  let authorized := (operator.armedCommand.map fun armed => armed.matches command).getD false
  (if authorized then { operator with armedCommand := none } else operator, authorized)

/-! ### The store -/

variable (store : Image) (ok : Bool) {w : Write}

/-- A write that is refused by its preparation, fails in the flash, or is done. -/
def write (w : Write) : Except KvError Image := do
  let new ← prepare store w
  if ok then .ok new else .error .io

lemma write_eq_ok {store new : Image} {ok : Bool} :
    write store ok w = .ok new ↔ prepare store w = .ok new ∧ ok = true := by
  unfold write
  cases prepare store w with
  | error e => simp [bind, Except.bind]
  | ok img => cases ok <;> simp [bind, Except.bind]

/-! ### The identity record -/

variable (input : List UInt8)

def normalizeByte : Option UInt8 :=
  if 97 ≤ byte ∧ byte ≤ 122 then some (byte - 32)
  else if 65 ≤ byte ∧ byte ≤ 90 ∨ 48 ≤ byte ∧ byte ≤ 57 then some byte
  else none

def normalizeStep (out : List UInt8) (byte : UInt8) : List UInt8 :=
  if 17 ≤ out.length then out
  else match normalizeByte byte with
    | some normalized => out ++ [normalized]
    | none => out

def normalizeAsciiIdentity : Page 17 × ℕ :=
  let out := input.foldl normalizeStep []
  (.ofFn fun i => byteAt (out ++ List.replicate 17 0) i, out.length)

def identityFromAscii (vin calibrationId boardBuildIdentity : List UInt8) : IdentityRecord where
  vinLen := .ofNat (normalizeAsciiIdentity vin).2
  vin := (normalizeAsciiIdentity vin).1
  calibrationIdLen := .ofNat (normalizeAsciiIdentity calibrationId).2
  calibrationId := (normalizeAsciiIdentity calibrationId).1
  boardBuildIdentityLen := .ofNat (min (normalizeAsciiIdentity boardBuildIdentity).2 6)
  boardBuildIdentity := .ofFn fun i => byteAt (normalizeAsciiIdentity boardBuildIdentity).1.toList i

inductive ProvisioningError
  | empty (field : ProvisioningField)
  | tooLong (field : ProvisioningField) (maxLen : ℕ)
  | store (e : KvError)
  deriving DecidableEq

/-- Field parsing has no errors of the store. -/
def ProvisioningError.field : ProvisioningError → Option ProvisioningField
  | .empty field => some field
  | .tooLong field _ => some field
  | .store _ => none

def rejectTooLong (field : ProvisioningField) (value : List UInt8) (maxLen : ℕ) :
    Except ProvisioningError Unit :=
  if maxLen < value.length then .error (.tooLong field maxLen) else .ok ()

def rejectEmpty (field : ProvisioningField) (len : UInt8) : Except ProvisioningError Unit :=
  if len = 0 then .error (.empty field) else .ok ()

def parseProvisioningFields (command : Command) : Except ProvisioningError IdentityRecord := do
  rejectTooLong .vin command.vin 17
  rejectTooLong .calibrationId command.calibrationId 17
  rejectTooLong .boardBuildIdentity command.boardBuildIdentity 6
  let record := identityFromAscii command.vin command.calibrationId command.boardBuildIdentity
  rejectEmpty .vin record.vinLen
  rejectEmpty .calibrationId record.calibrationIdLen
  rejectEmpty .boardBuildIdentity record.boardBuildIdentityLen
  .ok record

def provisionIdentityFields (command : Command) : Except ProvisioningError Image :=
  match parseProvisioningFields command with
  | .error e => .error e
  | .ok record => (write store ok (.identity record)).mapError .store

def provisionIdentityFieldsWithStatus (command : Command) : Image × ProvisioningStatus :=
  match parseProvisioningFields command with
  | .error e => (store, ⟨true, false, e.field, false, none⟩)
  | .ok record =>
    let lengths := some ⟨record.vinLen, record.calibrationIdLen, record.boardBuildIdentityLen⟩
    match provisionIdentityFields store ok command with
    | .ok new => (new, ⟨true, true, none, false, lengths⟩)
    | .error (.store _) => (store, ⟨true, false, none, true, lengths⟩)
    | .error e => (store, ⟨true, false, e.field, false, none⟩)

def provisionIdentityCommandWithAudit (command : Command) : OperatorArm × Image × CommandAudit :=
  match operator.authorize command with
  | (operator, false) => (operator, store, ⟨command.requestId, false, true, none⟩)
  | (operator, true) =>
    let (store, status) := provisionIdentityFieldsWithStatus store ok command
    (operator, store, ⟨command.requestId, true, false, some status⟩)

/-! ### Handling a message -/

/-- Whether the flash programs what a message writes: the identity, the key or the nonce, and the
audit. -/
structure Outcomes where
  (record audit : Bool)
  deriving DecidableEq

def operatorCommandFromMessage : Message → Option Command
  | .command c =>
    if 17 < c.vinLen.toNat ∨ 17 < c.calibrationIdLen.toNat ∨ 6 < c.boardBuildIdentityLen.toNat then
      none
    else
      some ⟨c.requestId, c.vin.toList.take c.vinLen.toNat,
        c.calibrationId.toList.take c.calibrationIdLen.toNat,
        c.boardBuildIdentity.toList.take c.boardBuildIdentityLen.toNat⟩
  | _ => none

def operatorAuditMessage (audit : CommandAudit) : Message :=
  let status := audit.provisioningStatus
  let lengths := status.bind (·.normalizedLengths)
  .audit
    { requestId := audit.requestId
      authorized := audit.authorized
      authorizationFailed := audit.authorizationFailed
      attempted := (status.map (·.attempted)).getD false
      accepted := (status.map (·.accepted)).getD false
      storeFailed := (status.map (·.storeFailed)).getD false
      rejectedField := encodeRejectedField (status.bind (·.rejectedField))
      vinLen := (lengths.map (·.vin)).getD 0
      calibrationIdLen := (lengths.map (·.calibrationId)).getD 0
      boardBuildIdentityLen := (lengths.map (·.boardBuildIdentity)).getD 0 }

structure Device where
  operator : OperatorArm
  store : Image

/-- The handling of a message: none when it is not for this handler, else the device after it and
the response, if there is one. -/
abbrev Handled := Option (Device × Option Message)

section Handlers

variable (mac : Key → List UInt8 → Tag) (d : Device) (outcomes : Outcomes) (message : Message)

/-- A nonce that cannot be stored takes the arming back. -/
def operatorArmMessageWithNonceStore : Message → Handled
  | .arm m =>
    match d.operator.arm mac m with
    | (operator, .armAudit requestId true) =>
      match operator.key with
      | none => some (d, some (.armAudit m.requestId false))
      | some currentKey =>
        match write d.store outcomes.record (.armNonce currentKey m.nonce) with
        | .error _ => some (d, some (.armAudit m.requestId false))
        | .ok store => some (⟨operator, store⟩, some (.armAudit requestId true))
    | (operator, response) => some (⟨operator, d.store⟩, some response)
  | _ => none

/-- Without an audit in the store there is no response. -/
def identityOperatorMessageWithPersistedAudit : Handled :=
  match operatorCommandFromMessage message with
  | none => none
  | some command =>
    let (operator, store, audit) :=
      provisionIdentityCommandWithAudit d.operator d.store outcomes.record command
    match write store outcomes.audit (.commandAudit audit) with
    | .error _ => some (⟨operator, store⟩, none)
    | .ok store => some (⟨operator, store⟩, some (operatorAuditMessage audit))

def keyRejectedNone : UInt8 := 0
def keyRejectedUnauthorized : UInt8 := 1
def keyRejectedRollback : UInt8 := 2
def keyRejectedStore : UInt8 := 3

/-- The audit of a rejected key command is stored if that works; the response is sent anyway. -/
def persistKeyAuditOrReturnVolatileResponse (audit : KeyAudit)
    (keyRecordToPreserve : Option KeyRecord) : Device × Option Message :=
  match write d.store outcomes.audit (.keyAuditWithKeyRecord audit keyRecordToPreserve) with
  | .error _ => (d, some (.keyAudit audit))
  | .ok store => (⟨d.operator, store⟩, some (.keyAudit audit))

/-- The nonce starts over with every key. -/
def keyRecordOf (c : KeyCommand) : KeyRecord :=
  if c.revoke then ⟨c.key, c.generation, 0, true⟩ else .active c.key c.generation

def provisionKeyOperatorMessageWithAudit : Message → Handled
  | .keyCommand c =>
    let previous := d.store.records.key
    let rejected (authorized storeFailed : Bool) (reason : UInt8) :=
      persistKeyAuditOrReturnVolatileResponse d outcomes
        ⟨c.requestId, authorized, false, storeFailed, reason, c.generation⟩ previous
    match d.operator.key with
    | none => some (rejected false false keyRejectedUnauthorized)
    | some currentKey =>
      if !verifyKeyCommandTag mac currentKey c then
        some (rejected false false keyRejectedUnauthorized)
      else if c.generation ≤ (previous.map (·.generation)).getD 0 then
        some (rejected true false keyRejectedRollback)
      else
        let audit : KeyAudit := ⟨c.requestId, true, true, false, keyRejectedNone, c.generation⟩
        match write d.store outcomes.record (.keyRecordWithAudit (keyRecordOf c) audit) with
        | .error _ => some (rejected true true keyRejectedStore)
        | .ok store =>
          some (⟨.newWithOptionalKey (if c.revoke then none else some c.key), store⟩,
            some (.keyAudit audit))
  | _ => none

/-- The three handlers in the order in which the main loop tries them. -/
def receive : Device × Option Message :=
  ((operatorArmMessageWithNonceStore mac d outcomes message).or
    ((provisionKeyOperatorMessageWithAudit mac d outcomes message).or
      (identityOperatorMessageWithPersistedAudit d outcomes message))).getD (d, none)

end Handlers

/-- A start of the firmware: memory comes from the key record, or from the build without one. -/
def boot (hex : Option (List UInt8)) (store : Image) : Device :=
  ⟨.fromPersistedKeyOrCompileTimeEnv hex
    (store.records.key.map fun record => (record.activeKey, record.lastArmNonce)), store⟩

end Pipoco.Provisioning
