import Pipoco.IdentityProvisioning

/-!
Replay of arm messages.

The history of a device is kept beside it: the arm messages it has accepted and the identity
records it has written. Every record that is written uses up the arm message accepted last, so
records and messages belong together one to one. That a message is not accepted again rests on the
nonce, and a key command starts the nonce over: the history is safe against replay exactly as long
as no key is installed under which an accepted message verifies.
-/

namespace Pipoco.Provisioning

open Bytes Kv SideRecords StmStore Runs OperatorArm

/-! ### Runs with their history -/

inductive Op
  | receive (message : Message) (outcomes : Outcomes)
  | restart

/-- An identity record with the command it was written for. -/
structure Written where
  command : Command
  record : IdentityRecord
  deriving DecidableEq

def writtenBy (d : Device) (outcomes : Outcomes) (message : Message) : Option Written :=
  match operatorCommandFromMessage message with
  | none => none
  | some command =>
    let audit := (provisionIdentityCommandWithAudit d.operator d.store outcomes.record command).2.2
    if audit.provisioningStatus.any (·.accepted) then
      (parseProvisioningFields command).toOption.map fun record => ⟨command, record⟩
    else none

def acceptedBy (message : Message) (response : Option Message) : Option ArmMessage :=
  match message, response with
  | .arm m, some (.armAudit _ true) => some m
  | _, _ => none

structure Traced where
  device : Device
  accepted : List ArmMessage
  written : List Written

section Runs

variable (mac : Key → List UInt8 → Tag) (hex : Option (List UInt8))

def step (x : Traced) : Op → Traced
  | .receive message outcomes =>
    let result := receive mac x.device outcomes message
    ⟨result.1, x.accepted ++ (acceptedBy message result.2).toList,
      x.written ++ (writtenBy x.device outcomes message).toList⟩
  | .restart => { x with device := boot hex x.device.store }

def start (store : Image) : Traced := ⟨boot hex store, [], []⟩

end Runs

/-! ### What a message can do -/

/-- The record was written for the command that was armed. -/
structure Corresponds (w : Written) (c : WireCommand) : Prop where
  requestId : c.requestId = w.command.requestId
  vin : c.vin.toList.take c.vinLen.toNat = w.command.vin
  calibrationId : c.calibrationId.toList.take c.calibrationIdLen.toNat = w.command.calibrationId
  boardBuildIdentity :
    c.boardBuildIdentity.toList.take c.boardBuildIdentityLen.toNat = w.command.boardBuildIdentity
  record : parseProvisioningFields w.command = .ok w.record

section Changes

variable (mac : Key → List UInt8 → Tag) (d : Device)

/-- The arm message is accepted, and the record its nonce is stored in. -/
structure Arms (d : Device) (outcomes : Outcomes) (m : ArmMessage) (key : Key)
    (record : KeyRecord) : Prop where
  current : d.operator.key = some key
  fresh : d.operator.nonceIsFresh m.nonce = true
  tag : verifyArmTag mac key m = true
  record : armedRecord d.store.records.key key = .ok record
  stored : outcomes.record = true

def Rekeys (outcomes : Outcomes) (c : KeyCommand) : Prop :=
  (d.operator.key.any fun key => verifyKeyCommandTag mac key c) = true ∧
    (d.store.records.key.map (·.generation)).getD 0 < c.generation ∧ outcomes.record = true

def Device.armed (m : ArmMessage) (record : KeyRecord) : Device :=
  ⟨{ d.operator with lastArmNonce := some m.nonce, armedCommand := some m.toWireCommand },
    d.store.withKey (record.withLastArmNonce m.nonce)⟩

def Device.rekeyed (c : KeyCommand) : Device :=
  ⟨.newWithOptionalKey (if c.revoke then none else some c.key),
    { d.store with records :=
      { d.store.records with
        key := some (keyRecordOf c)
        keyAudit := some ⟨c.requestId, true, true, false, keyRejectedNone, c.generation⟩ } }⟩

/-- What a message does to the device, and what it adds to the history. -/
inductive Change (d : Device) (outcomes : Outcomes) (message : Message) :
    Device → Option ArmMessage → Option Written → Prop
  | quiet {d' : Device} (hoperator : d'.operator = d.operator)
      (hkey : d'.store.records.key = d.store.records.key)
      (hidentity : d'.store.records.identity = d.store.records.identity) :
      Change d outcomes message d' none none
  | armed {m : ArmMessage} {key : Key} {record : KeyRecord} (hmessage : message = .arm m)
      (h : Arms mac d outcomes m key record) :
      Change d outcomes message (d.armed m record) (some m) none
  | rekeyed {c : KeyCommand} (hmessage : message = .keyCommand c) (h : Rekeys mac d outcomes c) :
      Change d outcomes message (d.rekeyed c) none none
  | used {armed : WireCommand} {store : Image} {w : Option Written}
      (harmed : d.operator.armedCommand = some armed)
      (hkey : store.records.key = d.store.records.key)
      (hidentity : store.records.identity = (w.map (·.record)).or d.store.records.identity)
      (hw : ∀ w' ∈ w, Corresponds w' armed) :
      Change d outcomes message ⟨{ d.operator with armedCommand := none }, store⟩ none w

variable {mac}

lemma receive_arm (outcomes : Outcomes) (m : ArmMessage) :
    some (receive mac d outcomes (.arm m)) =
      operatorArmMessageWithNonceStore mac d outcomes (.arm m) := by
  unfold receive operatorArmMessageWithNonceStore
  dsimp only
  split
  · split
    · rfl
    · split <;> rfl
  · rfl

variable {m : ArmMessage}

variable {d}

lemma receive_arm_of_arms {outcomes : Outcomes} {key : Key} {record : KeyRecord}
    (h : Arms mac d outcomes m key record) :
    receive mac d outcomes (.arm m) = (d.armed m record, some (.armAudit m.requestId true)) := by
  have hwrite : write d.store outcomes.record (.armNonce key m.nonce) =
      .ok (d.store.withKey (record.withLastArmNonce m.nonce)) := by
    refine write_eq_ok.mpr ⟨?_, h.stored⟩
    rw [prepare, h.record]
    rfl
  apply Option.some.inj
  rw [receive_arm]
  simp [operatorArmMessageWithNonceStore, arm, h.fresh, h.current, h.tag, hwrite, Device.armed]

lemma receive_arm_of_not_arms {outcomes : Outcomes}
    (h : ∀ key record, ¬ Arms mac d outcomes m key record) :
    receive mac d outcomes (.arm m) = (d, some (.armAudit m.requestId false)) := by
  apply Option.some.inj
  rw [receive_arm]
  cases hkey : d.operator.key with
  | none => simp [operatorArmMessageWithNonceStore, arm, hkey]
  | some key =>
    by_cases harmed : (d.operator.nonceIsFresh m.nonce && verifyArmTag mac key m) = true
    · obtain ⟨hfresh, htag⟩ := Bool.and_eq_true_iff.mp harmed
      -- both checks pass, so it is the store that refuses the nonce
      cases hwrite : write d.store outcomes.record (.armNonce key m.nonce) with
      | error e => simp [operatorArmMessageWithNonceStore, arm, hkey, hfresh, htag, hwrite]
      | ok store =>
        obtain ⟨hprep, hok⟩ := write_eq_ok.mp hwrite
        cases hrecord : armedRecord d.store.records.key key with
        | error e =>
          rw [prepare, hrecord] at hprep
          cases hprep
        | ok record => exact absurd ⟨hkey, hfresh, htag, hrecord, hok⟩ (h key record)
    · rw [Bool.not_eq_true] at harmed
      simp [operatorArmMessageWithNonceStore, arm, hkey, harmed]

variable (d)

lemma receive_keyCommand (outcomes : Outcomes) (c : KeyCommand) :
    some (receive mac d outcomes (.keyCommand c)) =
      provisionKeyOperatorMessageWithAudit mac d outcomes (.keyCommand c) := by
  unfold receive provisionKeyOperatorMessageWithAudit operatorArmMessageWithNonceStore
  dsimp only
  split
  · rfl
  · split
    · rfl
    · split
      · rfl
      · split <;> rfl

variable {c : KeyCommand}

lemma receive_keyCommand_of_rekeys {d : Device} {outcomes : Outcomes} (h : Rekeys mac d outcomes c) :
    receive mac d outcomes (.keyCommand c) = (d.rekeyed c,
      some (.keyAudit ⟨c.requestId, true, true, false, keyRejectedNone, c.generation⟩)) := by
  obtain ⟨hverified, hgeneration, hok⟩ := h
  apply Option.some.inj
  rw [receive_keyCommand]
  cases hkey : d.operator.key with
  | none => simp [hkey] at hverified
  | some key =>
    have htag : verifyKeyCommandTag mac key c = true := by simpa [hkey] using hverified
    have hnot : ¬ c.generation ≤ (d.store.records.key.map (·.generation)).getD 0 :=
      UInt32.not_le.mpr hgeneration
    simp [provisionKeyOperatorMessageWithAudit, hkey, htag, hnot, hok, write, prepare, bind,
      Except.bind, Device.rekeyed]

lemma persistKeyAudit_quiet (outcomes : Outcomes) (message : Message) (audit : KeyAudit) :
    Change mac d outcomes message
      (persistKeyAuditOrReturnVolatileResponse d outcomes audit d.store.records.key).1
      none none := by
  unfold persistKeyAuditOrReturnVolatileResponse
  cases hwrite : write d.store outcomes.audit
      (.keyAuditWithKeyRecord audit d.store.records.key) with
  | error e => exact .quiet rfl rfl rfl
  | ok store =>
    obtain ⟨hprep, -⟩ := write_eq_ok.mp hwrite
    cases hprep
    exact .quiet rfl rfl rfl

lemma receive_keyCommand_of_not_rekeys {d : Device} {outcomes : Outcomes}
    (h : ¬ Rekeys mac d outcomes c) :
    ∃ audit, audit.accepted = false ∧ receive mac d outcomes (.keyCommand c) =
      persistKeyAuditOrReturnVolatileResponse d outcomes audit d.store.records.key := by
  have hsome : some (receive mac d outcomes (.keyCommand c)) = _ := receive_keyCommand d outcomes c
  generalize receive mac d outcomes (.keyCommand c) = result at hsome
  simp only [provisionKeyOperatorMessageWithAudit] at hsome
  split at hsome
  · exact ⟨_, rfl, Option.some.inj hsome⟩
  · next key hkey =>
    split at hsome
    · exact ⟨_, rfl, Option.some.inj hsome⟩
    · next htag =>
      split at hsome
      · exact ⟨_, rfl, Option.some.inj hsome⟩
      · next hgeneration =>
        split at hsome
        · exact ⟨_, rfl, Option.some.inj hsome⟩
        · next store hwrite =>
          refine absurd ⟨?_, UInt32.not_le.mp hgeneration, (write_eq_ok.mp hwrite).2⟩ h
          simpa [hkey] using htag

lemma provisionFields_spec (store : Image) (ok : Bool) (command : Command) :
    (provisionIdentityFieldsWithStatus store ok command).1 = store ∧
        (provisionIdentityFieldsWithStatus store ok command).2.accepted = false ∨
      ∃ record, parseProvisioningFields command = .ok record ∧
        (provisionIdentityFieldsWithStatus store ok command).1 =
          { store with records := { store.records with identity := some record } } ∧
        (provisionIdentityFieldsWithStatus store ok command).2.accepted = true := by
  cases hparse : parseProvisioningFields command with
  | error e => exact .inl (by simp [provisionIdentityFieldsWithStatus, hparse])
  | ok record =>
    cases hwrite : write store ok (.identity record) with
    | error e =>
      exact .inl (by simp [provisionIdentityFieldsWithStatus, provisionIdentityFields, hparse,
        hwrite, Except.mapError])
    | ok new =>
      have hnew :
          new = { store with records := { store.records with identity := some record } } := by
        obtain ⟨hprep, -⟩ := write_eq_ok.mp hwrite
        cases hvalid : validateIdentityRecord record with
        | error e =>
          rw [prepare, hvalid] at hprep
          cases hprep
        | ok u =>
          rw [prepare, hvalid] at hprep
          exact (Except.ok.inj hprep).symm
      refine .inr ⟨record, rfl, ?_, ?_⟩ <;>
        simp [provisionIdentityFieldsWithStatus, provisionIdentityFields, hparse, hwrite, hnew,
          Except.mapError]

lemma receive_command (d : Device) (outcomes : Outcomes) {c : WireCommand} {command : Command}
    (h : operatorCommandFromMessage (.command c) = some command) :
    let result := provisionIdentityCommandWithAudit d.operator d.store outcomes.record command
    ∃ store, (receive mac d outcomes (.command c)).1 = ⟨result.1, store⟩ ∧
      store.records.key = result.2.1.records.key ∧
      store.records.identity = result.2.1.records.identity := by
  intro result
  have hreceive : receive mac d outcomes (.command c) =
      (identityOperatorMessageWithPersistedAudit d outcomes (.command c)).getD (d, none) := rfl
  rw [hreceive]
  simp only [identityOperatorMessageWithPersistedAudit, h]
  cases hwrite : write result.2.1 outcomes.audit (.commandAudit result.2.2) with
  | error e => exact ⟨result.2.1, by simp [result], rfl, rfl⟩
  | ok store =>
    obtain ⟨hprep, -⟩ := write_eq_ok.mp hwrite
    refine ⟨store, by simp [result], ?_⟩
    cases hprep
    exact ⟨rfl, rfl⟩

lemma corresponds_of_matches {armed : WireCommand} {command : Command} {record : IdentityRecord}
    (h : armed.matches command = true) (hparse : parseProvisioningFields command = .ok record) :
    Corresponds ⟨command, record⟩ armed := by
  simp only [WireCommand.matches, Bool.and_eq_true, decide_eq_true_eq] at h
  obtain ⟨⟨⟨⟨⟨⟨hid, hvinLen⟩, hcalLen⟩, hboardLen⟩, hvin⟩, hcal⟩, hboard⟩ := h
  exact ⟨hid, hvinLen ▸ hvin, hcalLen ▸ hcal, hboardLen ▸ hboard, hparse⟩

/-- A command is authorized only when an armed one matches it, which is then used up. -/
lemma authorize_cases (operator : OperatorArm) (command : Command) :
    operator.authorize command = (operator, false) ∨
      ∃ armed, operator.armedCommand = some armed ∧ armed.matches command = true ∧
        operator.authorize command = ({ operator with armedCommand := none }, true) := by
  cases harmed : operator.armedCommand with
  | none => exact .inl (by simp [authorize, harmed])
  | some armed =>
    cases hmatch : armed.matches command with
    | false => exact .inl (by simp [authorize, harmed, hmatch])
    | true => exact .inr ⟨armed, rfl, hmatch, by simp [authorize, harmed, hmatch]⟩

lemma command_change (outcomes : Outcomes) (c : WireCommand) :
    Change mac d outcomes (.command c) (receive mac d outcomes (.command c)).1 none
      (writtenBy d outcomes (.command c)) := by
  cases hcommand : operatorCommandFromMessage (.command c) with
  | none =>
    have hreceive : receive mac d outcomes (.command c) =
        (identityOperatorMessageWithPersistedAudit d outcomes (.command c)).getD (d, none) := rfl
    simp only [writtenBy, hreceive, identityOperatorMessageWithPersistedAudit, hcommand]
    exact .quiet rfl rfl rfl
  | some command =>
    obtain ⟨store, hdevice, hkey, hidentity⟩ : ∃ store,
        (receive mac d outcomes (.command c)).1 = ⟨_, store⟩ ∧ _ ∧ _ :=
      receive_command d outcomes hcommand
    rw [hdevice]
    simp only [writtenBy, hcommand]
    rcases authorize_cases d.operator command with hno | ⟨armed, harmed, hmatch, hyes⟩
    · simp only [provisionIdentityCommandWithAudit, hno] at hkey hidentity ⊢
      exact .quiet rfl hkey hidentity
    · simp only [provisionIdentityCommandWithAudit, hyes] at hkey hidentity ⊢
      rcases provisionFields_spec d.store outcomes.record command with
        ⟨hstore, hrejected⟩ | ⟨record, hparse, hstore, haccepted⟩
      · rw [hstore] at hkey hidentity
        simp only [Option.any_some, hrejected, Bool.false_eq_true, if_false]
        exact .used harmed hkey hidentity (by simp)
      · rw [hstore] at hkey hidentity
        simp only [Option.any_some, haccepted, if_true, hparse]
        refine .used harmed hkey hidentity ?_
        rintro w' ⟨⟩
        exact corresponds_of_matches hmatch hparse

lemma receive_change (outcomes : Outcomes) (message : Message) :
    Change mac d outcomes message (receive mac d outcomes message).1
      (acceptedBy message (receive mac d outcomes message).2)
      (writtenBy d outcomes message) := by
  cases message with
  | arm m =>
    by_cases h : ∃ key record, Arms mac d outcomes m key record
    · obtain ⟨key, record, h⟩ := h
      rw [receive_arm_of_arms h]
      exact .armed rfl h
    · push Not at h
      rw [receive_arm_of_not_arms h]
      exact .quiet rfl rfl rfl
  | keyCommand c =>
    by_cases h : Rekeys mac d outcomes c
    · rw [receive_keyCommand_of_rekeys h]
      exact .rekeyed rfl h
    · obtain ⟨audit, -, haudit⟩ := receive_keyCommand_of_not_rekeys h
      rw [haudit]
      exact persistKeyAudit_quiet d outcomes _ audit
  | command c => exact command_change d outcomes c
  | _ => exact .quiet rfl rfl rfl

end Changes

/-! ### Safety against replay -/

section Safety

variable (mac : Key → List UInt8 → Tag) (hex : Option (List UInt8)) (x : Traced)

/-- No accepted message would be accepted by this operator: it does not verify under the key, or
its nonce is used. -/
def Guards (operator : OperatorArm) (accepted : List ArmMessage) : Prop :=
  ∀ m ∈ accepted, ∀ key, operator.key = some key → verifyArmTag mac key m = true →
    operator.nonceIsFresh m.nonce = false

/-- Every record that was written has its own accepted message, in the same order. The armed
command is the one of the last accepted message, and has no record yet. -/
def Matched : Prop :=
  ∃ arms : List ArmMessage,
    List.Forall₂ (fun w m => Corresponds w m.toWireCommand) x.written arms ∧
      match x.device.operator.armedCommand with
      | none => arms.Sublist x.accepted
      | some armed => ∃ before m, x.accepted = before ++ [m] ∧ m.toWireCommand = armed ∧
          arms.Sublist before

/-- **No identity without its own arm.** The records that were written correspond to distinct
accepted arm messages, each earlier than its record; the identity in the store is the last one
written; no arm message was accepted twice, and none of the accepted ones would be accepted if it
were sent again. -/
structure Secure (store : Image) (x : Traced) : Prop where
  matched : ∃ arms : List ArmMessage, arms.Sublist x.accepted ∧
    List.Forall₂ (fun w m => Corresponds w m.toWireCommand) x.written arms
  identity : x.device.store.records.identity =
    (x.written.getLast?.map (·.record)).or store.records.identity
  once : x.accepted.Nodup
  replay : ∀ m ∈ x.accepted, ∀ outcomes,
    acceptedBy (.arm m) (receive mac x.device outcomes (.arm m)).2 = none

/-- An arm message is accepted only if it verifies under the key of the device. -/
def Authentic : Op → Prop
  | .receive message outcomes =>
    ∀ m ∈ acceptedBy message (receive mac x.device outcomes message).2,
      ∃ key, x.device.operator.key = some key ∧ verifyArmTag mac key m = true
  | .restart => True

/-- A key command that is accepted installs a key under which no accepted message verifies. -/
def KeyFresh : Op → Prop
  | .receive (.keyCommand c) outcomes => Rekeys mac x.device outcomes c → c.revoke = false →
      ∀ m ∈ x.accepted, verifyArmTag mac c.key m = false
  | _ => True

/-- The invariant: also the memory that a restart would come up with is guarded. -/
structure Inv (store : Image) (x : Traced) : Prop where
  memory : Guards mac x.device.operator x.accepted
  persisted : Guards mac (boot hex x.device.store).operator x.accepted
  matched : Matched x
  identity : x.device.store.records.identity =
    (x.written.getLast?.map (·.record)).or store.records.identity
  once : x.accepted.Nodup

variable {mac hex} {operator : OperatorArm} {d : Device} {accepted : List ArmMessage}
  {outcomes : Outcomes} {m : ArmMessage} {key : Key} {record : KeyRecord}

lemma Guards.congr {operator' : OperatorArm} (h : Guards mac operator accepted)
    (hkey : operator'.key = operator.key) (hnonce : operator'.lastArmNonce = operator.lastArmNonce) :
    Guards mac operator' accepted := by
  intro m hm key hk htag
  have hfresh := h m hm key (hkey ▸ hk) htag
  rwa [nonceIsFresh, hnonce]

/-- Accepting a message raises the nonce over it and over all that came before it. -/
lemma Guards.append {operator' : OperatorArm} (h : Guards mac operator accepted)
    (hkey : operator'.key = operator.key) (hfresh : operator.nonceIsFresh m.nonce = true)
    (hnonce : operator'.lastArmNonce = some m.nonce) : Guards mac operator' (accepted ++ [m]) := by
  have hlast : ∀ nonce, operator'.nonceIsFresh nonce = decide (m.nonce < nonce) := by
    intro nonce
    simp [nonceIsFresh, hnonce]
  intro m' hm' key hk htag
  rw [hlast, decide_eq_false_iff_not, UInt32.not_lt]
  rcases List.mem_append.mp hm' with hold | hnew
  · have hused := h m' hold key (hkey ▸ hk) htag
    -- the older message is at most at the last nonce, the new one above it
    cases hl : operator.lastArmNonce with
    | none => simp [nonceIsFresh, hl] at hused
    | some last =>
      simp only [nonceIsFresh, hl, Option.map_some, Option.getD_some,
        decide_eq_true_eq, decide_eq_false_iff_not] at hused hfresh
      exact UInt32.le_of_lt (UInt32.lt_of_le_of_lt (UInt32.not_lt.mp hused) hfresh)
  · obtain rfl := List.mem_singleton.mp hnew
    exact UInt32.le_refl _

lemma Guards.not_arms (h : Guards mac d.operator accepted) (hm : m ∈ accepted) :
    ¬ Arms mac d outcomes m key record := by
  intro harms
  have hused := h m hm key harms.current harms.tag
  rw [harms.fresh] at hused
  cases hused

lemma guards_of_unverified
    (h : ∀ key, operator.key = some key → ∀ m ∈ accepted, verifyArmTag mac key m = false) :
    Guards mac operator accepted := by
  intro m hm key hk htag
  rw [h key hk m hm] at htag
  cases htag

/-! ### The memory of a restart -/

variable {store : Image}

lemma armedCommand_boot (store : Image) : (boot hex store).operator.armedCommand = none := by
  unfold boot fromPersistedKeyOrCompileTimeEnv
  split <;> rfl

lemma boot_operator_congr {store' : Image} (h : store'.records.key = store.records.key) :
    (boot hex store').operator = (boot hex store).operator := by
  simp only [boot, h]

lemma boot_operator_of_key (record : KeyRecord) (h : store.records.key = some record) :
    (boot hex store).operator = ⟨none, record.activeKey, some record.lastArmNonce⟩ := by
  simp only [boot, h]
  rfl

lemma activeKey_of_armedRecord {current : Option KeyRecord}
    (h : armedRecord current key = .ok record) : record.activeKey = some key := by
  cases current with
  | none =>
    cases h
    rfl
  | some stored =>
    by_cases hkey : stored.activeKey = some key
    · rw [armedRecord, if_pos hkey] at h
      cases h
      exact hkey
    · rw [armedRecord, if_neg hkey] at h
      cases h

lemma activeKey_keyRecordOf (c : KeyCommand) :
    (keyRecordOf c).activeKey = if c.revoke then none else some c.key := by
  unfold keyRecordOf KeyRecord.activeKey
  split <;> rfl

/-! ### Steps -/

variable {x} {message : Message} {a : Option ArmMessage} {c : KeyCommand} {w : Option Written}

lemma Matched.sublist (h : Matched x) :
    ∃ arms : List ArmMessage, arms.Sublist x.accepted ∧
      List.Forall₂ (fun w m => Corresponds w m.toWireCommand) x.written arms := by
  obtain ⟨arms, hall, hsub⟩ := h
  refine ⟨arms, ?_, hall⟩
  cases harmed : x.device.operator.armedCommand with
  | none => simpa [harmed] using hsub
  | some armed =>
    simp only [harmed] at hsub
    obtain ⟨before, m, haccepted, -, hsub⟩ := hsub
    rw [haccepted]
    exact hsub.trans (List.sublist_append_left before [m])

lemma matched_of_unarmed (h : Matched x) (hd : d.operator.armedCommand = none) :
    Matched { x with device := d } := by
  obtain ⟨arms, hsub, hall⟩ := h.sublist
  exact ⟨arms, hall, by simpa [hd] using hsub⟩

lemma inv_start (store : Image) : Inv mac hex store (start hex store) where
  memory := by simp [Guards, start]
  persisted := by simp [Guards, start]
  matched := ⟨[], .nil, by simp [start, armedCommand_boot]⟩
  identity := rfl
  once := List.nodup_nil

lemma inv_restart (h : Inv mac hex store x) : Inv mac hex store (step mac hex x .restart) where
  memory := h.persisted
  persisted := h.persisted
  matched := matched_of_unarmed h.matched (armedCommand_boot x.device.store)
  identity := h.identity
  once := h.once

lemma inv_armed (h : Inv mac hex store x) (harms : Arms mac x.device outcomes m key record) :
    Inv mac hex store ⟨x.device.armed m record, x.accepted ++ [m], x.written⟩ where
  memory := h.memory.append rfl harms.fresh rfl
  persisted := by
    have hboot : (boot hex (x.device.armed m record).store).operator =
        ⟨none, record.activeKey, some m.nonce⟩ :=
      boot_operator_of_key (record.withLastArmNonce m.nonce) rfl
    refine h.memory.append ?_ harms.fresh ?_
    · rw [hboot, harms.current]
      exact activeKey_of_armedRecord harms.record
    · rw [hboot]
  matched := by
    obtain ⟨arms, hsub, hall⟩ := h.matched.sublist
    exact ⟨arms, hall, x.accepted, m, rfl, rfl, hsub⟩
  identity := h.identity
  once := by
    refine h.once.append (List.nodup_singleton m) (List.disjoint_singleton.mpr fun hm => ?_)
    exact h.memory.not_arms hm harms

lemma inv_rekeyed (h : Inv mac hex store x)
    (hfresh : c.revoke = false → ∀ m ∈ x.accepted, verifyArmTag mac c.key m = false) :
    Inv mac hex store { x with device := x.device.rekeyed c } := by
  have hunverified : ∀ key, (if c.revoke then none else some c.key) = some key →
      ∀ m ∈ x.accepted, verifyArmTag mac key m = false := by
    intro key hkey
    cases hrevoke : c.revoke with
    | true => simp [hrevoke] at hkey
    | false =>
      obtain rfl : c.key = key := by simpa [hrevoke] using hkey
      exact hfresh hrevoke
  have hboot : (boot hex (x.device.rekeyed c).store).operator.key =
      if c.revoke then none else some c.key := by
    exact activeKey_keyRecordOf c
  exact
    { memory := guards_of_unverified hunverified
      persisted := guards_of_unverified (hboot ▸ hunverified)
      matched := matched_of_unarmed h.matched rfl
      identity := h.identity
      once := h.once }

lemma inv_used {new : Image} {armed : WireCommand} (h : Inv mac hex store x)
    (harmed : x.device.operator.armedCommand = some armed)
    (hkey : new.records.key = x.device.store.records.key)
    (hidentity : new.records.identity = (w.map (·.record)).or x.device.store.records.identity)
    (hw : ∀ w' ∈ w, Corresponds w' armed) :
    Inv mac hex store
      ⟨⟨{ x.device.operator with armedCommand := none }, new⟩, x.accepted,
        x.written ++ w.toList⟩ where
  memory := h.memory.congr rfl rfl
  persisted := by
    rw [boot_operator_congr hkey]
    exact h.persisted
  matched := by
    obtain ⟨arms, hall, hsub⟩ := h.matched
    simp only [harmed] at hsub
    obtain ⟨before, m, haccepted, hm, hsub⟩ := hsub
    cases w with
    | none =>
      refine ⟨arms, by simpa using hall, ?_⟩
      show arms.Sublist x.accepted
      rw [haccepted]
      exact hsub.trans (List.sublist_append_left before [m])
    | some w' =>
      have hpair : Corresponds w' m.toWireCommand := hm ▸ hw w' rfl
      refine ⟨arms ++ [m], List.rel_append hall (.cons hpair .nil), ?_⟩
      show (arms ++ [m]).Sublist x.accepted
      rw [haccepted]
      exact hsub.append (List.Sublist.refl [m])
  identity := by
    cases w with
    | none => simpa [hidentity] using h.identity
    | some w' => simp [hidentity]
  once := h.once

lemma inv_quiet (h : Inv mac hex store x) (hoperator : d.operator = x.device.operator)
    (hkey : d.store.records.key = x.device.store.records.key)
    (hidentity : d.store.records.identity = x.device.store.records.identity) :
    Inv mac hex store { x with device := d } where
  memory := by
    rw [hoperator]
    exact h.memory
  persisted := by
    rw [boot_operator_congr hkey]
    exact h.persisted
  matched := by
    simp only [Matched, hoperator]
    exact h.matched
  identity := hidentity.trans h.identity
  once := h.once

lemma inv_change (h : Inv mac hex store x) (hfresh : KeyFresh mac x (.receive message outcomes))
    (hchange : Change mac x.device outcomes message d a w) :
    Inv mac hex store ⟨d, x.accepted ++ a.toList, x.written ++ w.toList⟩ := by
  cases hchange with
  | quiet hoperator hkey hidentity =>
    simp only [Option.toList_none, List.append_nil]
    exact inv_quiet h hoperator hkey hidentity
  | armed hmessage harms =>
    simp only [Option.toList_none, List.append_nil]
    exact inv_armed h harms
  | rekeyed hmessage hrekeys =>
    subst hmessage
    simp only [Option.toList_none, List.append_nil]
    exact inv_rekeyed h (hfresh hrekeys)
  | used harmed hkey hidentity hw =>
    simp only [Option.toList_none, List.append_nil]
    exact inv_used h harmed hkey hidentity hw

lemma inv_step {op : Op} (h : Inv mac hex store x) (hfresh : KeyFresh mac x op) :
    Inv mac hex store (step mac hex x op) := by
  cases op with
  | restart => exact inv_restart h
  | receive message outcomes => exact inv_change h hfresh (receive_change x.device outcomes message)

lemma secure_of_inv (h : Inv mac hex store x) : Secure mac store x where
  matched := h.matched.sublist
  identity := h.identity
  once := h.once
  replay := by
    intro m hm outcomes
    rw [receive_arm_of_not_arms fun key record => h.memory.not_arms hm]
    rfl

/-- Under a new key every message that verifies is accepted, whatever its nonce. -/
lemma arms_rekeyed (hrevoke : c.revoke = false) (htag : verifyArmTag mac c.key m = true) :
    Arms mac (d.rekeyed c) ⟨true, true⟩ m c.key (keyRecordOf c) where
  current := by simp [Device.rekeyed, hrevoke, newWithOptionalKey,
    newWithOptionalKeyAndLastArmNonce]
  fresh := rfl
  tag := htag
  record := by
    have hkey : (keyRecordOf c).activeKey = some c.key := by
      rw [activeKey_keyRecordOf, hrevoke]
      rfl
    exact if_pos hkey
  stored := rfl

lemma keyFresh_of_secure {op : Op} (h : Secure mac store (step mac hex x op)) :
    KeyFresh mac x op := by
  cases op with
  | restart => trivial
  | receive message outcomes =>
    cases message with
    | keyCommand c =>
      intro hrekeys hrevoke m hm
      by_contra htag
      rw [Bool.not_eq_false] at htag
      have hdevice : (step mac hex x (.receive (.keyCommand c) outcomes)).device =
          x.device.rekeyed c := congrArg Prod.fst (receive_keyCommand_of_rekeys hrekeys)
      have hreplay := h.replay m (List.mem_append_left _ hm) ⟨true, true⟩
      rw [hdevice, receive_arm_of_arms (arms_rekeyed hrevoke htag)] at hreplay
      cases hreplay
    | _ => trivial

lemma authentic_of_change {d' : Device} (h : Change mac d outcomes message d' a w) :
    ∀ m ∈ a, ∃ key, d.operator.key = some key ∧ verifyArmTag mac key m = true := by
  cases h with
  | armed hmessage harms =>
    rintro m ⟨⟩
    exact ⟨_, harms.current, harms.tag⟩
  | _ => simp

lemma authentic (x : Traced) (op : Op) : Authentic mac x op := by
  cases op with
  | restart => trivial
  | receive message outcomes => exact authentic_of_change (receive_change x.device outcomes message)

end Safety

/-- **Replay.** In every run of messages, failing writes and restarts: every accepted arm message
verified under the key of the device, and in every state reached no identity is written without its
own arm and no arm message can be accepted again, exactly when no key command of the run installs a
key under which a message accepted before verifies. -/
theorem secure_iff_keyFresh (mac : Key → List UInt8 → Tag) (hex : Option (List UInt8))
    (store : Image) (ops : List Op) :
    Along (step mac hex) (fun x op => Authentic mac x op ∧ Secure mac store (step mac hex x op))
        (start hex store) ops ↔
      Along (step mac hex) (KeyFresh mac) (start hex store) ops := by
  refine along_iff_of_inv (I := Inv mac hex store) (L := fun _ _ => True) ?_ ?_ (inv_start store)
    along_true
  · intro x op hinv _
    refine ⟨fun hsafe => keyFresh_of_secure hsafe.2, fun hfresh => ?_⟩
    exact ⟨authentic x op, secure_of_inv (inv_step hinv hfresh)⟩
  · intro x op hinv _ hsafe
    exact inv_step hinv (keyFresh_of_secure hsafe.2)

/-! ### Rotating back -/

section RotatingBack

variable (mac : Key → List UInt8 → Tag) (hex : Option (List UInt8))

def firstKey : Key := .replicate 32 1
def secondKey : Key := .replicate 32 2

def keyedStore : Image where
  pages := ⟨fun k => List.replicate k.len 0, fun _ => List.length_replicate⟩
  records := ⟨none, none, none, some (.active firstKey 1), none⟩

def wire : WireCommand := ⟨7, 17, .replicate 17 65, 17, .replicate 17 67, 6, .replicate 6 66⟩

/-- The identity that the command spells, in the record it is written to. -/
def wireWritten : Written where
  command := ⟨7, List.replicate 17 65, List.replicate 17 67, List.replicate 6 66⟩
  record := ⟨17, .replicate 17 65, 17, .replicate 17 67, 6, .replicate 6 66⟩

/-- The message that arms it, signed with the first key. -/
def captured : ArmMessage := ⟨wire, 5, armTag mac firstKey wire 5⟩

def rotation (current next : Key) (generation : UInt32) : KeyCommand :=
  ⟨8, 0, generation, false, next, keyCommandTag mac current 8 0 generation false next⟩

def exchange : List Op :=
  [.receive (.arm (captured mac)) ⟨true, true⟩, .receive (.command wire) ⟨true, true⟩]

/-- The exchange, the key rotated away and back, and the same messages once more. -/
def rotatedBack : List Op :=
  exchange mac ++ [.receive (.keyCommand (rotation mac firstKey secondKey 2)) ⟨true, true⟩,
    .receive (.keyCommand (rotation mac secondKey firstKey 3)) ⟨true, true⟩] ++ exchange mac

end RotatingBack

/-- Tags that depend on every byte of the key and of the message. -/
def sampleMac (key : Key) (bytes : List UInt8) : Tag :=
  .ofFn fun i => (key.toList ++ bytes).foldl (fun tag byte => tag * 31 + byte) (UInt8.ofNat i)

/-- The key is rotated away and back, and the same arm message is accepted a second time. -/
theorem captured_accepted_twice :
    (run (step sampleMac none) (start none keyedStore) (rotatedBack sampleMac)).accepted =
        [captured sampleMac, captured sampleMac] ∧
      (run (step sampleMac none) (start none keyedStore) (rotatedBack sampleMac)).written =
        [wireWritten, wireWritten] := by
  decide +kernel

end Pipoco.Provisioning
