import Pipoco.ArmReplay

/-!
Generations of the provisioning key.

Arm messages, key commands and restarts all rebuild the key record or the memory from it. Once there
is a record, memory holds the key that the record gives out; a revoked record gives out none, and
without a key nothing is accepted that could replace it.
-/

namespace Pipoco.Provisioning

open Bytes Kv SideRecords StmStore Runs OperatorArm

def keyAccepted (message : Message) (response : Option Message) : Bool :=
  match message, response with
  | .keyCommand _, some (.keyAudit audit) => audit.accepted
  | _, _ => false

variable (mac : Key → List UInt8 → Tag) (hex : Option (List UInt8)) (x : Traced) {d d' : Device}
  {outcomes : Outcomes} {message : Message} {c : KeyCommand} {a : Option ArmMessage}
  {w : Option Written}

/-- The step accepts no arm message and no key command. -/
def Silent : Op → Prop
  | .receive message outcomes =>
    let response := (receive mac x.device outcomes message).2
    acceptedBy message response = none ∧ keyAccepted message response = false
  | .restart => True

/-- **No rollback.** The generation of the record does not fall, and rises with an accepted key
command; memory holds the key that a restart would load; and nothing is accepted after a
revocation. -/
structure NoRollback (op : Op) : Prop where
  kept : ∀ r ∈ x.device.store.records.key,
    ∃ r' ∈ (step mac hex x op).device.store.records.key, r.generation ≤ r'.generation
  raised : ∀ c outcomes, op = .receive (.keyCommand c) outcomes →
    keyAccepted (.keyCommand c) (receive mac x.device outcomes (.keyCommand c)).2 = true →
    ∃ r' ∈ (step mac hex x op).device.store.records.key,
      ∀ r ∈ x.device.store.records.key, r.generation < r'.generation
  memory : (step mac hex x op).device.store.records.key.isSome = true →
    (step mac hex x op).device.operator.key =
      (boot hex (step mac hex x op).device.store).operator.key
  revoked : ∀ c outcomes, op = .receive (.keyCommand c) outcomes → c.revoke = true →
    keyAccepted (.keyCommand c) (receive mac x.device outcomes (.keyCommand c)).2 = true →
    ∀ later, Along (step mac hex) (Silent mac) (step mac hex x op) later

/-- Memory holds the key of the record. -/
def Agrees (d : Device) : Prop := ∀ r ∈ d.store.records.key, d.operator.key = r.activeKey

structure Revoked (d : Device) : Prop where
  memory : d.operator.key = none
  record : ∃ r ∈ d.store.records.key, r.activeKey = none

variable {mac hex x}

lemma keyAccepted_iff :
    keyAccepted (.keyCommand c) (receive mac d outcomes (.keyCommand c)).2 = true ↔
      Rekeys mac d outcomes c := by
  refine ⟨fun h => ?_, fun h => by rw [receive_keyCommand_of_rekeys h]; rfl⟩
  by_contra hnot
  obtain ⟨audit, hrejected, hreceive⟩ := receive_keyCommand_of_not_rekeys hnot
  rw [hreceive, persistKeyAuditOrReturnVolatileResponse] at h
  split at h <;> exact nomatch hrejected.symm.trans h

/-! ### Steps -/

lemma generation_keyRecordOf (c : KeyCommand) : (keyRecordOf c).generation = c.generation := by
  unfold keyRecordOf
  split <;> rfl

lemma Rekeys.generation (h : Rekeys mac d outcomes c) :
    ∀ r ∈ d.store.records.key, r.generation < (keyRecordOf c).generation := by
  intro r hr
  have hlt := h.2.1
  rwa [Option.mem_def.mp hr, ← generation_keyRecordOf c] at hlt

lemma Change.kept (h : Change mac d outcomes message d' a w) :
    ∀ r ∈ d.store.records.key, ∃ r' ∈ d'.store.records.key, r.generation ≤ r'.generation := by
  intro r hr
  cases h with
  | quiet hoperator hkey hidentity => exact ⟨r, hkey ▸ hr, UInt32.le_refl _⟩
  | used harmed hkey hidentity hw => exact ⟨r, hkey ▸ hr, UInt32.le_refl _⟩
  | rekeyed hmessage h => exact ⟨_, rfl, UInt32.le_of_lt (h.generation r hr)⟩
  | @armed m key record hmessage h =>
    refine ⟨_, rfl, ?_⟩
    have hrecord := h.record
    rw [Option.mem_def.mp hr, armedRecord] at hrecord
    split at hrecord <;> cases hrecord
    exact UInt32.le_refl _

lemma Change.agrees (h : Change mac d outcomes message d' a w) (hd : Agrees d) : Agrees d' := by
  cases h with
  | quiet hoperator hkey hidentity => simpa only [Agrees, hoperator, hkey] using hd
  | used harmed hkey hidentity hw => simpa only [Agrees, hkey] using hd
  | armed hmessage h =>
    rintro _ ⟨⟩
    exact h.current.trans (activeKey_of_armedRecord h.record).symm
  | rekeyed hmessage h =>
    rintro _ ⟨⟩
    exact (activeKey_keyRecordOf _).symm

lemma agrees_boot (store : Image) : Agrees (boot hex store) := fun r hr =>
  congrArg OperatorArm.key (boot_operator_of_key r (show store.records.key = some r from hr))

lemma Agrees.memory (h : Agrees d) (hd : d.store.records.key.isSome = true) :
    d.operator.key = (boot hex d.store).operator.key := by
  obtain ⟨r, hr⟩ := Option.isSome_iff_exists.mp hd
  rw [h r hr, boot_operator_of_key r hr]

lemma agrees_step (op : Op) (h : Agrees x.device) : Agrees (step mac hex x op).device := by
  cases op with
  | receive message outcomes => exact (receive_change x.device outcomes message).agrees h
  | restart => exact agrees_boot _

/-! ### After a revocation -/

lemma Revoked.not_rekeys (h : Revoked d) : ¬ Rekeys mac d outcomes c := by
  simp [Rekeys, h.memory]

lemma Revoked.change (hd : Revoked d) (h : Change mac d outcomes message d' a w) :
    Revoked d' ∧ a = none := by
  cases h with
  | quiet hoperator hkey hidentity => exact ⟨⟨hoperator ▸ hd.memory, hkey ▸ hd.record⟩, rfl⟩
  | used harmed hkey hidentity hw => exact ⟨⟨hd.memory, hkey ▸ hd.record⟩, rfl⟩
  | armed hmessage h => exact nomatch hd.memory.symm.trans h.current
  | rekeyed hmessage h => exact absurd h hd.not_rekeys

lemma Revoked.silent (op : Op) (h : Revoked x.device) : Silent mac x op := by
  cases op with
  | restart => trivial
  | receive message outcomes =>
    refine ⟨(h.change (receive_change x.device outcomes message)).2, ?_⟩
    cases message with
    | keyCommand c => exact Bool.eq_false_iff.mpr (mt keyAccepted_iff.mp h.not_rekeys)
    | _ => rfl

lemma Revoked.step (op : Op) (h : Revoked x.device) : Revoked (step mac hex x op).device := by
  cases op with
  | receive message outcomes => exact (h.change (receive_change x.device outcomes message)).1
  | restart =>
    obtain ⟨r, hr, hnone⟩ := h.record
    exact ⟨(congrArg OperatorArm.key (boot_operator_of_key r hr)).trans hnone, r, hr, hnone⟩

lemma revoked_rekeyed (h : c.revoke = true) : Revoked (d.rekeyed c) :=
  ⟨by rw [Device.rekeyed, h]; rfl, _, rfl, by rw [activeKey_keyRecordOf, h]; rfl⟩

lemma noRollback_step (op : Op) (h : Agrees x.device) : NoRollback mac hex x op where
  kept := by
    cases op with
    | receive message outcomes => exact (receive_change x.device outcomes message).kept
    | restart => exact fun r hr => ⟨r, hr, UInt32.le_refl _⟩
  raised := by
    rintro c outcomes rfl hc
    have hrekeys := keyAccepted_iff.mp hc
    refine ⟨keyRecordOf c, ?_, hrekeys.generation⟩
    show keyRecordOf c ∈ (receive mac x.device outcomes (.keyCommand c)).1.store.records.key
    rw [receive_keyCommand_of_rekeys hrekeys]
    rfl
  memory := (agrees_step op h).memory
  revoked := by
    rintro c outcomes rfl hrevoke hc later
    have hdevice : (step mac hex x (.receive (.keyCommand c) outcomes)).device =
        x.device.rekeyed c :=
      congrArg Prod.fst (receive_keyCommand_of_rekeys (keyAccepted_iff.mp hc))
    refine along_of_inv (I := fun x => Revoked x.device) (fun x op h _ => h.silent op)
      (fun x op h _ => h.step op) ?_ along_true
    exact hdevice ▸ revoked_rekeyed hrevoke

/-- **Generations only rise.** In every run of messages, failing writes and restarts, from every
store and with every key built in. -/
theorem keys_never_roll_back (mac : Key → List UInt8 → Tag) (hex : Option (List UInt8))
    (store : Image) (ops : List Op) :
    Along (step mac hex) (NoRollback mac hex) (start hex store) ops :=
  along_of_inv (I := fun x => Agrees x.device) (fun _ op h _ => noRollback_step op h)
    (fun _ op h _ => agrees_step op h) (agrees_boot store) along_true

end Pipoco.Provisioning
