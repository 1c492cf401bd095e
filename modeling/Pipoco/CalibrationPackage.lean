import Pipoco.Domain
import Pipoco.ExpertTrigger

/-!
Calibrations, their packages and the wire format of a package.

The runtime uses the active calibration; edits go to the staged one, which counts its revisions. A
package carries both, bound to a firmware build and a hardware target, with a checksum over what it
carries. On the wire it has a header of twenty-eight bytes and one record for each of the two.
-/

namespace Pipoco.Calibrations

open Bytes Domain ExpertTrigger ExpertTriggerCalibration

structure GeometryCalibration where
  expertTrigger : ExpertTriggerCalibration
  deriving DecidableEq

/-- The other domains of a calibration are still empty. -/
structure Calibration where
  geometry : GeometryCalibration
  deriving DecidableEq

def Calibration.default : Calibration := ⟨⟨.default⟩⟩

def Calibration.setExpertTrigger (c : Calibration) (e : ExpertTriggerCalibration) : Calibration :=
  { c with geometry := { c.geometry with expertTrigger := e } }

structure ActiveCalibration where
  revision : UInt32
  calibration : Calibration
  deriving DecidableEq

structure StagedCalibration where
  (baseRevision revision : UInt32)
  dirty : Bool
  calibration : Calibration
  deriving DecidableEq

namespace StagedCalibration

variable (s : StagedCalibration)

def new (baseRevision : UInt32) (calibration : Calibration) : StagedCalibration :=
  ⟨baseRevision, baseRevision, false, calibration⟩

def markDirty : StagedCalibration :=
  { s with dirty := true, revision := satAdd32 s.revision 1 }

def replaceCalibration (calibration : Calibration) : StagedCalibration :=
  if s.calibration ≠ calibration then ({ s with calibration }).markDirty else s

@[simp] lemma calibration_replaceCalibration (c : Calibration) :
    (s.replaceCalibration c).calibration = c := by
  unfold replaceCalibration
  split
  · rfl
  · next h => exact not_not.mp h

end StagedCalibration

structure CalibrationSnapshot where
  active : ActiveCalibration
  staged : StagedCalibration
  deriving DecidableEq

/-! ### The checksum -/

variable (state : UInt32)

def crc32Shift : UInt32 := if state &&& 1 = 1 then (state >>> 1) ^^^ 0xEDB88320 else state >>> 1

def crc32Update (bytes : List UInt8) : UInt32 :=
  bytes.foldl (fun state byte => crc32Shift^[8] (state ^^^ byte.toUInt32)) state

/-- The record, or the fields behind the word `BAD!` if it is not valid. -/
def expertTriggerChecksumRecord (e : ExpertTriggerCalibration) : List UInt8 :=
  match e.encodeRecord (List.replicate recordLen 0) with
  | .ok (_, record) => record
  | .error _ =>
    putAll (List.replicate recordLen 0)
      [(0, [0x42, 0x41, 0x44, 0x21]), (4, le16 e.schemaVersion), (6, [code e.expertUnlock]),
        (7, [code e.authority]), (8, le32 e.profileIdentity), (12, le32 e.profileHash),
        (16, [code e.triggerPattern]), (17, [e.primaryBaseTeeth]), (18, [e.missingTeeth]),
        (19, [code e.primaryTriggerSpeed]), (20, le16 e.triggerAngleAtdcDeg10),
        (22, [e.triggerAngleMultiplier]), (23, [code e.primaryTriggerEdge]),
        (24, [code e.secondaryTriggerEdge]), (25, [code e.secondaryTriggerMode]),
        (26, [code e.pollLevelPolarity]), (27, [code e.triggerFilter]),
        (28, [e.resyncEveryCycle.toUInt8]), (29, [e.skipCycles]), (30, [code e.ignitionMode]),
        (31, [code e.injectionLayout]), (32, [code e.fixedTimingMode]),
        (33, le16 e.fixedTimingDeg10.toUInt16)]

def checksumFromSnapshot (schemaVersion : UInt16) (s : CalibrationSnapshot) (stagedDirty : Bool) :
    UInt32 :=
  ~~~ [le16 schemaVersion, le32 s.active.revision, le32 s.staged.baseRevision, le32 s.staged.revision,
    [stagedDirty.toUInt8, 0, 0, 0],
    expertTriggerChecksumRecord s.active.calibration.geometry.expertTrigger,
    expertTriggerChecksumRecord s.staged.calibration.geometry.expertTrigger].foldl crc32Update
      0xFFFFFFFF

/-! ### Packages -/

/-- The fields are private, and every constructor takes the revision from the active calibration. -/
structure PersistedCalibrationBlob where
  schemaVersion : UInt16
  revision : UInt32
  snapshot : CalibrationSnapshot
  revision_eq : revision = snapshot.active.revision
  deriving DecidableEq

def PersistedCalibrationBlob.new (s : CalibrationSnapshot) : PersistedCalibrationBlob :=
  ⟨currentSchema, s.active.revision, s, rfl⟩

structure CalibrationPackageIdentity where
  schemaVersion : UInt16
  (activeRevision stagedBaseRevision stagedRevision : UInt32)
  stagedDirty : Bool
  checksum : UInt32
  deriving DecidableEq

def CalibrationPackageIdentity.fromBlob (b : PersistedCalibrationBlob) : CalibrationPackageIdentity where
  schemaVersion := b.schemaVersion
  activeRevision := b.snapshot.active.revision
  stagedBaseRevision := b.snapshot.staged.baseRevision
  stagedRevision := b.snapshot.staged.revision
  stagedDirty := b.snapshot.staged.dirty
  checksum := checksumFromSnapshot b.schemaVersion b.snapshot b.snapshot.staged.dirty

/-- The firmware build and the hardware a package is for. -/
structure Target where
  runtimeBuildId : UInt32
  hardwareTargetId : UInt16
  deriving DecidableEq, Repr

structure CalibrationPackageTargetIdentity where
  package : CalibrationPackageIdentity
  target : Target
  deriving DecidableEq

structure PersistedCalibrationPackage where
  blob : PersistedCalibrationBlob
  identity : CalibrationPackageTargetIdentity
  deriving DecidableEq

inductive CalibrationPackageCompatibility
  | compatible
  | schemaVersionMismatch (expected actual : UInt16)
  | runtimeBuildMismatch (expected actual : UInt32)
  | hardwareTargetMismatch (expected actual : UInt16)
  deriving DecidableEq, Repr

def CalibrationPackageTargetIdentity.compatibilityWith (i : CalibrationPackageTargetIdentity)
    (target : Target) : CalibrationPackageCompatibility :=
  if i.package.schemaVersion ≠ currentSchema then
    .schemaVersionMismatch currentSchema i.package.schemaVersion
  else if i.target.runtimeBuildId ≠ target.runtimeBuildId then
    .runtimeBuildMismatch target.runtimeBuildId i.target.runtimeBuildId
  else if i.target.hardwareTargetId ≠ target.hardwareTargetId then
    .hardwareTargetMismatch target.hardwareTargetId i.target.hardwareTargetId
  else .compatible

inductive CalibrationPackageMigrationStatus
  | noMigrationRequired
  | migrationRequired (old new : UInt16)
  deriving DecidableEq, Repr

structure CalibrationPackageReview where
  package : CalibrationPackageTargetIdentity
  compatibility : CalibrationPackageCompatibility
  migration : CalibrationPackageMigrationStatus
  deriving DecidableEq

structure CalibrationPackageCompareResult where
  (current candidate : CalibrationPackageTargetIdentity)
  (schemaChanged checksumChanged runtimeBuildChanged hardwareTargetChanged : Bool)
  (activeRevisionChanged stagedBaseRevisionChanged stagedRevisionChanged stagedDirtyChanged : Bool)
  deriving DecidableEq

inductive CalibrationPackageMigrationResult
  | unchanged (review : CalibrationPackageReview) (package : PersistedCalibrationPackage)
  | migrated (review : CalibrationPackageReview) (package : PersistedCalibrationPackage)
  | rejected (review : CalibrationPackageReview)
  deriving DecidableEq

namespace PersistedCalibrationPackage

variable (p : PersistedCalibrationPackage) (target : Target)

def new (blob : PersistedCalibrationBlob) (target : Target) : PersistedCalibrationPackage where
  blob
  identity := { package := .fromBlob blob, target }

def reviewAgainst : CalibrationPackageReview where
  package := p.identity
  compatibility := p.identity.compatibilityWith target
  migration :=
    if p.identity.package.schemaVersion = currentSchema then .noMigrationRequired
    else .migrationRequired p.identity.package.schemaVersion currentSchema

def compareAgainst (candidate : PersistedCalibrationPackage) : CalibrationPackageCompareResult :=
  let old := p.identity.package
  let new := candidate.identity.package
  { current := p.identity
    candidate := candidate.identity
    schemaChanged := old.schemaVersion != new.schemaVersion
    checksumChanged := old.checksum != new.checksum
    runtimeBuildChanged := p.identity.target.runtimeBuildId != candidate.identity.target.runtimeBuildId
    hardwareTargetChanged :=
      p.identity.target.hardwareTargetId != candidate.identity.target.hardwareTargetId
    activeRevisionChanged := old.activeRevision != new.activeRevision
    stagedBaseRevisionChanged := old.stagedBaseRevision != new.stagedBaseRevision
    stagedRevisionChanged := old.stagedRevision != new.stagedRevision
    stagedDirtyChanged := old.stagedDirty != new.stagedDirty }

def migrateAgainst : CalibrationPackageMigrationResult :=
  let review := p.reviewAgainst target
  if p.identity.target.runtimeBuildId ≠ target.runtimeBuildId ∨
      p.identity.target.hardwareTargetId ≠ target.hardwareTargetId then .rejected review
  else if p.identity.package.schemaVersion = currentSchema then .unchanged review p
  else .migrated review (.new (.new p.blob.snapshot) target)

lemma migrateAgainst_cases :
    (p.identity.target ≠ target ∧ ∃ r, p.migrateAgainst target = .rejected r) ∨
      (p.identity.target = target ∧ ∃ r q, q.blob.snapshot = p.blob.snapshot ∧
        (p.migrateAgainst target = .unchanged r q ∨ p.migrateAgainst target = .migrated r q)) := by
  have htarget : p.identity.target ≠ target ↔
      p.identity.target.runtimeBuildId ≠ target.runtimeBuildId ∨
        p.identity.target.hardwareTargetId ≠ target.hardwareTargetId := by
    rw [Ne, Target.mk.injEq, not_and_or]
  unfold migrateAgainst
  split
  · next h => exact .inl ⟨htarget.mpr h, _, rfl⟩
  · next h =>
    refine .inr ⟨not_not.mp fun hne => h (htarget.mp hne), ?_⟩
    split
    · exact ⟨_, p, rfl, .inl rfl⟩
    · exact ⟨_, .new (.new p.blob.snapshot) target, rfl, .inr rfl⟩

end PersistedCalibrationPackage

/-! ### The wire format -/

inductive CalibrationPackageWireError
  | wrongSize
  | badMagic
  | nonCanonical
  | activeExpertTrigger (e : ExpertTriggerRecordError)
  | stagedExpertTrigger (e : ExpertTriggerRecordError)
  deriving DecidableEq, Repr

/-- The bytes `PCPK`. -/
def wireMagic : List UInt8 := [0x50, 0x43, 0x50, 0x4B]
def wireLen : ℕ := 28 + recordLen * 2
def activeStart : ℕ := 28
def stagedStart : ℕ := activeStart + recordLen

namespace PersistedCalibrationPackage

variable (p : PersistedCalibrationPackage) {n : ℕ}

def headerBlocks : List (ℕ × List UInt8) :=
  [(0, wireMagic), (4, le32 p.identity.target.runtimeBuildId),
    (8, le16 p.identity.target.hardwareTargetId), (10, le16 p.blob.schemaVersion),
    (12, le32 p.blob.snapshot.active.revision), (16, le32 p.blob.snapshot.staged.baseRevision),
    (20, le32 p.blob.snapshot.staged.revision), (24, [p.blob.snapshot.staged.dirty.toUInt8])]

def encodeWire (out : List UInt8) : Except CalibrationPackageWireError (ℕ × List UInt8) :=
  if out.length < wireLen then .error .wrongSize
  else
    let out := putAll (put out 0 (List.replicate wireLen 0)) p.headerBlocks
    match p.blob.snapshot.active.calibration.geometry.expertTrigger.encodeRecord
        (window out activeStart recordLen) with
    | .error e => .error (.activeExpertTrigger e)
    | .ok (_, active) =>
      let out := put out activeStart active
      match p.blob.snapshot.staged.calibration.geometry.expertTrigger.encodeRecord
          (window out stagedStart recordLen) with
      | .error e => .error (.stagedExpertTrigger e)
      | .ok (_, staged) => .ok (wireLen, put out stagedStart staged)

def decodeWire (data : List UInt8) :
    Except CalibrationPackageWireError PersistedCalibrationPackage :=
  if data.length < wireLen then .error .wrongSize
  else if window data 0 4 ≠ wireMagic then .error .badMagic
  else if 1 < byteAt data 24 ∨ byteAt data 25 ≠ 0 ∨ byteAt data 26 ≠ 0 ∨ byteAt data 27 ≠ 0 then
    .error .nonCanonical
  else
    match decodeRecord (window data activeStart recordLen) with
    | .error e => .error (.activeExpertTrigger e)
    | .ok activeExpert =>
      match decodeRecord (window data stagedStart recordLen) with
      | .error e => .error (.stagedExpertTrigger e)
      | .ok stagedExpert =>
        let snapshot : CalibrationSnapshot :=
          { active :=
              { revision := u32 (window data 12 4)
                calibration := Calibration.default.setExpertTrigger activeExpert }
            staged :=
              { baseRevision := u32 (window data 16 4)
                revision := u32 (window data 20 4)
                dirty := byteAt data 24 == 1
                calibration := Calibration.default.setExpertTrigger stagedExpert } }
        .ok (.new ⟨u16 (window data 10 2), u32 (window data 12 4), snapshot, rfl⟩
          ⟨u32 (window data 4 4), u16 (window data 8 2)⟩)

abbrev activeExpert : ExpertTriggerCalibration :=
  p.blob.snapshot.active.calibration.geometry.expertTrigger

abbrev stagedExpert : ExpertTriggerCalibration :=
  p.blob.snapshot.staged.calibration.geometry.expertTrigger

def wireBlocks : List (ℕ × List UInt8) :=
  p.headerBlocks ++ [(activeStart, p.activeExpert.record), (stagedStart, p.stagedExpert.record)]

/-- The header and the two records over zeros. -/
def wire : List UInt8 := putAll (List.replicate wireLen 0) p.wireBlocks

def Valid : Prop := p.activeExpert.validate = .ok () ∧ p.stagedExpert.validate = .ok ()

lemma encodeWire_of_valid {out : List UInt8} (h : p.Valid) (hout : out.length = wireLen) :
    p.encodeWire out = .ok (wireLen, p.wire) := by
  have hzero : put out 0 (List.replicate wireLen 0) = List.replicate wireLen 0 :=
    put_zero_of_length (by rw [List.length_replicate, hout])
  have hroom : ∀ (l : List UInt8) (off : ℕ), l.length = wireLen → off + recordLen ≤ wireLen →
      (window l off recordLen).length = recordLen := fun l off hl hoff => length_window (by omega)
  have hactive := p.activeExpert.encodeRecord_of_length
    (hroom (putAll (List.replicate wireLen 0) p.headerBlocks) activeStart (by simp) (by decide))
  have hstaged := p.stagedExpert.encodeRecord_of_length
    (hroom (put (putAll (List.replicate wireLen 0) p.headerBlocks) activeStart p.activeExpert.record)
      stagedStart (by simp) (by decide))
  rw [h.1] at hactive
  rw [h.2] at hstaged
  simp only [encodeWire, if_neg hout.not_lt, hzero, hactive, hstaged, wire, wireBlocks, putAll_append,
    putAll_cons, putAll_nil]

lemma layout_wire : Layout (List.replicate wireLen (0 : UInt8)).length p.wireBlocks := by
  rw [List.length_replicate]
  refine Ascends.layout ?_
  simp only [wireBlocks, headerBlocks, List.cons_append, List.nil_append, Ascends, length_le16,
    length_le32, length_record, wireMagic, List.length_cons, List.length_nil, activeStart,
    stagedStart, recordLen, wireLen]
  omega

/-- The bytes between the header and the records. -/
lemma clear_wireBlocks_iff {i : ℕ} (hi : i < wireLen) :
    (∀ b ∈ p.wireBlocks, Clear b.1 b.2.length i 1) ↔ 25 ≤ i ∧ i < 28 := by
  simp only [wireBlocks, headerBlocks, List.cons_append, List.nil_append, List.forall_mem_cons,
    length_le16, length_le32, length_record, List.not_mem_nil, false_implies, implies_true, and_true,
    wireMagic, List.length_cons, List.length_nil, activeStart, stagedStart, recordLen, wireLen,
    Clear] at hi ⊢
  omega

lemma decodeWire_wire {b : PersistedCalibrationBlob} {target : Target}
    (hvalid : (PersistedCalibrationPackage.new b target).Valid) :
    decodeWire (PersistedCalibrationPackage.new b target).wire = .ok (.new b target) := by
  obtain ⟨schema, revision, snapshot, rfl⟩ := b
  set p := PersistedCalibrationPackage.new ⟨schema, _, snapshot, rfl⟩ target with hp
  have hl := p.layout_wire
  have hsize : ¬ p.wire.length < wireLen := by rw [wire, length_putAll, List.length_replicate]; omega
  have hmagic : window p.wire 0 4 = wireMagic :=
    window_putAll_of_length hl (List.mem_of_getElem? (i := 0) rfl) rfl
  have hactive : window p.wire activeStart recordLen = p.activeExpert.record :=
    window_putAll_of_length hl (List.mem_of_getElem? (i := 8) rfl) (length_record _)
  have hstaged : window p.wire stagedStart recordLen = p.stagedExpert.record :=
    window_putAll_of_length hl (List.mem_of_getElem? (i := 9) rfl) (length_record _)
  have hdirty : byteAt p.wire 24 = snapshot.staged.dirty.toUInt8 := byteAt_putAll hl 7 rfl
  have hpad (i : ℕ) (hlo : 25 ≤ i) (hhi : i < 28) : byteAt p.wire i = 0 :=
    have hlt : i < wireLen := hhi.trans (by decide)
    byteAt_zeroed hlt ((p.clear_wireBlocks_iff hlt).mpr ⟨hlo, hhi⟩)
  have hbool : ¬ 1 < snapshot.staged.dirty.toUInt8 ∧
      (snapshot.staged.dirty.toUInt8 == 1) = snapshot.staged.dirty := by
    cases snapshot.staged.dirty <;> decide
  rw [decodeWire, if_neg hsize, if_neg (not_not.mpr hmagic), if_neg (by simp [hdirty, hbool.1, hpad]),
    hactive, hstaged, decodeRecord_record hvalid.1, decodeRecord_record hvalid.2, hdirty, hbool.2]
  simp only [wire, u32_putAll hl 1 rfl, u16_putAll hl 2 rfl, u16_putAll hl 3 rfl,
    u32_putAll hl 4 rfl, u32_putAll hl 5 rfl, u32_putAll hl 6 rfl]
  rfl

variable {p} in
lemma wire_of_decodeWire {data : List UInt8} (hlen : data.length = wireLen)
    (h : decodeWire data = .ok p) : p.Valid ∧ p.wire = data := by
  unfold decodeWire at h
  split_ifs at h with hshort hmagic hpad
  split at h
  · cases h
  · next active hactive =>
    split at h
    · cases h
    · next staged hstaged =>
      cases h
      have hroom {off n : ℕ} (hn : off + n ≤ 124) : (window data off n).length = n :=
        length_window (by rwa [hlen])
      refine ⟨⟨(decodeRecord_eq_ok.mp hactive).2.2.2, (decodeRecord_eq_ok.mp hstaged).2.2.2⟩, ?_⟩
      simp only [not_or, not_not] at hmagic hpad
      have hbool : (byteAt data 24 == 1).toUInt8 = byteAt data 24 := by
        rcases eq_zero_or_one hpad.1 with hb | hb <;> rw [hb] <;> rfl
      have ha := record_of_decodeRecord (hroom (by decide)) hactive
      have hs := record_of_decodeRecord (hroom (by decide)) hstaged
      refine putAll_eq (by rw [hlen, List.length_replicate]) ?_ fun i hi => ?_
      · simp [wireBlocks, headerBlocks, new, Calibration.setExpertTrigger, ha, hs, hmagic, hbool, hroom,
          le16_u16, le32_u32, window_one, hlen, wireMagic, activeStart, stagedStart, recordLen, wireLen]
      · rw [List.getElem?_replicate]
        split
        · next hlt =>
          have hi := (clear_wireBlocks_iff _ hlt).mp hi
          obtain rfl | rfl | rfl : i = 25 ∨ i = 26 ∨ i = 27 := by omega
          all_goals rw [getElem?_eq_byteAt (hlen ▸ hlt)]; simp [hpad]
        · next hge => rw [List.getElem?_eq_none (hlen ▸ not_lt.mp hge)]

/-- **The wire format is lossless and canonical.** -/
theorem wire_lossless_canonical :
    (∀ b target out, (PersistedCalibrationPackage.new b target).Valid → out.length = wireLen →
      ∃ buf, (PersistedCalibrationPackage.new b target).encodeWire out = .ok (wireLen, buf) ∧
        decodeWire buf = .ok (.new b target)) ∧
    (∀ data p out, data.length = wireLen → out.length = wireLen → decodeWire data = .ok p →
      p.encodeWire out = .ok (wireLen, data) ∧ p.Valid) ∧
    ∀ data data' p, data.length = wireLen → data'.length = wireLen →
      decodeWire data = .ok p → decodeWire data' = .ok p → data = data' := by
  refine ⟨fun b target out hvalid hout => ?_, fun data p out hlen hout h => ?_,
    fun data data' p hlen hlen' h h' => ?_⟩
  · exact ⟨_, encodeWire_of_valid _ hvalid hout, decodeWire_wire hvalid⟩
  · obtain ⟨hvalid, hwire⟩ := wire_of_decodeWire hlen h
    exact ⟨hwire ▸ p.encodeWire_of_valid hvalid hout, hvalid⟩
  · exact (wire_of_decodeWire hlen h).2.symm.trans (wire_of_decodeWire hlen' h').2

/-- The default calibration, marked as edited. -/
theorem wire_lossless_canonical_default :
    let p := PersistedCalibrationPackage.new
      (.new ⟨⟨7, .default⟩, (StagedCalibration.new 7 .default).markDirty⟩) ⟨1, 2⟩
    p.Valid ∧ ∃ buf, p.encodeWire (List.replicate wireLen 0) = .ok (wireLen, buf) ∧
      decodeWire buf = .ok p := by
  intro p
  have hvalid : p.Valid := by constructor <;> decide
  exact ⟨hvalid, wire_lossless_canonical.1 _ _ _ hvalid List.length_replicate⟩

end PersistedCalibrationPackage

end Pipoco.Calibrations
