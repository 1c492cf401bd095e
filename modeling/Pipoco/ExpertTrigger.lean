import Pipoco.Bytes

/-!
The expert trigger calibration.

One record describes the trigger wheel, its edges and where the authority over engine time comes
from. It is checked on its own and, when it replaces another one, against that one: certified
authority is not taken up from a record without it, is not exchanged for another certified record,
and is given up only with the expert unlock. On the wire it has forty-eight bytes at fixed offsets.
-/

namespace Pipoco.ExpertTrigger

open Bytes

/-! ### Enumerations -/

/-- An enumeration with a code for each variant, as the macro `code_enum!` makes it. -/
class CodeEnum (α : Type) where
  variants : List α
  code : α → UInt8
  find_code : ∀ a, variants.find? (fun v => code v == code a) = some a

export CodeEnum (code)

def fromCode {α : Type} [CodeEnum α] (c : UInt8) : Option α :=
  (CodeEnum.variants : List α).find? fun v => code v == c

@[simp] lemma fromCode_code {α : Type} [CodeEnum α] (a : α) : fromCode (code a) = some a :=
  CodeEnum.find_code a

inductive ExpertUnlock
  | locked | unlocked
  deriving DecidableEq, Repr

instance : CodeEnum ExpertUnlock where
  variants := [.locked, .unlocked]
  code
    | .locked => 0
    | .unlocked => 1
  find_code a := by cases a <;> rfl

inductive TriggerAuthority
  | none | expertManual | communityProfile | certifiedProfile | benchLearned
  deriving DecidableEq, Repr

instance : CodeEnum TriggerAuthority where
  variants := [.none, .expertManual, .communityProfile, .certifiedProfile, .benchLearned]
  code
    | .none => 0
    | .expertManual => 1
    | .communityProfile => 2
    | .certifiedProfile => 3
    | .benchLearned => 4
  find_code a := by cases a <;> rfl

inductive TriggerPattern
  | missingTooth | basicDistributor | dualWheel | nonUniform
  deriving DecidableEq, Repr

instance : CodeEnum TriggerPattern where
  variants := [.missingTooth, .basicDistributor, .dualWheel, .nonUniform]
  code
    | .missingTooth => 0
    | .basicDistributor => 1
    | .dualWheel => 2
    | .nonUniform => 3
  find_code a := by cases a <;> rfl

inductive PrimaryTriggerSpeed
  | crank | cam
  deriving DecidableEq, Repr

instance : CodeEnum PrimaryTriggerSpeed where
  variants := [.crank, .cam]
  code
    | .crank => 0
    | .cam => 1
  find_code a := by cases a <;> rfl

inductive TriggerEdge
  | rising | falling
  deriving DecidableEq, Repr

instance : CodeEnum TriggerEdge where
  variants := [.rising, .falling]
  code
    | .rising => 0
    | .falling => 1
  find_code a := by cases a <;> rfl

inductive SecondaryTriggerMode
  | none | singleToothCam | fourMinusOneCam | pollLevel | multiToothCam | oemPattern
  deriving DecidableEq, Repr

instance : CodeEnum SecondaryTriggerMode where
  variants := [.none, .singleToothCam, .fourMinusOneCam, .pollLevel, .multiToothCam, .oemPattern]
  code
    | .none => 0
    | .singleToothCam => 1
    | .fourMinusOneCam => 2
    | .pollLevel => 3
    | .multiToothCam => 4
    | .oemPattern => 5
  find_code a := by cases a <;> rfl

inductive PollLevelPolarity
  | low | high
  deriving DecidableEq, Repr

instance : CodeEnum PollLevelPolarity where
  variants := [.low, .high]
  code
    | .low => 0
    | .high => 1
  find_code a := by cases a <;> rfl

inductive TriggerFilter
  | off | weak | medium | aggressive
  deriving DecidableEq, Repr

instance : CodeEnum TriggerFilter where
  variants := [.off, .weak, .medium, .aggressive]
  code
    | .off => 0
    | .weak => 1
    | .medium => 2
    | .aggressive => 3
  find_code a := by cases a <;> rfl

inductive ExpertIgnitionMode
  | singleCoil | wastedSpark | wastedCop | sequentialCop
  deriving DecidableEq, Repr

instance : CodeEnum ExpertIgnitionMode where
  variants := [.singleCoil, .wastedSpark, .wastedCop, .sequentialCop]
  code
    | .singleCoil => 0
    | .wastedSpark => 1
    | .wastedCop => 2
    | .sequentialCop => 3
  find_code a := by cases a <;> rfl

inductive ExpertInjectionLayout
  | batch | paired | semiSequential | banked | sequential
  deriving DecidableEq, Repr

instance : CodeEnum ExpertInjectionLayout where
  variants := [.batch, .paired, .semiSequential, .banked, .sequential]
  code
    | .batch => 0
    | .paired => 1
    | .semiSequential => 2
    | .banked => 3
    | .sequential => 4
  find_code a := by cases a <;> rfl

inductive FixedTimingMode
  | table | fixed
  deriving DecidableEq, Repr

instance : CodeEnum FixedTimingMode where
  variants := [.table, .fixed]
  code
    | .table => 0
    | .fixed => 1
  find_code a := by cases a <;> rfl

/-! ### The record -/

def recordLen : ℕ := 48

def currentSchema : UInt16 := 1

structure ExpertTriggerCalibration where
  schemaVersion : UInt16
  expertUnlock : ExpertUnlock
  authority : TriggerAuthority
  (profileIdentity profileHash : UInt32)
  triggerPattern : TriggerPattern
  (primaryBaseTeeth missingTeeth : UInt8)
  primaryTriggerSpeed : PrimaryTriggerSpeed
  triggerAngleAtdcDeg10 : UInt16
  triggerAngleMultiplier : UInt8
  (primaryTriggerEdge secondaryTriggerEdge : TriggerEdge)
  secondaryTriggerMode : SecondaryTriggerMode
  pollLevelPolarity : PollLevelPolarity
  triggerFilter : TriggerFilter
  resyncEveryCycle : Bool
  skipCycles : UInt8
  ignitionMode : ExpertIgnitionMode
  injectionLayout : ExpertInjectionLayout
  fixedTimingMode : FixedTimingMode
  fixedTimingDeg10 : Int16
  deriving DecidableEq

namespace ExpertTriggerCalibration

def default : ExpertTriggerCalibration where
  schemaVersion := currentSchema
  expertUnlock := .locked
  authority := .none
  profileIdentity := 0
  profileHash := 0
  triggerPattern := .missingTooth
  primaryBaseTeeth := 60
  missingTeeth := 2
  primaryTriggerSpeed := .crank
  triggerAngleAtdcDeg10 := 0
  triggerAngleMultiplier := 1
  primaryTriggerEdge := .rising
  secondaryTriggerEdge := .rising
  secondaryTriggerMode := .none
  pollLevelPolarity := .low
  triggerFilter := .medium
  resyncEveryCycle := false
  skipCycles := 2
  ignitionMode := .wastedSpark
  injectionLayout := .paired
  fixedTimingMode := .table
  fixedTimingDeg10 := 100

/-- The authority comes from a certified profile. -/
def Certified (c : ExpertTriggerCalibration) : Prop := c.authority = .certifiedProfile

instance (c : ExpertTriggerCalibration) : Decidable c.Certified :=
  inferInstanceAs (Decidable (_ = _))

end ExpertTriggerCalibration

/-! ### Validation -/

variable (data : List UInt8)

inductive ExpertTriggerValidationError
  | schemaVersionMismatch
  | expertUnlockRequired
  | certifiedProfileRequiresTrustedPath
  | certifiedProfileIdentityRequired
  | certifiedProfileMustStayLocked
  | certifiedProfileOverwrite
  | invalidPrimaryBaseTeeth
  | invalidMissingTeeth
  | missingTeethOnlyForMissingTooth
  | invalidTriggerAngle
  | invalidTriggerAngleMultiplier
  | secondaryRequired
  | invalidSkipCycles
  | invalidFixedTiming
  deriving DecidableEq, Repr

inductive ExpertTriggerRecordError
  | wrongSize
  | invalidEnum
  | nonCanonicalRecord
  | invalidCalibration (e : ExpertTriggerValidationError)
  deriving DecidableEq, Repr

namespace ExpertTriggerCalibration

variable (c : ExpertTriggerCalibration)

def validate : Except ExpertTriggerValidationError Unit :=
  if c.schemaVersion ≠ currentSchema then .error .schemaVersionMismatch
  else if c.authority = .expertManual ∧ c.expertUnlock ≠ .unlocked then .error .expertUnlockRequired
  else if c.authority = .certifiedProfile ∧ (c.profileIdentity = 0 ∨ c.profileHash = 0) then
    .error .certifiedProfileIdentityRequired
  else if c.authority = .certifiedProfile ∧ c.expertUnlock ≠ .locked then
    .error .certifiedProfileMustStayLocked
  else if c.primaryBaseTeeth = 0 then .error .invalidPrimaryBaseTeeth
  else if c.triggerPattern = .missingTooth ∧
      (c.primaryBaseTeeth < 2 ∨ c.missingTeeth = 0 ∨ c.primaryBaseTeeth ≤ c.missingTeeth) then
    .error .invalidMissingTeeth
  else if c.triggerPattern ≠ .missingTooth ∧ c.missingTeeth ≠ 0 then
    .error .missingTeethOnlyForMissingTooth
  else if 7200 < c.triggerAngleAtdcDeg10 then .error .invalidTriggerAngle
  else if c.triggerAngleMultiplier = 0 ∨ 8 < c.triggerAngleMultiplier then
    .error .invalidTriggerAngleMultiplier
  else if c.resyncEveryCycle ∧ c.secondaryTriggerMode = .none then .error .secondaryRequired
  else if (c.ignitionMode = .sequentialCop ∨ c.injectionLayout = .sequential) ∧
      c.secondaryTriggerMode = .none then .error .secondaryRequired
  else if 16 < c.skipCycles then .error .invalidSkipCycles
  else if c.fixedTimingMode = .fixed ∧ ¬ (-100 ≤ c.fixedTimingDeg10 ∧ c.fixedTimingDeg10 ≤ 600) then
    .error .invalidFixedTiming
  else .ok ()

def validateTransitionFrom (current : ExpertTriggerCalibration) :
    Except ExpertTriggerValidationError Unit :=
  match c.validate with
  | .error e => .error e
  | .ok () =>
    if c.authority = .certifiedProfile ∧ current.authority ≠ .certifiedProfile then
      .error .certifiedProfileRequiresTrustedPath
    else if current.authority = .certifiedProfile ∧ c.authority = .certifiedProfile ∧ c ≠ current then
      .error .certifiedProfileOverwrite
    else if current.authority = .certifiedProfile ∧ c.authority ≠ .certifiedProfile ∧
        c.expertUnlock ≠ .unlocked then
      .error .expertUnlockRequired
    else .ok ()

/-- What may take the place of a certified record: itself, or an uncertified one with the expert
unlock. -/
def Succeeds (current : ExpertTriggerCalibration) : Prop :=
  c = current ∨ ¬ c.Certified ∧ c.expertUnlock = .unlocked
  deriving Decidable

variable {c} in
/-- A transition takes up no certified authority and gives it up only with the unlock. -/
lemma of_validateTransitionFrom {current : ExpertTriggerCalibration}
    (h : c.validateTransitionFrom current = .ok ()) :
    (¬ current.Certified → ¬ c.Certified) ∧ (current.Certified → c.Succeeds current) := by
  unfold validateTransitionFrom at h
  split at h
  · cases h
  · split at h
    · cases h
    · next htrusted =>
      split at h
      · cases h
      · next hover =>
        split at h
        · cases h
        · next hunlock =>
          refine ⟨fun hcur hc => htrusted ⟨hc, hcur⟩, fun hcur => ?_⟩
          by_cases hc : c.Certified
          · refine .inl ?_
            by_contra hne
            exact hover ⟨hcur, hc, hne⟩
          · refine .inr ⟨hc, ?_⟩
            by_contra hlocked
            exact hunlock ⟨hcur, hc, hlocked⟩

/-! ### The record on the wire -/

def recordBlocks : List (ℕ × List UInt8) :=
  [(0, le16 c.schemaVersion), (2, [code c.expertUnlock]), (3, [code c.authority]),
    (4, le32 c.profileIdentity), (8, le32 c.profileHash), (12, [code c.triggerPattern]),
    (13, [c.primaryBaseTeeth]), (14, [c.missingTeeth]), (15, [code c.primaryTriggerSpeed]),
    (16, le16 c.triggerAngleAtdcDeg10), (18, [c.triggerAngleMultiplier]),
    (19, [code c.primaryTriggerEdge]), (20, [code c.secondaryTriggerEdge]),
    (21, [code c.secondaryTriggerMode]), (22, [code c.pollLevelPolarity]),
    (23, [code c.triggerFilter]), (24, [c.resyncEveryCycle.toUInt8]), (25, [c.skipCycles]),
    (26, [code c.ignitionMode]), (27, [code c.injectionLayout]), (28, [code c.fixedTimingMode]),
    (30, le16 c.fixedTimingDeg10.toUInt16)]

def encodeRecord (out : List UInt8) : Except ExpertTriggerRecordError (ℕ × List UInt8) :=
  match c.validate with
  | .error e => .error (.invalidCalibration e)
  | .ok () =>
    if out.length < recordLen then .error .wrongSize
    else .ok (recordLen, putAll (put out 0 (List.replicate recordLen 0)) c.recordBlocks)

/-- The record as a buffer of its own. -/
def record : List UInt8 := putAll (List.replicate recordLen 0) c.recordBlocks

end ExpertTriggerCalibration

def reservedBytes : List ℕ := [29, 32, 33, 34, 35, 36, 37, 38, 39, 40, 41, 42, 43, 44, 45, 46, 47]

def enumAt (α : Type) [CodeEnum α] (data : List UInt8) (i : ℕ) :
    Except ExpertTriggerRecordError α :=
  match fromCode (byteAt data i) with
  | some a => .ok a
  | none => .error .invalidEnum

def decodeFields : Except ExpertTriggerRecordError ExpertTriggerCalibration := do
  let expertUnlock ← enumAt ExpertUnlock data 2
  let authority ← enumAt TriggerAuthority data 3
  let triggerPattern ← enumAt TriggerPattern data 12
  let primaryTriggerSpeed ← enumAt PrimaryTriggerSpeed data 15
  let primaryTriggerEdge ← enumAt TriggerEdge data 19
  let secondaryTriggerEdge ← enumAt TriggerEdge data 20
  let secondaryTriggerMode ← enumAt SecondaryTriggerMode data 21
  let pollLevelPolarity ← enumAt PollLevelPolarity data 22
  let triggerFilter ← enumAt TriggerFilter data 23
  let ignitionMode ← enumAt ExpertIgnitionMode data 26
  let injectionLayout ← enumAt ExpertInjectionLayout data 27
  let fixedTimingMode ← enumAt FixedTimingMode data 28
  .ok
    { schemaVersion := u16 (window data 0 2)
      expertUnlock
      authority
      profileIdentity := u32 (window data 4 4)
      profileHash := u32 (window data 8 4)
      triggerPattern
      primaryBaseTeeth := byteAt data 13
      missingTeeth := byteAt data 14
      primaryTriggerSpeed
      triggerAngleAtdcDeg10 := u16 (window data 16 2)
      triggerAngleMultiplier := byteAt data 18
      primaryTriggerEdge
      secondaryTriggerEdge
      secondaryTriggerMode
      pollLevelPolarity
      triggerFilter
      resyncEveryCycle := byteAt data 24 != 0
      skipCycles := byteAt data 25
      ignitionMode
      injectionLayout
      fixedTimingMode
      fixedTimingDeg10 := (u16 (window data 30 2)).toInt16 }

def decodeRecord : Except ExpertTriggerRecordError ExpertTriggerCalibration :=
  if data.length < recordLen then .error .wrongSize
  else if 1 < byteAt data 24 then .error .nonCanonicalRecord
  else if reservedBytes.any fun i => byteAt data i != 0 then .error .nonCanonicalRecord
  else
    match decodeFields data with
    | .error e => .error e
    | .ok record =>
      match record.validate with
      | .error e => .error (.invalidCalibration e)
      | .ok () => .ok record

/-! ### Reading and writing records -/

lemma fromCode_eq_some {α : Type} [CodeEnum α] {k : UInt8} {a : α} :
    fromCode k = some a ↔ code a = k :=
  ⟨fun h => eq_of_beq (List.find?_some h :), fun h => h ▸ fromCode_code a⟩

lemma bind_eq_ok {ε α β : Type} {x : Except ε α} {f : α → Except ε β} {b : β} :
    x >>= f = .ok b ↔ ∃ a, x = .ok a ∧ f a = .ok b := by
  cases x <;> simp [bind, Except.bind]

variable {data} {c : ExpertTriggerCalibration}

lemma enumAt_eq_ok {α : Type} [CodeEnum α] {i : ℕ} {a : α} :
    enumAt α data i = .ok a ↔ code a = byteAt data i := by
  rw [enumAt, ← fromCode_eq_some]
  split <;> simp_all

/-- The flag is 0 or 1 and the reserved bytes are zero. -/
def Canonical (data : List UInt8) : Prop :=
  ¬ 1 < byteAt data 24 ∧ ∀ i ∈ reservedBytes, byteAt data i = 0
  deriving Decidable

lemma decodeRecord_eq_ok : decodeRecord data = .ok c ↔
    recordLen ≤ data.length ∧ Canonical data ∧ decodeFields data = .ok c ∧ c.validate = .ok () := by
  have hany : (reservedBytes.any fun i => byteAt data i != 0) = true ↔
      ¬ ∀ i ∈ reservedBytes, byteAt data i = 0 := by simp
  unfold decodeRecord
  constructor
  · intro h
    split_ifs at h with hshort hresync hreserved
    split at h
    · cases h
    · next hfields =>
      split at h
      · cases h
      · next hvalid =>
        cases h
        exact ⟨not_lt.mp hshort, ⟨hresync, not_not.mp (hany.not.mp hreserved)⟩, hfields, hvalid⟩
  · rintro ⟨hlen, ⟨hresync, hreserved⟩, hfields, hvalid⟩
    rw [if_neg hlen.not_gt, if_neg hresync, if_neg (hany.not.mpr (not_not.mpr hreserved)), hfields]
    simp only [hvalid]

namespace ExpertTriggerCalibration

variable (c)

lemma layout_recordBlocks : Layout (List.replicate recordLen (0 : UInt8)).length c.recordBlocks := by
  rw [List.length_replicate, recordLen]
  refine Ascends.layout ?_
  simp only [recordBlocks, Ascends, length_le16, length_le32, List.length_singleton]
  omega

@[simp] lemma length_record : c.record.length = recordLen := by
  rw [record, length_putAll, List.length_replicate]

lemma encodeRecord_of_length {out : List UInt8} (hout : out.length = recordLen) :
    c.encodeRecord out = match c.validate with
      | .error e => .error (.invalidCalibration e)
      | .ok () => .ok (recordLen, c.record) := by
  rw [encodeRecord, if_neg hout.not_lt, put_zero_of_length (by rw [List.length_replicate, hout])]
  rfl

/-- The bytes the blocks leave out are the reserved ones. -/
lemma mem_reservedBytes_iff {i : ℕ} (hi : i < recordLen) :
    (∀ b ∈ c.recordBlocks, Clear b.1 b.2.length i 1) ↔ i ∈ reservedBytes := by
  have hmem : ∀ i < 48, i ∈ reservedBytes ↔ i = 29 ∨ 32 ≤ i := by decide
  rw [hmem i hi]
  simp only [recordBlocks, List.forall_mem_cons, length_le16, length_le32, List.length_singleton,
    List.not_mem_nil, false_implies, implies_true, and_true, Clear]
  omega

lemma canonical_record : Canonical c.record := by
  refine ⟨?_, fun i hi => ?_⟩
  · rw [record, byteAt_putAll c.layout_recordBlocks 16 rfl]
    cases c.resyncEveryCycle <;> decide
  · have hlt : i < recordLen := by
      revert hi i
      decide
    exact byteAt_zeroed hlt ((c.mem_reservedBytes_iff hlt).mpr hi)

lemma enumAt_record (k : ℕ) {α : Type} [CodeEnum α] {i : ℕ} {a : α}
    (h : c.recordBlocks[k]? = some (i, [code a])) : enumAt α c.record i = .ok a :=
  enumAt_eq_ok.mpr (byteAt_putAll c.layout_recordBlocks k h).symm

lemma decodeFields_record : decodeFields c.record = .ok c := by
  have hl := c.layout_recordBlocks
  have hresync : (c.resyncEveryCycle.toUInt8 != 0) = c.resyncEveryCycle := by
    cases c.resyncEveryCycle <;> rfl
  unfold decodeFields
  rw [c.enumAt_record 1 rfl, c.enumAt_record 2 rfl, c.enumAt_record 5 rfl, c.enumAt_record 8 rfl,
    c.enumAt_record 11 rfl, c.enumAt_record 12 rfl, c.enumAt_record 13 rfl, c.enumAt_record 14 rfl,
    c.enumAt_record 15 rfl, c.enumAt_record 18 rfl, c.enumAt_record 19 rfl, c.enumAt_record 20 rfl,
    record, u16_putAll hl 0 rfl, u32_putAll hl 3 rfl, u32_putAll hl 4 rfl, byteAt_putAll hl 6 rfl,
    byteAt_putAll hl 7 rfl, u16_putAll hl 9 rfl, byteAt_putAll hl 10 rfl, byteAt_putAll hl 16 rfl,
    hresync, byteAt_putAll hl 17 rfl, u16_putAll hl 21 rfl, Int16.toInt16_toUInt16]
  rfl

variable {c}

/-- **Records are read back.** -/
theorem decodeRecord_record (h : c.validate = .ok ()) : decodeRecord c.record = .ok c :=
  decodeRecord_eq_ok.mpr ⟨c.length_record.ge, c.canonical_record, c.decodeFields_record, h⟩

/-- **Accepted records are canonical.** -/
theorem record_of_decodeRecord (hlen : data.length = recordLen) (h : decodeRecord data = .ok c) :
    c.record = data := by
  obtain ⟨-, ⟨hresync, hreserved⟩, hfields, -⟩ := decodeRecord_eq_ok.mp h
  have h1 (i : ℕ) (hi : i < 48) : window data i 1 = [byteAt data i] := window_one (by rwa [hlen])
  have h2 (i : ℕ) (hi : i + 2 ≤ 48) : le16 (u16 (window data i 2)) = window data i 2 :=
    le16_u16 (length_window (by rwa [hlen]))
  have h4 (i : ℕ) (hi : i + 4 ≤ 48) : le32 (u32 (window data i 4)) = window data i 4 :=
    le32_u32 (length_window (by rwa [hlen]))
  have hbool : (byteAt data 24 != 0).toUInt8 = byteAt data 24 := by
    rcases eq_zero_or_one hresync with hb | hb <;> rw [hb] <;> rfl
  simp only [decodeFields, bind_eq_ok, enumAt_eq_ok] at hfields
  obtain ⟨_, e₁, _, e₂, _, e₃, _, e₄, _, e₅, _, e₆, _, e₇, _, e₈, _, e₉, _, e₁₀, _, e₁₁, _, e₁₂, hc⟩ :=
    hfields
  cases hc
  refine putAll_eq (by rw [hlen, List.length_replicate]) ?_ fun i hi => ?_
  · simp [recordBlocks, e₁, e₂, e₃, e₄, e₅, e₆, e₇, e₈, e₉, e₁₀, e₁₁, e₁₂, h1, h2, h4, hbool,
      length_window, hlen, recordLen]
  · rw [List.getElem?_replicate]
    split
    · next hlt =>
      rw [getElem?_eq_byteAt (hlen ▸ hlt), hreserved i ((mem_reservedBytes_iff _ hlt).mp hi)]
    · next hge => rw [List.getElem?_eq_none (hlen ▸ not_lt.mp hge)]

end ExpertTriggerCalibration

/-! ### The page -/

inductive PageCodecError
  | wrongSize
  | invalid
  deriving DecidableEq, Repr

/-- The record as a page shows it, with the codes of its enumerations. -/
structure ExpertTriggerPage where
  schemaVersion : UInt16
  (expertUnlock authority : UInt8)
  (profileIdentity profileHash : UInt32)
  (triggerPattern primaryBaseTeeth missingTeeth primaryTriggerSpeed : UInt8)
  triggerAngleAtdcDeg10 : UInt16
  (triggerAngleMultiplier primaryTriggerEdge secondaryTriggerEdge secondaryTriggerMode : UInt8)
  (pollLevelPolarity triggerFilter : UInt8)
  resyncEveryCycle : Bool
  (skipCycles ignitionMode injectionLayout fixedTimingMode : UInt8)
  fixedTimingDeg10 : Int16
  deriving DecidableEq

variable (data) (page : ExpertTriggerPage) (current : Option ExpertTriggerPage)
  (allowCertifiedProfile : Bool)

def validateExpertTriggerPage : Except PageCodecError Unit :=
  if page.schemaVersion ≠ currentSchema then .error .invalid
  else if ¬ allowCertifiedProfile ∧ page.authority = 3 then .error .invalid
  else if 1 < page.expertUnlock ∨ 4 < page.authority ∨ 3 < page.triggerPattern ∨
      1 < page.primaryTriggerSpeed ∨ 1 < page.primaryTriggerEdge ∨ 1 < page.secondaryTriggerEdge ∨
      5 < page.secondaryTriggerMode ∨ 1 < page.pollLevelPolarity ∨ 3 < page.triggerFilter ∨
      3 < page.ignitionMode ∨ 4 < page.injectionLayout ∨ 1 < page.fixedTimingMode then
    .error .invalid
  else if page.authority = 1 ∧ page.expertUnlock ≠ 1 then .error .invalid
  else if page.authority = 3 ∧ (page.profileIdentity = 0 ∨ page.profileHash = 0) then .error .invalid
  else if page.authority = 3 ∧ page.expertUnlock ≠ 0 then .error .invalid
  else if page.primaryBaseTeeth = 0 then .error .invalid
  else if page.triggerPattern = 0 ∧
      (page.primaryBaseTeeth < 2 ∨ page.missingTeeth = 0 ∨
        page.primaryBaseTeeth ≤ page.missingTeeth) then .error .invalid
  else if page.triggerPattern ≠ 0 ∧ page.missingTeeth ≠ 0 then .error .invalid
  else if 7200 < page.triggerAngleAtdcDeg10 then .error .invalid
  else if page.triggerAngleMultiplier = 0 ∨ 8 < page.triggerAngleMultiplier then .error .invalid
  else if page.resyncEveryCycle ∧ page.secondaryTriggerMode = 0 then .error .invalid
  else if (page.ignitionMode = 3 ∨ page.injectionLayout = 4) ∧ page.secondaryTriggerMode = 0 then
    .error .invalid
  else if 16 < page.skipCycles then .error .invalid
  else if page.fixedTimingMode = 1 ∧
      ¬ (-100 ≤ page.fixedTimingDeg10 ∧ page.fixedTimingDeg10 ≤ 600) then .error .invalid
  else
    match current with
    | none => .ok ()
    | some current =>
      if current.authority = 3 ∧ page.authority = 3 ∧ page ≠ current then .error .invalid
      else if current.authority = 3 ∧ page.authority ≠ 3 ∧ page.expertUnlock ≠ 1 then .error .invalid
      else .ok ()

def decodeExpertTriggerPageInner : Except PageCodecError ExpertTriggerPage :=
  if data.length ≠ recordLen then .error .wrongSize
  else
    let page : ExpertTriggerPage :=
      { schemaVersion := u16 (window data 0 2)
        expertUnlock := byteAt data 2
        authority := byteAt data 3
        profileIdentity := u32 (window data 4 4)
        profileHash := u32 (window data 8 4)
        triggerPattern := byteAt data 12
        primaryBaseTeeth := byteAt data 13
        missingTeeth := byteAt data 14
        primaryTriggerSpeed := byteAt data 15
        triggerAngleAtdcDeg10 := u16 (window data 16 2)
        triggerAngleMultiplier := byteAt data 18
        primaryTriggerEdge := byteAt data 19
        secondaryTriggerEdge := byteAt data 20
        secondaryTriggerMode := byteAt data 21
        pollLevelPolarity := byteAt data 22
        triggerFilter := byteAt data 23
        resyncEveryCycle := byteAt data 24 != 0
        skipCycles := byteAt data 25
        ignitionMode := byteAt data 26
        injectionLayout := byteAt data 27
        fixedTimingMode := byteAt data 28
        fixedTimingDeg10 := (u16 (window data 30 2)).toInt16 }
    match validateExpertTriggerPage page current allowCertifiedProfile with
    | .error e => .error e
    | .ok () => .ok page

def decodeTrustedExpertTriggerPage : Except PageCodecError ExpertTriggerPage :=
  decodeExpertTriggerPageInner data none true

def enumOf (α : Type) [CodeEnum α] (c : UInt8) : Except PageCodecError α :=
  match fromCode c with
  | some a => .ok a
  | none => .error .invalid

def fieldsOfPage : Except PageCodecError ExpertTriggerCalibration := do
  let expertUnlock ← enumOf ExpertUnlock page.expertUnlock
  let authority ← enumOf TriggerAuthority page.authority
  let triggerPattern ← enumOf TriggerPattern page.triggerPattern
  let primaryTriggerSpeed ← enumOf PrimaryTriggerSpeed page.primaryTriggerSpeed
  let primaryTriggerEdge ← enumOf TriggerEdge page.primaryTriggerEdge
  let secondaryTriggerEdge ← enumOf TriggerEdge page.secondaryTriggerEdge
  let secondaryTriggerMode ← enumOf SecondaryTriggerMode page.secondaryTriggerMode
  let pollLevelPolarity ← enumOf PollLevelPolarity page.pollLevelPolarity
  let triggerFilter ← enumOf TriggerFilter page.triggerFilter
  let ignitionMode ← enumOf ExpertIgnitionMode page.ignitionMode
  let injectionLayout ← enumOf ExpertInjectionLayout page.injectionLayout
  let fixedTimingMode ← enumOf FixedTimingMode page.fixedTimingMode
  .ok
    { schemaVersion := page.schemaVersion
      expertUnlock
      authority
      profileIdentity := page.profileIdentity
      profileHash := page.profileHash
      triggerPattern
      primaryBaseTeeth := page.primaryBaseTeeth
      missingTeeth := page.missingTeeth
      primaryTriggerSpeed
      triggerAngleAtdcDeg10 := page.triggerAngleAtdcDeg10
      triggerAngleMultiplier := page.triggerAngleMultiplier
      primaryTriggerEdge
      secondaryTriggerEdge
      secondaryTriggerMode
      pollLevelPolarity
      triggerFilter
      resyncEveryCycle := page.resyncEveryCycle
      skipCycles := page.skipCycles
      ignitionMode
      injectionLayout
      fixedTimingMode
      fixedTimingDeg10 := page.fixedTimingDeg10 }

def expertTriggerCalibrationFromPage : Except PageCodecError ExpertTriggerCalibration :=
  match fieldsOfPage page with
  | .error e => .error e
  | .ok cal =>
    match cal.validate with
    | .error _ => .error .invalid
    | .ok () => .ok cal

end Pipoco.ExpertTrigger
