import Pipoco.TuningLink

/-!
The page store and the edit session hold one expert trigger.

Both get the bytes of an expert trigger page, the store first. The store has another decoder than
the session, which lets reserved bytes pass, and checks the record against its own copy, the session
against the active one. The other pages are those of a provider.
-/

namespace Pipoco.TuningLink

open Bytes ExpertTrigger Calibrations Runs TsPackageCommandStore

/-- The pages of a provider. -/
structure PageStoreProvider (π : Type*) where
  writePage : π → UInt8 → List UInt8 → π × Except PageError Unit

def pageFuel : UInt8 := 1
def pageIgn : UInt8 := 2
def pageAngles : UInt8 := 9
def pageExpertTrigger : UInt8 := 16

def tablePageBytes : ℕ := 512
def anglesPageBytes : ℕ := 68

/-- A command store with all of its pages. -/
structure PagedStore (π : Type*) where
  link : TsPackageCommandStore
  pages : π

namespace PagedStore

variable {π : Type*} (P : PageStoreProvider π) (s : PagedStore π)

def writePage (page : UInt8) (data : List UInt8) : PagedStore π × Except PageError Unit :=
  if page = pageExpertTrigger then
    ({ s with link := (s.link.writePage data).1 }, (s.link.writePage data).2)
  else ({ s with pages := (P.writePage s.pages page data).1 }, (P.writePage s.pages page data).2)

/-- Only the copy of the store goes back to the default. -/
def factoryReset : PagedStore π where
  link := { s.link with expertTrigger := .default }
  pages :=
    let fuel := (P.writePage s.pages pageFuel (List.replicate tablePageBytes 0)).1
    let ign := (P.writePage fuel pageIgn (List.replicate tablePageBytes 0)).1
    (P.writePage ign pageAngles (put (List.replicate anglesPageBytes 0) 66 (le16 500))).1

end PagedStore

inductive PageOp
  | writePage (page : UInt8) (data : List UInt8)
  | importPackageWire (data : List UInt8)
  | burn
  | factoryReset

namespace PagedStore

variable {π : Type*} (P : PageStoreProvider π) (s : PagedStore π)

def step : PageOp → PagedStore π
  | .writePage page data => (s.writePage P page data).1
  | .importPackageWire data => { s with link := (s.link.importPackageWire data).1 }
  -- what is written is the persisted copy
  | .burn => s
  | .factoryReset => s.factoryReset P

def Together : Prop := s.link.copy .store = s.link.copy .staged

/-- The session takes a page over, or the store gets what it had. -/
def Taken (page : UInt8) (data : List UInt8) : Prop :=
  page = pageExpertTrigger → ∀ e, writeExpertTrigger s.link.expertTrigger data = .ok e →
    e = s.link.expertTrigger ∨ ∃ e', applyExpertTriggerPage (s.link.copy .active) data = .ok e'

/-- The session takes a page over, and a page that the provider refuses leaves nothing with it. -/
def Clean (page : UInt8) (data : List UInt8) : Prop :=
  s.Taken page data ∧ (page ≠ pageExpertTrigger →
    ∀ e, (P.writePage s.pages page data).2 = .error e → (P.writePage s.pages page data).1 = s.pages)

/-- What keeps the copies equal. -/
def Agreed : PageOp → Prop
  | .writePage page data => s.Taken page data
  | .factoryReset => s.link.copy .staged = .default
  | _ => True

/-! ### The two decoders -/

variable {current e : ExpertTriggerCalibration}

def expertTriggerPageFromCalibration (cal : ExpertTriggerCalibration) : ExpertTriggerPage where
  schemaVersion := cal.schemaVersion
  expertUnlock := code cal.expertUnlock
  authority := code cal.authority
  profileIdentity := cal.profileIdentity
  profileHash := cal.profileHash
  triggerPattern := code cal.triggerPattern
  primaryBaseTeeth := cal.primaryBaseTeeth
  missingTeeth := cal.missingTeeth
  primaryTriggerSpeed := code cal.primaryTriggerSpeed
  triggerAngleAtdcDeg10 := cal.triggerAngleAtdcDeg10
  triggerAngleMultiplier := cal.triggerAngleMultiplier
  primaryTriggerEdge := code cal.primaryTriggerEdge
  secondaryTriggerEdge := code cal.secondaryTriggerEdge
  secondaryTriggerMode := code cal.secondaryTriggerMode
  pollLevelPolarity := code cal.pollLevelPolarity
  triggerFilter := code cal.triggerFilter
  resyncEveryCycle := cal.resyncEveryCycle
  skipCycles := cal.skipCycles
  ignitionMode := code cal.ignitionMode
  injectionLayout := code cal.injectionLayout
  fixedTimingMode := code cal.fixedTimingMode
  fixedTimingDeg10 := cal.fixedTimingDeg10

lemma ite_error_eq_ok {ε α : Type} {p : Prop} [Decidable p] {err : ε} {x : Except ε α} {a : α} :
    (if p then .error err else x) = .ok a ↔ ¬ p ∧ x = .ok a := by
  split_ifs with h <;> simp [h]

variable {data : List UInt8} {page : ExpertTriggerPage}

lemma enumOf_eq_ok {α : Type} [CodeEnum α] {k : UInt8} {a : α} : enumOf α k = .ok a ↔ code a = k := by
  rw [enumOf, ← fromCode_eq_some]
  split <;> simp_all

/-- Both decoders read the same fields. -/
lemma decodeTrusted_of_length (h : data.length = recordLen) :
    ∃ page, (∀ e, fieldsOfPage page = .ok e ↔ decodeFields data = .ok e) ∧
      decodeTrustedExpertTriggerPage data =
        match validateExpertTriggerPage page none true with
        | .error e => .error e
        | .ok () => .ok page := by
  rw [decodeTrustedExpertTriggerPage, decodeExpertTriggerPageInner, if_neg (not_not.mpr h)]
  refine ⟨_, fun e => ?_, rfl⟩
  simp only [fieldsOfPage, decodeFields, bind_eq_ok, enumOf_eq_ok, enumAt_eq_ok, Except.ok.injEq]

lemma page_of_fields (h : fieldsOfPage page = .ok e) : page = expertTriggerPageFromCalibration e := by
  simp only [fieldsOfPage, bind_eq_ok, enumOf_eq_ok] at h
  obtain ⟨_, h₁, _, h₂, _, h₃, _, h₄, _, h₅, _, h₆, _, h₇, _, h₈, _, h₉, _, h₁₀, _, h₁₁, _, h₁₂, he⟩ := h
  cases he
  simp only [expertTriggerPageFromCalibration, h₁, h₂, h₃, h₄, h₅, h₆, h₇, h₈, h₉, h₁₀, h₁₁, h₁₂]

lemma codes_le (e : ExpertTriggerCalibration) :
    ¬ (1 < code e.expertUnlock ∨ 4 < code e.authority ∨ 3 < code e.triggerPattern ∨
      1 < code e.primaryTriggerSpeed ∨ 1 < code e.primaryTriggerEdge ∨
      1 < code e.secondaryTriggerEdge ∨ 5 < code e.secondaryTriggerMode ∨
      1 < code e.pollLevelPolarity ∨ 3 < code e.triggerFilter ∨ 3 < code e.ignitionMode ∨
      4 < code e.injectionLayout ∨ 1 < code e.fixedTimingMode) := by
  simp only [not_or]
  exact ⟨by cases e.expertUnlock <;> decide, by cases e.authority <;> decide,
    by cases e.triggerPattern <;> decide, by cases e.primaryTriggerSpeed <;> decide,
    by cases e.primaryTriggerEdge <;> decide, by cases e.secondaryTriggerEdge <;> decide,
    by cases e.secondaryTriggerMode <;> decide, by cases e.pollLevelPolarity <;> decide,
    by cases e.triggerFilter <;> decide, by cases e.ignitionMode <;> decide,
    by cases e.injectionLayout <;> decide, by cases e.fixedTimingMode <;> decide⟩

lemma validatePage_of_validate (hf : fieldsOfPage page = .ok e) (hv : e.validate = .ok ()) :
    validateExpertTriggerPage page none true = .ok () := by
  rw [page_of_fields hf]
  have ha1 : code e.authority = 1 ↔ e.authority = .expertManual := by cases e.authority <;> decide
  have ha3 : code e.authority = 3 ↔ e.authority = .certifiedProfile := by cases e.authority <;> decide
  have hu0 : code e.expertUnlock = 0 ↔ e.expertUnlock = .locked := by cases e.expertUnlock <;> decide
  have hu1 : code e.expertUnlock = 1 ↔ e.expertUnlock = .unlocked := by cases e.expertUnlock <;> decide
  have hp0 : code e.triggerPattern = 0 ↔ e.triggerPattern = .missingTooth := by
    cases e.triggerPattern <;> decide
  have hm0 : code e.secondaryTriggerMode = 0 ↔ e.secondaryTriggerMode = .none := by
    cases e.secondaryTriggerMode <;> decide
  have hg3 : code e.ignitionMode = 3 ↔ e.ignitionMode = .sequentialCop := by
    cases e.ignitionMode <;> decide
  have hj4 : code e.injectionLayout = 4 ↔ e.injectionLayout = .sequential := by
    cases e.injectionLayout <;> decide
  have ht1 : code e.fixedTimingMode = 1 ↔ e.fixedTimingMode = .fixed := by
    cases e.fixedTimingMode <;> decide
  simp only [ExpertTriggerCalibration.validate, ite_error_eq_ok, Ne] at hv
  obtain ⟨h₀, h₁, h₂, h₃, h⟩ := hv
  simp only [validateExpertTriggerPage, expertTriggerPageFromCalibration, ite_error_eq_ok, Ne, ha1, ha3,
    hu0, hu1, hp0, hm0, hg3, hj4, ht1]
  exact ⟨h₀, by simp, codes_le e, h₁, h₂, h₃, h⟩

lemma validate_of_transition (h : e.validateTransitionFrom current = .ok ()) : e.validate = .ok () := by
  unfold ExpertTriggerCalibration.validateTransitionFrom at h
  split at h
  · cases h
  · assumption

lemma writeExpertTrigger_eq_ok : writeExpertTrigger current data = .ok e ↔
    data.length = recordLen ∧ decodeFields data = .ok e ∧
      e.validateTransitionFrom current = .ok () := by
  by_cases hlen : data.length = recordLen
  · obtain ⟨page, hsame, hdecode⟩ := decodeTrusted_of_length hlen
    rw [← hsame e]
    unfold writeExpertTrigger expertTriggerCalibrationFromPage
    rw [hdecode]
    constructor
    · intro h
      rcases hpage : validateExpertTriggerPage page none true with _ | ⟨⟩ <;> simp only [hpage] at h
      · cases h
      · rcases hf : fieldsOfPage page with _ | c <;> simp only [hf] at h
        · cases h
        · rcases hv : c.validate with _ | ⟨⟩ <;> simp only [hv] at h
          · cases h
          · rcases ht : c.validateTransitionFrom current with _ | ⟨⟩ <;> simp only [ht] at h
            · cases h
            · cases h
              exact ⟨hlen, rfl, ht⟩
    · rintro ⟨-, hpage, htransition⟩
      have hvalid := validate_of_transition htransition
      simp only [validatePage_of_validate hpage hvalid, hpage, hvalid, htransition]
  · simp [writeExpertTrigger, decodeTrustedExpertTriggerPage, decodeExpertTriggerPageInner, hlen]

lemma applyExpertTriggerPage_eq_ok : applyExpertTriggerPage current data = .ok e ↔
    decodeRecord data = .ok e ∧ e.validateTransitionFrom current = .ok () := by
  unfold applyExpertTriggerPage
  constructor
  · intro h
    split at h
    · cases h
    · next hrecord =>
      split at h
      · cases h
      · next htransition =>
        cases h
        exact ⟨hrecord, htransition⟩
  · rintro ⟨hrecord, htransition⟩
    simp only [hrecord, htransition]

/-- **The two decoders** agree on the canonical pages, and on those the store refuses. -/
theorem decoders_agree_iff (current : ExpertTriggerCalibration)
    (data : { l : List UInt8 // l.length = recordLen }) :
    (∀ e, writeExpertTrigger current data = .ok e ↔ applyExpertTriggerPage current data = .ok e) ↔
      Canonical data ∨ ∀ e, writeExpertTrigger current data ≠ .ok e := by
  simp only [Ne, writeExpertTrigger_eq_ok, applyExpertTriggerPage_eq_ok, decodeRecord_eq_ok, data.2,
    le_rfl, true_and]
  refine ⟨fun h => ?_, fun h e => ?_⟩
  · by_contra hno
    simp only [not_or, not_forall, not_not] at hno
    obtain ⟨hcanonical, e, he⟩ := hno
    exact hcanonical ((h e).mp he).1.1
  · refine ⟨fun he => ?_, fun he => ⟨he.1.2.1, he.2⟩⟩
    rcases h with hcanonical | hno
    · exact ⟨⟨hcanonical, he.1, validate_of_transition he.2⟩, he.2⟩
    · exact absurd he (hno e)

/-- A reserved byte is set: the store takes the page, the session refuses it. -/
theorem reserved_byte_passes :
    let data := put ExpertTriggerCalibration.default.record 47 [1]
    data.length = recordLen ∧ writeExpertTrigger .default data = .ok .default ∧
      applyExpertTriggerPage .default data = .error (.record .nonCanonicalRecord) := by
  decide +kernel

/-- The record the session makes of the bytes is the one the store made. -/
lemma eq_of_accepted {active e' : ExpertTriggerCalibration}
    (h : writeExpertTrigger current data = .ok e) (h' : applyExpertTriggerPage active data = .ok e') :
    e' = e := by
  have hfields := (writeExpertTrigger_eq_ok.mp h).2.1
  rw [(decodeRecord_eq_ok.mp (applyExpertTriggerPage_eq_ok.mp h').1).2.2.1] at hfields
  exact Except.ok.inj hfields

/-! ### The copies -/

section

variable {P} {s : PagedStore π}

lemma together_step (hs : s.Together) (op : PageOp) : (s.step P op).Together ↔ s.Agreed op := by
  cases op with
  | burn => exact iff_of_true hs trivial
  | factoryReset => exact eq_comm
  | importPackageWire data =>
    refine iff_of_true ?_ trivial
    have hcopy := s.link.copy_importPackageWire data
    show ((s.link.importPackageWire data).1).copy .store = ((s.link.importPackageWire data).1).copy .staged
    rw [hcopy, hcopy, assigned, assigned, hs]
  | writePage page data =>
    simp only [step, writePage, Agreed, Taken]
    by_cases hpage : page = pageExpertTrigger
    · have hcopy := s.link.copy_writePage data
      rw [if_pos hpage, Together, hcopy, hcopy, ← hs]
      simp only [hpage, true_imp_iff, assigned]
      cases hstore : writeExpertTrigger s.link.expertTrigger data with
      | error err => simp [Except.toOption]
      | ok e =>
        cases hpage : applyExpertTriggerPage (s.link.copy .active) data with
        | error err => simp [Except.toOption, copy]
        | ok e' => simp [Except.toOption, eq_of_accepted hstore hpage]
    · rw [if_neg hpage]
      exact iff_of_true hs fun h => absurd h hpage

/-- A write that fails changes nothing, unless the session refuses what the store has taken or the
provider keeps a part of what it refuses. -/
lemma writePage_refused_iff (page : UInt8) (data : List UInt8) :
    ((∃ e, (s.writePage P page data).2 = .error e) → (s.writePage P page data).1 = s) ↔
      s.Clean P page data := by
  simp only [writePage, Clean, Taken]
  by_cases hpage : page = pageExpertTrigger
  · simp only [hpage, true_imp_iff, if_true, ne_eq, not_true, false_imp_iff, and_true]
    cases hstore : writeExpertTrigger s.link.expertTrigger data with
    | error err => simp [TsPackageCommandStore.writePage, hstore]
    | ok e =>
      have hactive : s.link.copy .active = s.link.session.active.geometry.expertTrigger := rfl
      cases hsession : applyExpertTriggerPage s.link.session.active.geometry.expertTrigger data with
      | error err =>
        have hwrite : s.link.writePage data = ({ s.link with expertTrigger := e }, .error .invalid) := by
          simp [TsPackageCommandStore.writePage, hstore, CalibrationEditSurface.applyExpertTriggerPage,
            hsession]
        simp only [hwrite, hactive, hsession, Except.ok.injEq, forall_eq', reduceCtorEq, exists_false,
          or_false]
        refine ⟨fun h => ?_, fun h _ => by rw [h]⟩
        exact congrArg (fun s : PagedStore π => s.link.expertTrigger) (h ⟨_, rfl⟩)
      | ok e' =>
        simp [TsPackageCommandStore.writePage, hstore, CalibrationEditSurface.applyExpertTriggerPage,
          hsession, hactive]
  · simp only [hpage, if_false, ne_eq, not_false_iff, false_imp_iff, true_imp_iff, true_and]
    refine ⟨fun h e he => congrArg PagedStore.pages (h ⟨e, he⟩), ?_⟩
    rintro h ⟨e, he⟩
    rw [h e he]

end

/-- **One expert trigger.** From equal copies on, the copies stay equal as long as every page the
store takes is taken by the session and the store is reset with the default staged only; and a write
that fails changes nothing exactly if the session takes the page or it is another one, which the
provider refuses without a trace. -/
theorem together_iff {s : PagedStore π} (hs : s.Together) (ops : List PageOp) :
    (Along (step P) (fun s op => (s.step P op).Together) s ops ↔ Along (step P) Agreed s ops) ∧
      ∀ (s : PagedStore π) page data,
        ((∃ e, (s.writePage P page data).2 = .error e) → (s.writePage P page data).1 = s) ↔
          s.Clean P page data :=
  ⟨along_iff_of_inv (I := Together) (L := fun _ _ => True) (fun _ op h _ => together_step h op)
    (fun _ _ _ _ h => h) hs along_true,
    fun _ => writePage_refused_iff⟩

/-- A provider without pages. -/
def noPages : PageStoreProvider Unit := ⟨fun p _ _ => (p, .error .invalid)⟩

/-- Another wheel is written and persisted. -/
theorem together_iff_retuned :
    Along (step noPages) (fun s op => (s.step noPages op).Together) ⟨freshLink, ()⟩
      [.writePage pageExpertTrigger retunedPage, .burn] := by
  refine (together_iff noPages (s := ⟨freshLink, ()⟩) rfl _).1.mpr ⟨fun _ e _ => .inr ⟨retuned, ?_⟩, ?_⟩
  · decide +kernel
  · exact ⟨trivial, trivial⟩

/-- The other wheel with a reserved byte that is not zero: the write fails and the store has the
record. After a proper write the reset of the store leaves it staged. -/
theorem copies_part :
    let fresh : PagedStore Unit := ⟨freshLink, ()⟩
    let page := retunedPage.set 29 1
    let written := (fresh.writePage noPages pageExpertTrigger page)
    written.2 = .error .invalid ∧ written.1.link.copy .store = retuned ∧
      written.1.link.copy .staged = .default ∧
      ((run (step noPages) fresh [.writePage pageExpertTrigger retunedPage, .factoryReset]).link.copy .store,
        (run (step noPages) fresh
          [.writePage pageExpertTrigger retunedPage, .factoryReset]).link.copy .staged) =
        (.default, retuned) := by
  decide +kernel

end PagedStore

end Pipoco.TuningLink
