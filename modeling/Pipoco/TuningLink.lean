import Pipoco.EditSurface

/-!
Certified authority over the tuning link.

The link reaches three copies of the expert trigger calibration: the one of the page store, the
staged one and the active one. A page is checked against the copy of the store and against the
active one before it is taken over. A package is checked for its target and its format only, so it
can bring a certified record into a session that had none.
-/

namespace Pipoco.TuningLink

open Bytes Domain ExpertTrigger Calibrations Runs

inductive PageError
  | invalid | wrongSize
  deriving DecidableEq, Repr

def pageCodecErrorToPageError : PageCodecError → PageError
  | .wrongSize => .wrongSize
  | .invalid => .invalid

/-- The record a page would put into the store. -/
def writeExpertTrigger (current : ExpertTriggerCalibration) (data : List UInt8) :
    Except PageError ExpertTriggerCalibration :=
  match decodeTrustedExpertTriggerPage data with
  | .error e => .error (pageCodecErrorToPageError e)
  | .ok page =>
    match expertTriggerCalibrationFromPage page with
    | .error e => .error (pageCodecErrorToPageError e)
    | .ok proposed =>
      match proposed.validateTransitionFrom current with
      | .error _ => .error .invalid
      | .ok () => .ok proposed

/-- The page store, of which only the expert trigger matters here, with the edit session and the
target packages are bound to. -/
structure TsPackageCommandStore where
  expertTrigger : ExpertTriggerCalibration
  session : CalibrationEditSurface
  target : Target

open TsPackageCommandStore

namespace TsPackageCommandStore

variable (l : TsPackageCommandStore) (data : List UInt8)

/-- A write of the expert trigger page. What the store has taken over stays when the session
refuses it. -/
def writePage : TsPackageCommandStore × Except PageError Unit :=
  match writeExpertTrigger l.expertTrigger data with
  | .error e => (l, .error e)
  | .ok proposed =>
    match l.session.applyExpertTriggerPage data with
    | (session, .error _) => ({ l with expertTrigger := proposed, session }, .error .invalid)
    | (session, .ok _) => ({ l with expertTrigger := proposed, session }, .ok ())

def importPackageWire : TsPackageCommandStore × Except PageError Unit :=
  match PersistedCalibrationPackage.decodeWire data with
  | .error _ => (l, .error .invalid)
  | .ok package =>
    match l.session.applyCandidatePackage package l.target with
    | (session, .rejected _) => ({ l with session }, .error .invalid)
    | (session, _) =>
      ({ l with expertTrigger := session.staged.geometry.expertTrigger, session }, .ok ())

end TsPackageCommandStore

/-- What can be done over the link and by the session behind it. -/
inductive LinkOp
  | writePage (data : List UInt8)
  | importPackageWire (data : List UInt8)
  | resetStaged
  | commit (policy : CommitPolicy) (runtimeSafe : Bool)
  deriving DecidableEq

/-- The places that hold a calibration. -/
inductive Copy
  | store | staged | active
  deriving DecidableEq

namespace TsPackageCommandStore

variable (l : TsPackageCommandStore)

def step : LinkOp → TsPackageCommandStore
  | .writePage data => (l.writePage data).1
  | .importPackageWire data => (l.importPackageWire data).1
  | .resetStaged => { l with session := l.session.resetStaged.1 }
  | .commit policy runtimeSafe => { l with session := (l.session.commit policy runtimeSafe).1 }

def copy : Copy → ExpertTriggerCalibration
  | .store => l.expertTrigger
  | .staged => l.session.staged.geometry.expertTrigger
  | .active => l.session.active.geometry.expertTrigger

def Uncertified : Prop := ∀ c, ¬ (l.copy c).Certified

/-! ### What the operations do to the copies -/

variable (data : List UInt8)

/-- The record a package brings, if it is for this target. -/
def packageRecord : Option ExpertTriggerCalibration :=
  match PersistedCalibrationPackage.decodeWire data with
  | .error _ => none
  | .ok p =>
    if p.identity.target = l.target then
      some p.blob.snapshot.staged.calibration.geometry.expertTrigger
    else none

/-- The record that an operation puts in the place of a copy. -/
def assigned : LinkOp → Copy → Option ExpertTriggerCalibration
  | .writePage data, .store => (writeExpertTrigger l.expertTrigger data).toOption
  | .writePage data, .staged =>
    match writeExpertTrigger l.expertTrigger data with
    | .error _ => none
    | .ok _ => (applyExpertTriggerPage (l.copy .active) data).toOption
  | .importPackageWire data, .store => l.packageRecord data
  | .importPackageWire data, .staged => l.packageRecord data
  | .resetStaged, .staged => some (l.copy .active)
  | .commit policy runtimeSafe, .active =>
    if evaluate policy l.session.diff runtimeSafe = .allowNow then some (l.copy .staged) else none
  | _, _ => none

lemma expertTriggers_of_edited {s s' : CalibrationEditSurface} {x : Calibration}
    {k : CalibrationClass} (h : CalibrationEditSurface.Edited s s' x k) :
    s'.staged.geometry.expertTrigger = x.geometry.expertTrigger ∧
      s'.active.geometry.expertTrigger = s.active.geometry.expertTrigger := by
  rw [h.staged, h.active]
  exact ⟨rfl, rfl⟩

lemma copy_writePage (c : Copy) :
    (l.writePage data).1.copy c = (l.assigned (.writePage data) c).getD (l.copy c) := by
  cases hstore : writeExpertTrigger l.expertTrigger data with
  | error err => cases c <;> simp [writePage, assigned, hstore, Except.toOption]
  | ok e =>
    cases hpage : applyExpertTriggerPage l.session.active.geometry.expertTrigger data with
    | error err =>
      cases c <;>
        simp [writePage, assigned, hstore, CalibrationEditSurface.applyExpertTriggerPage, hpage, copy,
          Except.toOption]
    | ok e' =>
      obtain ⟨hstaged, hactive⟩ := expertTriggers_of_edited (l.session.edited_sync e')
      cases c <;>
        simp [writePage, assigned, hstore, CalibrationEditSurface.applyExpertTriggerPage, hpage, copy,
          Except.toOption, hstaged, hactive, Calibration.setExpertTrigger]

lemma copy_importPackageWire (c : Copy) :
    (l.importPackageWire data).1.copy c =
      (l.assigned (.importPackageWire data) c).getD (l.copy c) := by
  cases hwire : PersistedCalibrationPackage.decodeWire data with
  | error err => cases c <;> simp [importPackageWire, assigned, packageRecord, hwire]
  | ok p =>
    cases hres : l.session.applyCandidatePackage p l.target with
    | mk session result =>
      have hcases := l.session.applyCandidatePackage_cases p l.target
      rw [hres] at hcases
      rcases hcases with ⟨hne, hsame, w, hw⟩ | ⟨heq, hedit, hw⟩
      · obtain rfl : session = l.session := hsame
        obtain rfl : result = .rejected w := hw
        cases c <;> simp [importPackageWire, assigned, packageRecord, hwire, hres, hne]
      · obtain ⟨hstaged, hactive⟩ := expertTriggers_of_edited hedit
        cases result with
        | rejected w => exact absurd rfl (hw w)
        | _ =>
          cases c <;>
            simp [importPackageWire, assigned, packageRecord, hwire, hres, heq, copy, hstaged, hactive]

lemma copy_step (op : LinkOp) (c : Copy) :
    (l.step op).copy c = (l.assigned op c).getD (l.copy c) := by
  cases op with
  | writePage data => exact l.copy_writePage data c
  | importPackageWire data => exact l.copy_importPackageWire data c
  | resetStaged => cases c <;> rfl
  | commit policy runtimeSafe =>
    by_cases h : evaluate policy l.session.diff runtimeSafe = .allowNow
    · have hcontent := CalibrationEditSurface.commit_of_allowed h
      cases c with
      | store => rfl
      | staged => exact congrArg (fun c : Calibration => c.geometry.expertTrigger) hcontent.2
      | active =>
        simp only [assigned, h, if_true, Option.getD_some]
        exact congrArg (fun c : Calibration => c.geometry.expertTrigger) hcontent.1
    · simp only [step, CalibrationEditSurface.commit_of_deferred h]
      cases c with
      | active => simp only [assigned, h, if_false, Option.getD_none]
      | _ => rfl

end TsPackageCommandStore

/-! ### The law of certified authority -/

variable {data : List UInt8}

/-- The link, with whether no copy was certified at the start and which copies have never
changed. -/
structure Watched where
  link : TsPackageCommandStore
  uncertified : Prop
  fresh : Copy → Prop

namespace Watched

variable (t : Watched)

def start (l : TsPackageCommandStore) : Watched := ⟨l, l.Uncertified, fun _ => True⟩

def step (op : LinkOp) : Watched where
  link := t.link.step op
  uncertified := t.uncertified
  fresh c := t.fresh c ∧ (t.link.step op).copy c = t.link.copy c

/-- The record may take the place of the copy: the first change of a certified one is to an
uncertified record with the expert unlock. -/
def Keeps (c : Copy) (e : ExpertTriggerCalibration) : Prop :=
  t.fresh c → (t.link.copy c).Certified → e.Succeeds (t.link.copy c)

/-- **The law of certified authority**, for one operation. -/
structure Lawful (t : Watched) (op : LinkOp) : Prop where
  forged : t.uncertified → (t.link.step op).Uncertified
  first : ∀ c, t.Keeps c ((t.link.step op).copy c)

/-- The records an operation brings are admissible where the operation does not see to it. -/
def Admissible : LinkOp → Prop
  | .writePage data =>
    ∀ e₀ e, writeExpertTrigger t.link.expertTrigger data = .ok e₀ →
      applyExpertTriggerPage (t.link.copy .active) data = .ok e → t.Keeps .staged e
  | .importPackageWire data =>
    ∀ e, t.link.packageRecord data = some e →
      (t.uncertified → ¬ e.Certified) ∧ t.Keeps .store e ∧ t.Keeps .staged e
  | .resetStaged => t.Keeps .staged (t.link.copy .active)
  | .commit policy runtimeSafe =>
    evaluate policy t.link.session.diff runtimeSafe = .allowNow →
      t.Keeps .active (t.link.copy .staged)

def Inv : Prop := t.uncertified → t.link.Uncertified

/-- The law, said about the records that are assigned. -/
lemma lawful_iff_assigned {t : Watched} (h : t.Inv) (op : LinkOp) :
    t.Lawful op ↔ ∀ c e, t.link.assigned op c = some e →
      (t.uncertified → ¬ e.Certified) ∧ t.Keeps c e := by
  have hsome : ∀ {c e}, t.link.assigned op c = some e → (t.link.step op).copy c = e := by
    intro c e hc
    rw [t.link.copy_step, hc, Option.getD_some]
  have hnone : ∀ {c}, t.link.assigned op c = none → (t.link.step op).copy c = t.link.copy c := by
    intro c hc
    rw [t.link.copy_step, hc, Option.getD_none]
  constructor
  · rintro ⟨hforged, hfirst⟩ c e hc
    rw [← hsome hc]
    exact ⟨fun hu => hforged hu c, hfirst c⟩
  · intro hall
    refine ⟨fun hu c => ?_, fun c => ?_⟩
    · cases hc : t.link.assigned op c with
      | none =>
        rw [hnone hc]
        exact h hu c
      | some e =>
        rw [hsome hc]
        exact (hall c e hc).1 hu
    · cases hc : t.link.assigned op c with
      | none =>
        rw [hnone hc]
        exact fun _ _ => .inl rfl
      | some e =>
        rw [hsome hc]
        exact (hall c e hc).2

end Watched

lemma transition_of_writeExpertTrigger {current e : ExpertTriggerCalibration}
    (h : writeExpertTrigger current data = .ok e) : e.validateTransitionFrom current = .ok () := by
  unfold writeExpertTrigger at h
  split at h
  · cases h
  · split at h
    · cases h
    · split at h
      · cases h
      · next hvalid =>
        cases h
        exact hvalid

lemma transition_of_applyExpertTriggerPage {current e : ExpertTriggerCalibration}
    (h : applyExpertTriggerPage current data = .ok e) :
    e.validateTransitionFrom current = .ok () := by
  unfold applyExpertTriggerPage at h
  split at h
  · cases h
  · split at h
    · cases h
    · next hvalid =>
      cases h
      exact hvalid

namespace Watched

variable {l : TsPackageCommandStore} {data : List UInt8} {e : ExpertTriggerCalibration}

lemma assigned_page_store (h : l.assigned (.writePage data) .store = some e) :
    e.validateTransitionFrom (l.copy .store) = .ok () := by
  cases hstore : writeExpertTrigger l.expertTrigger data with
  | error err => simp [assigned, hstore, Except.toOption] at h
  | ok e' =>
    obtain rfl : e' = e := by
      simpa [assigned, hstore, Except.toOption] using h
    exact transition_of_writeExpertTrigger hstore

lemma assigned_page_staged :
    l.assigned (.writePage data) .staged = some e ↔
      ∃ e₀, writeExpertTrigger l.expertTrigger data = .ok e₀ ∧
        applyExpertTriggerPage (l.copy .active) data = .ok e := by
  cases hstore : writeExpertTrigger l.expertTrigger data with
  | error err => simp [assigned, hstore]
  | ok e₀ =>
    cases hpage : applyExpertTriggerPage (l.copy .active) data <;>
      simp [assigned, hstore, hpage, Except.toOption]

lemma lawful_iff_admissible {t : Watched} (h : t.Inv) (op : LinkOp) :
    t.Lawful op ↔ t.Admissible op := by
  rw [lawful_iff_assigned h]
  cases op with
  | writePage data =>
    refine ⟨fun hall e₀ e hstore hpage => ?_, fun hadm c e he => ?_⟩
    · exact (hall .staged e (assigned_page_staged.mpr ⟨e₀, hstore, hpage⟩)).2
    · cases c with
      | store =>
        obtain ⟨hnew, hold⟩ :=
          ExpertTriggerCalibration.of_validateTransitionFrom (assigned_page_store he)
        exact ⟨fun hu => hnew (h hu .store), fun _ hc => hold hc⟩
      | staged =>
        obtain ⟨e₀, hstore, hpage⟩ := assigned_page_staged.mp he
        have hnew := (ExpertTriggerCalibration.of_validateTransitionFrom
          (transition_of_applyExpertTriggerPage hpage)).1
        exact ⟨fun hu => hnew (h hu .active), hadm e₀ e hstore hpage⟩
      | active => cases he
  | importPackageWire data =>
    refine ⟨fun hall e he => ?_, fun hadm c e he => ?_⟩
    · exact ⟨(hall .store e he).1, (hall .store e he).2, (hall .staged e he).2⟩
    · cases c with
      | store => exact ⟨(hadm e he).1, (hadm e he).2.1⟩
      | staged => exact ⟨(hadm e he).1, (hadm e he).2.2⟩
      | active => cases he
  | resetStaged =>
    refine ⟨fun hall => (hall .staged _ rfl).2, fun hadm c e he => ?_⟩
    cases c with
    | staged =>
      cases he
      exact ⟨fun hu => h hu .active, hadm⟩
    | _ => cases he
  | commit policy runtimeSafe =>
    refine ⟨fun hall hv => (hall .active _ (if_pos hv)).2, fun hadm c e he => ?_⟩
    cases c with
    | active =>
      by_cases hv : evaluate policy t.link.session.diff runtimeSafe = .allowNow
      · rw [assigned, if_pos hv] at he
        cases he
        exact ⟨fun hu => h hu .staged, hadm hv⟩
      · rw [assigned, if_neg hv] at he
        cases he
    | _ => cases he

end Watched

/-- **Certified authority over the link.** From any state of the page store and the session, along
any page writes, package imports, resets and commits: certified authority is not forged, and the
first change of a certified copy is to an uncertified record with the expert unlock, exactly when
every operation brings admissible records only. -/
theorem certified_authority_iff (l : TsPackageCommandStore) (ops : List LinkOp) :
    Along Watched.step Watched.Lawful (.start l) ops ↔
      Along Watched.step Watched.Admissible (.start l) ops := by
  have hstep : ∀ (t : Watched) (op : LinkOp), t.Inv → True → t.Lawful op → (t.step op).Inv :=
    fun _ _ _ _ hlaw => hlaw.forged
  have hstart : (Watched.start l).Inv := fun hu => hu
  exact along_iff_of_inv (L := fun _ _ => True)
    (fun _ op ht _ => Watched.lawful_iff_admissible ht op) hstep hstart along_true

/-! ### A forged package -/

def freshLink : TsPackageCommandStore := ⟨.default, .new defaultSnapshot, ⟨7, 3⟩⟩

/-- A certified record nobody has certified. -/
def forgedRecord : ExpertTriggerCalibration :=
  { ExpertTriggerCalibration.default with
    authority := .certifiedProfile, profileIdentity := 1, profileHash := 1 }

/-- A package for this build and target, with the default record and the forged one. -/
def forgedWire : List UInt8 :=
  [0x50, 0x43, 0x50, 0x4B, 7, 0, 0, 0, 3, 0, 1, 0, 0, 0, 0, 0, 0, 0, 0, 0, 0, 0, 0, 0, 0, 0, 0, 0,
    1, 0, 0, 0, 0, 0, 0, 0, 0, 0, 0, 0, 0, 60, 2, 0, 0, 0, 1, 0, 0, 0, 0, 2, 0, 2, 1, 1, 0, 0, 100, 0,
    0, 0, 0, 0, 0, 0, 0, 0, 0, 0, 0, 0, 0, 0, 0, 0,
    1, 0, 0, 3, 1, 0, 0, 0, 1, 0, 0, 0, 0, 60, 2, 0, 0, 0, 1, 0, 0, 0, 0, 2, 0, 2, 1, 1, 0, 0, 100, 0,
    0, 0, 0, 0, 0, 0, 0, 0, 0, 0, 0, 0, 0, 0, 0, 0]

/-- No copy is certified; after the package and a commit all of them are. -/
theorem package_forges_certified :
    (∀ c, ¬ (freshLink.copy c).Certified) ∧
      (∀ c, (run step freshLink
        [.importPackageWire forgedWire, .commit .safeOnly true]).copy c = forgedRecord) ∧
      ¬ Along Watched.step Watched.Lawful (.start freshLink) [.importPackageWire forgedWire] := by
  have hrecord : freshLink.packageRecord forgedWire = some forgedRecord := by decide +kernel
  have huncertified : ∀ c, ¬ (freshLink.copy c).Certified := by
    intro c
    cases c <;> decide
  set taken := freshLink.step (.importPackageWire forgedWire) with htaken
  have hcopy : ∀ c, taken.copy c = if c = .active then .default else forgedRecord := by
    intro c
    rw [htaken, copy_step]
    cases c <;> simp [assigned, hrecord]
    rfl
  refine ⟨huncertified, fun c => ?_, fun hlaw => ?_⟩
  · show (taken.step (.commit .safeOnly true)).copy c = forgedRecord
    have hallow : evaluate .safeOnly taken.session.diff true = .allowNow := rfl
    rw [copy_step]
    cases c <;> simp [assigned, hallow, hcopy]
  · have hstore : ¬ (taken.copy .store).Certified := hlaw.1.forged huncertified .store
    rw [hcopy] at hstore
    exact hstore (by decide)

end Pipoco.TuningLink
