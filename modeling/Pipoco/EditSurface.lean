import Pipoco.CalibrationPackage
import Pipoco.Runs

/-!
The calibration edit surface.

Edits change the staged calibration; a commit makes it the active one. Whether a commit is allowed
while the runtime is not safe depends on the class the last edit has recorded, and the class says
how that edit changed the staged calibration, not how the staged calibration differs from the
active one. An edit that changes nothing, because it repeats the one before it, records that
nothing has changed; a commit after it makes the earlier edit live.
-/

namespace Pipoco.Calibrations

open Bytes Domain ExpertTrigger Runs

/-! ### Commit rules -/

variable (policy : CommitPolicy)

/-- Coarse classification for a staged calibration change. -/
inductive CalibrationClass
  | noChange | metadataOnly | runtimeSafe | runtimeSensitive | safetyCritical | mixed
  deriving DecidableEq, Repr

structure CalibrationDiff where
  (baseRevision stagedRevision : UInt32)
  changeClass : CalibrationClass
  deriving DecidableEq, Repr

def CalibrationDiff.fromViews (active : ActiveCalibration) (staged : StagedCalibration)
    (changeClass : CalibrationClass) : CalibrationDiff :=
  ⟨active.revision, staged.revision, changeClass⟩

inductive CommitVerdict
  | allowNow | defer
  deriving DecidableEq, Repr

variable (diff : CalibrationDiff)

/-- `CommitRules::evaluate`. -/
def evaluate (runtimeSafe : Bool) : CommitVerdict :=
  match policy with
  | .deferred => .defer
  | .safeOnly => if runtimeSafe then .allowNow else .defer
  | .immediate =>
    match diff.changeClass with
    | .noChange | .metadataOnly => .allowNow
    | .runtimeSafe => if runtimeSafe then .allowNow else .defer
    | .runtimeSensitive => if runtimeSafe then .allowNow else .defer
    | .safetyCritical | .mixed => if runtimeSafe then .allowNow else .defer

/-- The classes a commit does not wait for. -/
def CalibrationClass.Light (c : CalibrationClass) : Prop := c = .noChange ∨ c = .metadataOnly

instance (c : CalibrationClass) : Decidable c.Light := inferInstanceAs (Decidable (_ ∨ _))

lemma evaluate_unsafe_iff :
    evaluate policy diff false = .allowNow ↔ policy = .immediate ∧ diff.changeClass.Light := by
  cases policy <;> cases h : diff.changeClass <;> simp [evaluate, h, CalibrationClass.Light]

/-! ### Pages -/

inductive ExpertTriggerPageError
  | record (e : ExpertTriggerRecordError)
  | transition (e : ExpertTriggerValidationError)
  deriving DecidableEq, Repr

/-- The record of a page, if it may take the place of the current one. -/
def applyExpertTriggerPage (current : ExpertTriggerCalibration) (data : List UInt8) :
    Except ExpertTriggerPageError ExpertTriggerCalibration :=
  match decodeRecord data with
  | .error e => .error (.record e)
  | .ok proposed =>
    match proposed.validateTransitionFrom current with
    | .error e => .error (.transition e)
    | .ok () => .ok proposed

/-! ### The surface -/

/-- TS-visible calibration write intent. -/
inductive CalibrationWrite
  | noChange | metadataOnly | runtimeSafe | runtimeSensitive | safetyCritical
  deriving DecidableEq, Repr

def CalibrationWrite.changeClass : CalibrationWrite → CalibrationClass
  | noChange => .noChange
  | metadataOnly => .metadataOnly
  | runtimeSafe => .runtimeSafe
  | runtimeSensitive => .runtimeSensitive
  | safetyCritical => .safetyCritical

inductive CalibrationCommandResult
  | committed (diff : CalibrationDiff)
  | deferred (diff : CalibrationDiff)
  | reset (diff : CalibrationDiff)
  deriving DecidableEq, Repr

structure CalibrationPackageWorkflowReview where
  candidateReview : CalibrationPackageReview
  candidateVsCurrent : CalibrationPackageCompareResult
  deriving DecidableEq

inductive CalibrationPackageApplyResult
  | appliedUnchanged (workflow : CalibrationPackageWorkflowReview)
      (package : PersistedCalibrationPackage) (diff : CalibrationDiff)
  | appliedMigrated (workflow : CalibrationPackageWorkflowReview)
      (package : PersistedCalibrationPackage) (diff : CalibrationDiff)
  | rejected (workflow : CalibrationPackageWorkflowReview)
  deriving DecidableEq

structure CalibrationEditSurface where
  snapshot : CalibrationSnapshot
  diff : CalibrationDiff
  deriving DecidableEq

open CalibrationEditSurface

namespace CalibrationEditSurface

variable (s : CalibrationEditSurface) (candidate : PersistedCalibrationPackage) (target : Target)

def new (snapshot : CalibrationSnapshot) : CalibrationEditSurface where
  snapshot
  diff := .fromViews snapshot.active snapshot.staged .noChange

def active : Calibration := s.snapshot.active.calibration

def staged : Calibration := s.snapshot.staged.calibration

/-- The surface with this staged calibration and the class recorded for it. -/
def record (staged : StagedCalibration) (c : CalibrationClass) : CalibrationEditSurface where
  snapshot := { s.snapshot with staged }
  diff := .fromViews s.snapshot.active staged c

def applyWrite (write : CalibrationWrite) : CalibrationEditSurface :=
  if write ≠ .noChange then s.record s.snapshot.staged.markDirty write.changeClass
  else s.record s.snapshot.staged write.changeClass

/-- The expert trigger is replaced; a record that is staged already counts as no change. -/
def syncExpertTriggerCalibration (proposed : ExpertTriggerCalibration) : CalibrationEditSurface :=
  if s.staged.geometry.expertTrigger = proposed then s.record s.snapshot.staged .noChange
  else
    s.record (s.snapshot.staged.replaceCalibration (s.staged.setExpertTrigger proposed))
      .safetyCritical

def applyExpertTriggerPage (data : List UInt8) :
    CalibrationEditSurface × Except ExpertTriggerPageError CalibrationDiff :=
  match Calibrations.applyExpertTriggerPage s.active.geometry.expertTrigger data with
  | .error e => (s, .error e)
  | .ok proposed =>
    let s := s.syncExpertTriggerCalibration proposed
    (s, .ok s.diff)

def commit (policy : CommitPolicy) (runtimeSafe : Bool) :
    CalibrationEditSurface × CalibrationCommandResult :=
  match evaluate policy s.diff runtimeSafe with
  | .allowNow =>
    let active : ActiveCalibration := ⟨s.snapshot.staged.revision, s.staged⟩
    (new ⟨active, .new active.revision active.calibration⟩, .committed s.diff)
  | .defer => (s, .deferred s.diff)

def resetStaged : CalibrationEditSurface × CalibrationCommandResult :=
  let s := s.record (.new s.snapshot.active.revision s.active) .noChange
  (s, .reset s.diff)

def persistWithTargetIdentity : PersistedCalibrationPackage := .new (.new s.snapshot) target

def reviewCandidatePackage : CalibrationPackageWorkflowReview where
  candidateReview := candidate.reviewAgainst target
  candidateVsCurrent := (s.persistWithTargetIdentity target).compareAgainst candidate

/-- The staged calibration of an accepted package takes the place of the staged one. -/
def takePackage (package : PersistedCalibrationPackage) : CalibrationEditSurface :=
  let next := package.blob.snapshot.staged.calibration
  s.record (s.snapshot.staged.replaceCalibration next)
    (if s.staged ≠ next then .safetyCritical else .noChange)

def applyCandidatePackage : CalibrationEditSurface × CalibrationPackageApplyResult :=
  let workflow := s.reviewCandidatePackage candidate target
  match candidate.migrateAgainst target with
  | .rejected _ => (s, .rejected workflow)
  | .unchanged _ package =>
    let s := s.takePackage package
    (s, .appliedUnchanged workflow package s.diff)
  | .migrated _ package =>
    let s := s.takePackage package
    (s, .appliedMigrated workflow package s.diff)

end CalibrationEditSurface

/-! ### What the operations do to the contents -/

namespace CalibrationEditSurface

variable (s : CalibrationEditSurface) (t : StagedCalibration) (c : CalibrationClass)
  (p : PersistedCalibrationPackage)

@[simp] lemma active_record : (s.record t c).active = s.active := rfl

@[simp] lemma staged_record : (s.record t c).staged = t.calibration := rfl

@[simp] lemma class_record : (s.record t c).diff.changeClass = c := rfl

/-- The staged content after an edit and the class recorded for it. -/
structure Edited (s s' : CalibrationEditSurface) (content : Calibration) (c : CalibrationClass) :
    Prop where
  active : s'.active = s.active
  staged : s'.staged = content
  recorded : s'.diff.changeClass = c

lemma edited_applyWrite (w : CalibrationWrite) :
    Edited s (s.applyWrite w) s.staged w.changeClass := by
  unfold applyWrite
  split <;> exact ⟨rfl, rfl, rfl⟩

/-- The class of a replacement: nothing changes, or it is critical. -/
def replaceClass (old new : Calibration) : CalibrationClass :=
  if old = new then .noChange else .safetyCritical

lemma edited_sync (e : ExpertTriggerCalibration) :
    Edited s (s.syncExpertTriggerCalibration e) (s.staged.setExpertTrigger e)
      (replaceClass s.staged (s.staged.setExpertTrigger e)) := by
  have hsame : s.staged = s.staged.setExpertTrigger e ↔ s.staged.geometry.expertTrigger = e :=
    ⟨fun h => congrArg (fun c : Calibration => c.geometry.expertTrigger) h, fun h => by
      rw [← h]
      rfl⟩
  unfold syncExpertTriggerCalibration replaceClass
  by_cases h : s.staged.geometry.expertTrigger = e
  · rw [if_pos h, if_pos (hsame.mpr h)]
    exact ⟨rfl, hsame.mpr h, rfl⟩
  · rw [if_neg h, if_neg (mt hsame.mp h)]
    exact ⟨rfl, by simp, rfl⟩

lemma edited_takePackage :
    Edited s (s.takePackage p) p.blob.snapshot.staged.calibration
      (replaceClass s.staged p.blob.snapshot.staged.calibration) := by
  refine ⟨rfl, by simp [takePackage], ?_⟩
  simp [takePackage, replaceClass]

lemma applyCandidatePackage_cases (target : Target) :
    (p.identity.target ≠ target ∧ (s.applyCandidatePackage p target).1 = s ∧
        ∃ w, (s.applyCandidatePackage p target).2 = .rejected w) ∨
      (p.identity.target = target ∧
        Edited s (s.applyCandidatePackage p target).1 p.blob.snapshot.staged.calibration
          (replaceClass s.staged p.blob.snapshot.staged.calibration) ∧
        ∀ w, (s.applyCandidatePackage p target).2 ≠ .rejected w) := by
  unfold applyCandidatePackage
  rcases p.migrateAgainst_cases target with ⟨hne, r, hr⟩ | ⟨heq, r, q, hq, hr | hr⟩
  · rw [hr]
    exact .inl ⟨hne, rfl, _, rfl⟩
  · rw [hr, ← hq]
    exact .inr ⟨heq, s.edited_takePackage q, by simp⟩
  · rw [hr, ← hq]
    exact .inr ⟨heq, s.edited_takePackage q, by simp⟩

end CalibrationEditSurface

/-! ### Runs -/

inductive EditOp
  | applyWrite (write : CalibrationWrite)
  | applyExpertTriggerPage (data : List UInt8)
  | syncExpertTriggerCalibration (proposed : ExpertTriggerCalibration)
  | applyCandidatePackage (candidate : PersistedCalibrationPackage) (target : Target)
  | resetStaged
  | commit (policy : CommitPolicy) (runtimeSafe : Bool)

namespace CalibrationEditSurface

variable (s : CalibrationEditSurface)

def step : EditOp → CalibrationEditSurface
  | .applyWrite write => s.applyWrite write
  | .applyExpertTriggerPage data => (s.applyExpertTriggerPage data).1
  | .syncExpertTriggerCalibration proposed => s.syncExpertTriggerCalibration proposed
  | .applyCandidatePackage candidate target => (s.applyCandidatePackage candidate target).1
  | .resetStaged => s.resetStaged.1
  | .commit policy runtimeSafe => (s.commit policy runtimeSafe).1

/-- A commit while the runtime is not safe leaves the active content. -/
def KeepsActive : EditOp → Prop
  | .commit policy false => (s.commit policy false).1.active = s.active
  | _ => True

/-- An edit that leaves the staged content as it is, or is declared to change nothing that
matters, while a change is pending. Edits that are refused and commits that may be deferred do not
count. -/
def hides : EditOp → Option Bool
  | .applyWrite write => some (decide (write.changeClass.Light ∧ s.staged ≠ s.active))
  | .applyExpertTriggerPage data =>
    match Calibrations.applyExpertTriggerPage s.active.geometry.expertTrigger data with
    | .error _ => none
    | .ok e => some (decide (s.staged = s.staged.setExpertTrigger e ∧ s.staged ≠ s.active))
  | .syncExpertTriggerCalibration e =>
    some (decide (s.staged = s.staged.setExpertTrigger e ∧ s.staged ≠ s.active))
  | .applyCandidatePackage p target =>
    if p.identity.target ≠ target then none
    else some (decide (s.staged = p.blob.snapshot.staged.calibration ∧ s.staged ≠ s.active))
  | .resetStaged => some false
  | .commit policy runtimeSafe => if runtimeSafe ∧ policy ≠ .deferred then some false else none

end CalibrationEditSurface

/-- A session, with whether the last edit has hidden a pending change. -/
structure Session where
  surface : CalibrationEditSurface
  hidden : Bool

namespace Session

variable (t : Session)

def step (op : EditOp) : Session where
  surface := t.surface.step op
  hidden := (t.surface.hides op).getD t.hidden

/-- No unsafe commit under the immediate policy while a change is hidden. -/
def Waits : EditOp → Prop
  | .commit .immediate false => t.hidden = false
  | _ => True

/-- What is hidden is a pending change under a class that a commit does not wait for. -/
def Inv : Prop :=
  t.hidden = true ↔ t.surface.diff.changeClass.Light ∧ t.surface.staged ≠ t.surface.active

lemma Inv.not_hidden_iff {t : Session} (h : t.Inv) :
    t.hidden = false ↔
      (t.surface.diff.changeClass.Light → t.surface.staged = t.surface.active) := by
  rw [← Bool.not_eq_true, not_congr h, not_and, not_ne_iff]

end Session

namespace CalibrationEditSurface

variable {s : CalibrationEditSurface} {policy : CommitPolicy} {content : Calibration} {safe : Bool}

lemma light_replaceClass (old new : Calibration) : (replaceClass old new).Light ↔ old = new := by
  unfold replaceClass
  split <;> simp_all [CalibrationClass.Light]

lemma inv_edited {s' : CalibrationEditSurface} {c : CalibrationClass} (h : Edited s s' content c)
    (hc : c.Light → content = s.staged) :
    Session.Inv ⟨s', decide (c.Light ∧ s.staged ≠ s.active)⟩ := by
  rw [Session.Inv, decide_eq_true_iff, h.recorded, h.staged, h.active]
  exact and_congr_right fun hl => by rw [hc hl]

lemma inv_replaced {s' : CalibrationEditSurface}
    (h : Edited s s' content (replaceClass s.staged content)) :
    Session.Inv ⟨s', decide (s.staged = content ∧ s.staged ≠ s.active)⟩ := by
  have hinv := inv_edited h fun hl => ((light_replaceClass _ _).mp hl).symm
  simpa only [light_replaceClass] using hinv

lemma commit_of_allowed (h : evaluate policy s.diff safe = .allowNow) :
    (s.commit policy safe).1.active = s.staged ∧ (s.commit policy safe).1.staged = s.staged := by
  rw [commit, h]
  exact ⟨rfl, rfl⟩

lemma commit_of_deferred (h : evaluate policy s.diff safe ≠ .allowNow) :
    (s.commit policy safe).1 = s := by
  unfold commit
  cases hv : evaluate policy s.diff safe with
  | allowNow => exact absurd hv h
  | defer => rfl

lemma inv_commit_allowed (h : evaluate policy s.diff safe = .allowNow) :
    Session.Inv ⟨(s.commit policy safe).1, false⟩ := by
  obtain ⟨hactive, hstaged⟩ := commit_of_allowed h
  simp [Session.Inv, hactive, hstaged]

lemma evaluate_safe (h : policy ≠ .deferred) (diff : CalibrationDiff) :
    evaluate policy diff true = .allowNow := by
  cases policy with
  | deferred => exact absurd rfl h
  | safeOnly => rfl
  | immediate => cases hc : diff.changeClass <;> simp [evaluate, hc]

end CalibrationEditSurface

namespace Session

open CalibrationEditSurface

variable {t : Session}

/-- **Unsafe commits.** Under the invariant a commit while the runtime is not safe keeps the active
content exactly when nothing is hidden from it. -/
lemma keepsActive_iff (h : t.Inv) (op : EditOp) : t.surface.KeepsActive op ↔ t.Waits op := by
  cases op with
  | commit policy safe =>
    cases safe with
    | true => cases policy <;> exact Iff.rfl
    | false =>
      show (t.surface.commit policy false).1.active = _ ↔ _
      by_cases hv : evaluate policy t.surface.diff false = .allowNow
      · obtain ⟨rfl, hl⟩ := (evaluate_unsafe_iff policy _).mp hv
        show _ ↔ t.hidden = false
        rw [(commit_of_allowed hv).1, h.not_hidden_iff]
        exact ⟨fun hs _ => hs, fun hs => hs hl⟩
      · rw [commit_of_deferred hv]
        refine iff_of_true rfl ?_
        cases policy with
        | immediate =>
          exact h.not_hidden_iff.mpr fun hl => absurd ((evaluate_unsafe_iff _ _).mpr ⟨rfl, hl⟩) hv
        | _ => trivial
  | _ => exact Iff.rfl

lemma inv_step (h : t.Inv) {op : EditOp} (hk : t.surface.KeepsActive op) : (t.step op).Inv := by
  cases op with
  | applyWrite write => exact inv_edited (t.surface.edited_applyWrite write) fun _ => rfl
  | applyExpertTriggerPage data =>
    unfold step CalibrationEditSurface.step hides
      CalibrationEditSurface.applyExpertTriggerPage
    dsimp only
    cases Calibrations.applyExpertTriggerPage t.surface.active.geometry.expertTrigger data with
    | error e => exact h
    | ok e => exact inv_replaced (t.surface.edited_sync e)
  | syncExpertTriggerCalibration e => exact inv_replaced (t.surface.edited_sync e)
  | applyCandidatePackage p target =>
    rcases t.surface.applyCandidatePackage_cases p target with ⟨hne, hsame, -⟩ | ⟨heq, hedit, -⟩
    · simp only [step, CalibrationEditSurface.step, hides, hsame, if_pos hne]
      exact h
    · simp only [step, step, hides, if_neg (not_not.mpr heq)]
      exact inv_replaced hedit
  | resetStaged => simp [Inv, step, CalibrationEditSurface.step, CalibrationEditSurface.hides,
      resetStaged, StagedCalibration.new]
  | commit policy safe =>
    show Inv ⟨(t.surface.commit policy safe).1, (t.surface.hides (.commit policy safe)).getD t.hidden⟩
    by_cases hv : evaluate policy t.surface.diff safe = .allowNow
    · cases safe with
      | true =>
        have hp : policy ≠ .deferred := by
          rintro rfl
          cases hv
        simp only [CalibrationEditSurface.hides, hp, ne_eq, not_false_eq_true, and_self, if_true,
          Option.getD_some]
        exact inv_commit_allowed hv
      | false =>
        -- the commit has kept the active content, so nothing was pending
        obtain ⟨rfl, -⟩ := (evaluate_unsafe_iff policy _).mp hv
        have hhidden : t.hidden = false := (keepsActive_iff h _).mp hk
        simp only [CalibrationEditSurface.hides, Bool.false_eq_true, false_and, if_false,
          Option.getD_none, hhidden]
        exact inv_commit_allowed hv
    · have hop : ¬ (safe = true ∧ policy ≠ .deferred) := by
        rintro ⟨rfl, hp⟩
        exact hv (evaluate_safe hp _)
      rw [commit_of_deferred hv, CalibrationEditSurface.hides, if_neg hop]
      exact h

end Session

/-- **Unsafe commits over whole sessions.** From a snapshot with nothing pending, along any
operations: no commit while the runtime is not safe changes the active content, exactly when no
such commit is made under the immediate policy while the last edit hides a pending change. -/
theorem unsafe_commits_keep_active_iff {snapshot : CalibrationSnapshot}
    (h : snapshot.staged.calibration = snapshot.active.calibration) (ops : List EditOp) :
    Along CalibrationEditSurface.step CalibrationEditSurface.KeepsActive (.new snapshot) ops ↔
      Along Session.step Session.Waits ⟨.new snapshot, false⟩ ops := by
  have hstart : Session.Inv ⟨.new snapshot, false⟩ := by
    exact iff_of_false Bool.false_ne_true fun hp => hp.2 h
  have hmap : Along Session.step (fun t op => t.surface.KeepsActive op) ⟨.new snapshot, false⟩ ops ↔
      Along CalibrationEditSurface.step CalibrationEditSurface.KeepsActive (.new snapshot) ops :=
    along_map (f := Session.surface) fun _ _ => rfl
  rw [← hmap]
  exact along_iff_of_inv (I := Session.Inv) (L := fun _ _ => True)
    (fun t op ht _ => Session.keepsActive_iff ht op) (fun t op ht _ hk => Session.inv_step ht hk) hstart
    along_true

def defaultSnapshot : CalibrationSnapshot := ⟨⟨0, .default⟩, .new 0 .default⟩

/-- The default record with another wheel. -/
def retuned : ExpertTriggerCalibration :=
  { ExpertTriggerCalibration.default with primaryBaseTeeth := 36, missingTeeth := 1 }

def retunedPage : List UInt8 :=
  [1, 0, 0, 0, 0, 0, 0, 0, 0, 0, 0, 0, 0, 36, 1, 0, 0, 0, 1, 0, 0, 0, 0, 2, 0, 2, 1, 1, 0, 0, 100, 0,
    0, 0, 0, 0, 0, 0, 0, 0, 0, 0, 0, 0, 0, 0, 0, 0]

/-- A page and an unsafe commit, which is deferred; then a safe one. -/
theorem unsafe_commits_keep_active_onePage :
    defaultSnapshot.staged.calibration = defaultSnapshot.active.calibration ∧
      Along CalibrationEditSurface.step CalibrationEditSurface.KeepsActive (.new defaultSnapshot)
        [.applyExpertTriggerPage retunedPage, .commit .immediate false, .commit .safeOnly true] := by
  have hopen : (Session.step ⟨.new defaultSnapshot, false⟩
      (.applyExpertTriggerPage retunedPage)).hidden = false := by
    decide
  exact ⟨rfl, (unsafe_commits_keep_active_iff rfl _).mpr ⟨trivial, hopen, trivial, trivial⟩⟩

/-- The same page sent twice, then an unsafe commit: the page is live. -/
theorem repeated_page_goes_live :
    (run CalibrationEditSurface.step (.new defaultSnapshot)
        [.applyExpertTriggerPage retunedPage, .applyExpertTriggerPage retunedPage,
          .commit .immediate false]).active.geometry.expertTrigger = retuned ∧
      ¬ Along CalibrationEditSurface.step CalibrationEditSurface.KeepsActive (.new defaultSnapshot)
        [.applyExpertTriggerPage retunedPage, .applyExpertTriggerPage retunedPage,
          .commit .immediate false] := by
  refine ⟨by decide, fun hkeeps => ?_⟩
  have hactive := congrArg (fun c : Calibration => c.geometry.expertTrigger) hkeeps.2.2.1
  exact absurd hactive (by decide)

end Pipoco.Calibrations
