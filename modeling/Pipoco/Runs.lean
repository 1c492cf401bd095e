import Mathlib.Tactic

/-!
Runs of a machine given by its step function.

A run is a list of operations, folded over a state. Two rules are all the later files need:
what every step preserves holds at the end of every run, and a property of single steps holds
along a whole run as soon as an invariant carries it from one step to the next.
-/

namespace Pipoco.Runs

variable {σ ι : Type*} (step : σ → ι → σ) (C : σ → ι → Prop) (s : σ)

/-- The state a list of operations leads to. -/
def run (ops : List ι) : σ := ops.foldl step s

@[simp] lemma run_nil : run step s [] = s := rfl
@[simp] lemma run_cons (o : ι) (ops : List ι) :
    run step s (o :: ops) = run step (step s o) ops := rfl
lemma run_append (u v : List ι) : run step s (u ++ v) = run step (run step s u) v := by
  simp [run, List.foldl_append]

/-- Every step of the run has the property `C`, read at the state before it. -/
def Along (C : σ → ι → Prop) : σ → List ι → Prop
  | _, [] => True
  | s, o :: ops => C s o ∧ Along C (step s o) ops

@[simp] lemma along_nil : Along step C s [] := trivial
@[simp] lemma along_cons (o : ι) (ops : List ι) :
    Along step C s (o :: ops) ↔ C s o ∧ Along step C (step s o) ops := Iff.rfl

lemma along_append (u v : List ι) :
    Along step C s (u ++ v) ↔ Along step C s u ∧ Along step C (run step s u) v := by
  induction u generalizing s with
  | nil => simp
  | cons o u ih => simp only [List.cons_append, along_cons, run_cons, ih, and_assoc]

instance (C : σ → ι → Prop) [∀ s o, Decidable (C s o)] :
    ∀ (s : σ) (ops : List ι), Decidable (Along step C s ops)
  | _, [] => isTrue trivial
  | s, o :: ops => @instDecidableAnd _ _ inferInstance (instDecidableAlong C (step s o) ops)

/-- What the steps of a run put out, in order; a step may put out nothing. -/
def outputs {ω : Type*} (out : σ → ι → Option ω) : σ → List ι → List ω
  | _, [] => []
  | s, o :: ops => (out s o).toList ++ outputs out (step s o) ops

@[simp] lemma outputs_nil {ω : Type*} (out : σ → ι → Option ω) (s : σ) :
    outputs step out s [] = [] := rfl
@[simp] lemma outputs_cons {ω : Type*} (out : σ → ι → Option ω) (s : σ) (o : ι) (ops : List ι) :
    outputs step out s (o :: ops) = (out s o).toList ++ outputs step out (step s o) ops := rfl

lemma outputs_append {ω : Type*} (out : σ → ι → Option ω) (s : σ) (u v : List ι) :
    outputs step out s (u ++ v) = outputs step out s u ++ outputs step out (run step s u) v := by
  induction u generalizing s with
  | nil => rfl
  | cons o u ih => rw [List.cons_append, outputs_cons, outputs_cons, ih, run_cons, List.append_assoc]

variable {step} {I : σ → Prop} {C} {s}

/-- **The invariant rule.** What every step preserves holds after every run. -/
theorem run_inv (hstep : ∀ s o, I s → I (step s o)) (hs : I s) (ops : List ι) :
    I (run step s ops) := by
  induction ops generalizing s with
  | nil => exact hs
  | cons o ops ih => exact ih (hstep s o hs)

variable {ops : List ι}

/-- **The invariant rule for restricted runs.** The steps may assume the condition the run
meets at every step. -/
theorem run_inv_along (hstep : ∀ s o, I s → C s o → I (step s o)) (hs : I s)
    (hc : Along step C s ops) : I (run step s ops) := by
  induction ops generalizing s with
  | nil => exact hs
  | cons o ops ih => exact ih (hstep s o hs hc.1) hc.2

lemma along_of_forall (h : ∀ o ∈ ops, ∀ s, C s o) (s : σ) : Along step C s ops := by
  induction ops generalizing s with
  | nil => trivial
  | cons o ops ih =>
    exact ⟨h o List.mem_cons_self s, ih (fun o' ho => h o' (List.mem_cons_of_mem _ ho)) _⟩

lemma along_true : Along step (fun _ _ => True) s ops := along_of_forall (fun _ _ _ => trivial) s

lemma along_mono {D : σ → ι → Prop} (hCD : ∀ s o, C s o → D s o) (h : Along step C s ops) :
    Along step D s ops := by
  induction ops generalizing s with
  | nil => trivial
  | cons o ops ih => exact ⟨hCD s o h.1, ih h.2⟩

lemma along_and {D : σ → ι → Prop} :
    Along step (fun s o => C s o ∧ D s o) s ops ↔ Along step C s ops ∧ Along step D s ops := by
  induction ops generalizing s with
  | nil => simp
  | cons o ops ih => simp only [along_cons, ih]; tauto

/-- A property of a part of the state that steps on its own. -/
lemma along_map {τ : Type*} {step' : τ → ι → τ} {f : τ → σ}
    (hf : ∀ t o, f (step' t o) = step (f t) o) {t : τ} :
    Along step' (fun t o => C (f t) o) t ops ↔ Along step C (f t) ops := by
  induction ops generalizing t with
  | nil => simp
  | cons o ops ih => rw [along_cons, along_cons, ih, hf]

/-- **A safe run.** A condition that keeps an invariant, and gives the property under it, gives
the property at every step. -/
theorem along_of_inv {Q : σ → ι → Prop} (hQ : ∀ s o, I s → C s o → Q s o)
    (hstep : ∀ s o, I s → C s o → I (step s o)) (hs : I s) (hc : Along step C s ops) :
    Along step Q s ops := by
  induction ops generalizing s with
  | nil => trivial
  | cons o ops ih => exact ⟨hQ s o hs hc.1, ih (hstep s o hs hc.1) hc.2⟩

/-- **From steps to runs.** In runs that meet `L`: if under an invariant the steps with the
property `Q` are those that meet `C`, and these keep the invariant, then a run has `Q` at every
step exactly when it meets `C` at every step. -/
theorem along_iff_of_inv {L Q : σ → ι → Prop} (hiff : ∀ s o, I s → L s o → (Q s o ↔ C s o))
    (hstep : ∀ s o, I s → L s o → Q s o → I (step s o)) (hs : I s) (hl : Along step L s ops) :
    Along step Q s ops ↔ Along step C s ops := by
  induction ops generalizing s with
  | nil => simp
  | cons o ops ih =>
    rw [along_cons, along_cons, ← hiff s o hs hl.1]
    refine and_congr_right fun hQ => ?_
    exact ih (hstep s o hs hl.1 hQ) hl.2

/-- **A part that steps on its own.** If a part of the state takes, under an invariant, every step
as a step of its own, it takes every run as a run of its own. -/
theorem run_part {τ κ : Type*} {step' : τ → κ → τ} {f : τ → σ} {g : κ → ι} {I : τ → Prop}
    (hstep : ∀ t o, I t → f (step' t o) = step (f t) (g o) ∧ I (step' t o)) {t : τ} (ht : I t)
    (ops : List κ) : f (run step' t ops) = run step (f t) (ops.map g) ∧ I (run step' t ops) := by
  induction ops generalizing t with
  | nil => exact ⟨rfl, ht⟩
  | cons o ops ih =>
    obtain ⟨hf, hI⟩ := hstep t o ht
    rw [List.map_cons, run_cons, run_cons, ← hf]
    exact ih hI

/-- **Machines in step.** A relation that every operation keeps holds between two runs. -/
theorem run_rel {τ : Type*} {step' : τ → ι → τ} {R : σ → τ → Prop}
    (hstep : ∀ s t o, R s t → R (step s o) (step' t o)) {t : τ} (h : R s t) (ops : List ι) :
    R (run step s ops) (run step' t ops) := by
  induction ops generalizing s t with
  | nil => exact h
  | cons o ops ih => exact ih (hstep s t o h)

/-- **Renamed runs.** If renaming commutes with every step of the run, it commutes with the
run. -/
theorem run_rename {f : σ → σ} {g : ι → ι} (hstep : ∀ s o, C s o → step (f s) (g o) = f (step s o))
    (hc : Along step C s ops) : run step (f s) (ops.map g) = f (run step s ops) := by
  induction ops generalizing s with
  | nil => rfl
  | cons o ops ih => rw [List.map_cons, run_cons, run_cons, hstep s o hc.1, ih hc.2]

end Pipoco.Runs
