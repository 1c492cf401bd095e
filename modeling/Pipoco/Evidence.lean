import Pipoco.Runs

/-!
Conditions that hold for a time.

Samples arrive one after the other, each taken at some time. A monitor that acts on what lasts
starts a timer when its condition sets in and reads it on later samples; the timer is a reading of
a 32-bit clock. What such a timer measures is the time since a sample from which on the condition
held on every sample, as long as every sample without the condition stops it.
-/

namespace Pipoco.Evidence

open Runs

/-! ### The clock -/

/-- The reading of the clock at a time. -/
def stamp (t : ℕ) : UInt32 := UInt32.ofNat t

/-- The clock shows the time that has passed up to whole turns. -/
lemma toNat_stamp_sub {t n : ℕ} (h : t ≤ n) : (stamp n - stamp t).toNat = (n - t) % 2 ^ 32 := by
  rw [stamp, stamp, ← UInt32.ofNat_sub h, UInt32.toNat_ofNat']

/-- What the clock shows to have passed has passed. -/
lemma add_le_of_le_stamp_sub {t n d : ℕ} (h : t ≤ n) (hd : d ≤ (stamp n - stamp t).toNat) :
    t + d ≤ n := by
  rw [toNat_stamp_sub h] at hd
  omega

/-! ### Histories -/

section history

variable {ι : Type*} (time : ι → ℕ) (p : ι → List ι → Prop)

/-- The condition has held on every sample since one taken at time `t`. The latest sample of a
history comes first, and the condition may look at the samples before. -/
inductive Since (p : ι → List ι → Prop) (t : ℕ) : List ι → Prop
  | first {x : ι} {past : List ι} (hp : p x past) (ht : time x = t) : Since p t (x :: past)
  | later {x : ι} {past : List ι} (hp : p x past) (h : Since p t past) : Since p t (x :: past)

/-- The condition has held on every sample of the last `d` and on one at least as old. -/
def HeldFor (d : ℕ) (x : ι) (past : List ι) : Prop :=
  ∃ t, Since time p t (x :: past) ∧ t + d ≤ time x

/-- The timer was started by a sample since which the condition has held. -/
def Times (start : UInt32) (past : List ι) : Prop := ∃ t, Since time p t past ∧ stamp t = start

variable {time} {p q : ι → List ι → Prop} {t d : ℕ} {x : ι} {past : List ι} {start : UInt32}

lemma Since.head (h : Since time p t (x :: past)) : p x past := by
  cases h with
  | first hp _ | later hp _ => exact hp

lemma Since.mono (hpq : ∀ x past, p x past → q x past) (h : Since time p t past) :
    Since time q t past := by
  induction h with
  | first hp ht => exact .first (hpq _ _ hp) ht
  | later hp _ ih => exact .later (hpq _ _ hp) ih

lemma Since.exists_mem (h : Since time p t past) : ∃ y ∈ past, time y = t := by
  induction h with
  | first _ ht => exact ⟨_, (.head _), ht⟩
  | later _ _ ih =>
    obtain ⟨y, hy, ht⟩ := ih
    exact ⟨y, List.mem_cons_of_mem _ hy, ht⟩

/-- A stretch either begins with the latest sample or was there before. -/
lemma Since.cases_cons (h : Since time p t (x :: past)) : time x = t ∨ Since time p t past := by
  cases h with
  | first _ ht => exact .inl ht
  | later _ h => exact .inr h

lemma Since.le (h : Since time p t (x :: past)) (hord : ∀ y ∈ past, time y ≤ time x) :
    t ≤ time x := by
  obtain ⟨y, hy, rfl⟩ := h.exists_mem
  rcases List.mem_cons.mp hy with rfl | hy
  · exact le_rfl
  · exact hord y hy

lemma HeldFor.head (h : HeldFor time p d x past) : p x past := by
  obtain ⟨_, hsince, _⟩ := h
  exact hsince.head

lemma Times.first (hp : p x past) : Times time p (stamp (time x)) (x :: past) :=
  ⟨time x, .first hp rfl, rfl⟩

lemma Times.later (hp : p x past) (h : Times time p start past) : Times time p start (x :: past) := by
  obtain ⟨t, hsince, hstart⟩ := h
  exact ⟨t, .later hp hsince, hstart⟩

/-- **A timer that has run out.** The condition has held for the time the timer shows. -/
lemma Times.heldFor (h : Times time p start (x :: past)) (hord : ∀ y ∈ past, time y ≤ time x)
    (hd : d ≤ (stamp (time x) - start).toNat) : HeldFor time p d x past := by
  obtain ⟨t, hsince, rfl⟩ := h
  exact ⟨t, hsince, add_le_of_le_stamp_sub (hsince.le hord) hd⟩

end history

/-! ### Machines and what they have seen -/

/-- A machine with the samples it has been given, the latest first. -/
structure Recorded (σ ι : Type*) where
  state : σ
  past : List ι

namespace Recorded

variable {σ ι : Type*} {next : σ → ι → σ} {time : ι → ℕ} (r : Recorded σ ι) {xs : List ι}

def start (s : σ) : Recorded σ ι := ⟨s, []⟩

variable (next) in
def step (r : Recorded σ ι) (x : ι) : Recorded σ ι := ⟨next r.state x, x :: r.past⟩

@[simp] lemma state_step (x : ι) : (r.step next x).state = next r.state x := rfl
@[simp] lemma past_step (x : ι) : (r.step next x).past = x :: r.past := rfl
@[simp] lemma past_start (s : σ) : (start s : Recorded σ ι).past = [] := rfl

lemma past_run (xs : List ι) : (run (step next) r xs).past = xs.reverse ++ r.past := by
  induction xs generalizing r with
  | nil => rfl
  | cons x xs ih =>
    rw [run_cons, ih, past_step, List.reverse_cons, List.append_assoc, List.singleton_append]

/-- The sample is taken no earlier than those before it. -/
def InOrder (time : ι → ℕ) (r : Recorded σ ι) (x : ι) : Prop := ∀ y ∈ r.past, time y ≤ time x
  deriving Decidable

variable {r} in
lemma along_inOrder_of_past (hxs : xs.Pairwise fun x y => time x ≤ time y)
    (hpast : ∀ x ∈ xs, ∀ y ∈ r.past, time y ≤ time x) :
    Along (Recorded.step next) (InOrder time) r xs := by
  induction xs generalizing r with
  | nil => trivial
  | cons x xs ih =>
    obtain ⟨hx, hxs⟩ := List.pairwise_cons.mp hxs
    refine ⟨hpast x (.head _), ih hxs fun x' hx' y hy => ?_⟩
    rcases List.mem_cons.mp hy with rfl | hy
    · exact hx x' hx'
    · exact hpast x' (.tail _ hx') y hy

/-- Samples in the order of their times are in order at every step. -/
lemma along_inOrder {s : σ} (hxs : xs.Pairwise fun x y => time x ≤ time y) :
    Along (Recorded.step next) (InOrder time) (start s) xs :=
  along_inOrder_of_past hxs fun _ _ _ hy => absurd hy List.not_mem_nil

end Recorded

end Pipoco.Evidence
