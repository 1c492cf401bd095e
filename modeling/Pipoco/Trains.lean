import Mathlib.Data.List.Nodup
import Mathlib.Data.List.Pairwise
import Mathlib.Order.Basic
import Mathlib.Tactic

/-!
Trains of pulses.

A pulse raises the line named by its key at one time and lowers it at a later one. A train is a
list of pulses of which no two overlap on one line; they may touch. In a train a pulse is known
by its rise, and also by its fall.
-/

namespace Pipoco.Trains

variable {κ τ : Type*} [LinearOrder τ]

structure Pulse (κ τ : Type*) where
  key : κ
  (rise fall : τ)

/-- Two pulses do not overlap on one line. -/
def Pulse.Apart (p q : Pulse κ τ) : Prop := p.key = q.key → p.fall ≤ q.rise ∨ q.fall ≤ p.rise

lemma Pulse.Apart.symm {p q : Pulse κ τ} (h : p.Apart q) : q.Apart p := fun he => (h he.symm).symm

instance : Std.Symm (@Pulse.Apart κ τ _) := ⟨fun _ _ h => h.symm⟩

/-- Pulses of positive length, no two of which overlap on one line. -/
structure Train (κ τ : Type*) [LinearOrder τ] where
  pulses : List (Pulse κ τ)
  proper : ∀ p ∈ pulses, p.rise < p.fall
  apart : pulses.Pairwise Pulse.Apart

namespace Train

variable (T : Train κ τ) {p q : Pulse κ τ}

lemma apart_of_ne (hp : p ∈ T.pulses) (hq : q ∈ T.pulses) (hne : p ≠ q) : p.Apart q :=
  T.apart.forall hp hq hne

/-- Two pulses of a line that share a time are one. -/
lemma eq_of_lt_of_lt (hp : p ∈ T.pulses) (hq : q ∈ T.pulses) (hk : p.key = q.key)
    (h₁ : p.rise < q.fall) (h₂ : q.rise < p.fall) : p = q := by
  by_contra hne
  rcases T.apart_of_ne hp hq hne hk with h | h
  · exact absurd h₂ (not_lt.mpr h)
  · exact absurd h₁ (not_lt.mpr h)

lemma eq_of_rise_eq (hp : p ∈ T.pulses) (hq : q ∈ T.pulses) (hk : p.key = q.key)
    (h : p.rise = q.rise) : p = q := by
  have hpp := T.proper p hp
  have hqq := T.proper q hq
  exact T.eq_of_lt_of_lt hp hq hk (h ▸ hqq) (h ▸ hpp)

lemma eq_of_fall_eq (hp : p ∈ T.pulses) (hq : q ∈ T.pulses) (hk : p.key = q.key)
    (h : p.fall = q.fall) : p = q := by
  have hpp := T.proper p hp
  have hqq := T.proper q hq
  exact T.eq_of_lt_of_lt hp hq hk (h ▸ hpp) (h ▸ hqq)

lemma nodup : T.pulses.Nodup := by
  refine List.Pairwise.imp_of_mem ?_ T.apart
  intro p q hp _ h he
  subst he
  have := T.proper p hp
  rcases h rfl with h | h <;> exact absurd this (not_lt.mpr h)

end Train

end Pipoco.Trains
