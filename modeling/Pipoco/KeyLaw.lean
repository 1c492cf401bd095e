import Pipoco.Runs

/-!
What a keyed store owes its readers.

Beside the store runs the value every key may be read with: the one last written to it, or the one
it had at the start. The store is lawful as long as every successful read returns that value. A
store that rewrites all keys at once stays lawful exactly when the keys it was not asked to write
could be read before.
-/

namespace Pipoco.Keys

open Runs

variable {σ κ β ι : Type*} [DecidableEq κ] (e : κ → Option β) {w : Option (κ × β)}

/-- The values the keys may be read with after a write. -/
def expect : Option (κ × β) → κ → Option β
  | none => e
  | some (k, b) => Function.update e k (some b)

lemma expect_written (k : κ) (b : β) : expect e (some (k, b)) k = some b := Function.update_self ..

lemma expect_not_written {k : κ} (h : ∀ b, w ≠ some (k, b)) : expect e w k = e k := by
  cases w with
  | none => rfl
  | some p =>
    refine Function.update_of_ne ?_ _ _
    rintro rfl
    exact h p.2 rfl

variable {e} in
lemma expect_unchanged (h : ∀ k b, w = some (k, b) → e k = some b) : expect e w = e := by
  cases w with
  | none => rfl
  | some p =>
    show Function.update e p.1 (some p.2) = e
    rw [← h p.1 p.2 rfl, Function.update_eq_self]

/-- A store with the value every key may be read with. -/
structure Tracked (σ κ β : Type*) where
  store : σ
  expected : κ → Option β

section Law

variable (step : σ → ι → σ) (reads : σ → κ → Option β) (writes : σ → ι → Option (κ × β))
  (t : Tracked σ κ β)

def track (op : ι) : Tracked σ κ β := ⟨step t.store op, expect t.expected (writes t.store op)⟩

/-- Every successful read returns the expected value. -/
def Lawful : Prop := ∀ k b, reads t.store k = some b → t.expected k = some b

/-- **The law of keys.** After every operation of the run a key is read only with the bytes last
written to it, or with those it was read with at the start if it was not written; so a key that
could not be read is not read until it is written. -/
def KeyLaw (s : σ) (ops : List ι) : Prop :=
  Along (track step writes) (fun t op => Lawful reads (track step writes t op)) ⟨s, reads s⟩ ops

end Law

variable {step : σ → ι → σ} {reads : σ → κ → Option β} {writes : σ → ι → Option (κ × β)}
  {current : κ → β}

/-- An operation after which every key is read, the written one with its new value and the others
with some current value, which is the one they were read with before if they were. -/
structure Rewrites (reads : σ → κ → Option β) (s s' : σ) (w : Option (κ × β)) (current : κ → β) :
    Prop where
  current_eq : ∀ {k b}, reads s k = some b → current k = b
  reads_eq : ∀ k, reads s' k = expect (fun k => some (current k)) w k

/-- After a rewrite the law holds exactly when the other keys could be read. -/
lemma lawful_rewrite_iff {s s' : σ} (h : Rewrites reads s s' w current) :
    Lawful reads ⟨s', expect (reads s) w⟩ ↔ ∀ k, (∀ b, w ≠ some (k, b)) → (reads s k).isSome := by
  constructor
  · intro hl k hk
    have hread : reads s' k = some (current k) := by rw [h.reads_eq, expect_not_written _ hk]
    have hexp : expect (reads s) w k = some (current k) := hl k _ hread
    rw [expect_not_written _ hk] at hexp
    rw [hexp]
    rfl
  · intro hall k b hread
    rw [h.reads_eq] at hread
    show expect (reads s) w k = some b
    by_cases hk : ∃ b', w = some (k, b')
    · obtain ⟨b', rfl⟩ := hk
      rw [expect_written] at hread ⊢
      exact hread
    · have hk' : ∀ b', w ≠ some (k, b') := fun b' hb' => hk ⟨b', hb'⟩
      obtain ⟨x, hx⟩ := Option.isSome_iff_exists.mp (hall k hk')
      rw [expect_not_written _ hk'] at hread ⊢
      rw [hx, ← h.current_eq hx]
      exact hread

/-- After a lawful rewrite the expected values are those that are read. -/
lemma expect_of_rewrite {s s' : σ} (h : Rewrites reads s s' w current)
    (hl : Lawful reads ⟨s', expect (reads s) w⟩) : expect (reads s) w = reads s' := by
  funext k
  have hsome : ∃ b, reads s' k = some b := by
    by_cases hk : ∃ b', w = some (k, b')
    · obtain ⟨b', rfl⟩ := hk
      exact ⟨b', by rw [h.reads_eq, expect_written]⟩
    · exact ⟨current k, by
        rw [h.reads_eq, expect_not_written _ fun b' hb' => hk ⟨b', hb'⟩]⟩
  obtain ⟨b, hb⟩ := hsome
  rw [hb]
  exact hl k b hb

/-- When a write leaves all reads as they were and every key can be read, the law holds exactly
when it wrote what was read before. -/
lemma lawful_unchanged_iff {s s' : σ} (h : reads s' = reads s) (hall : ∀ k, (reads s k).isSome) :
    Lawful reads ⟨s', expect (reads s) w⟩ ↔ ∀ k b, w = some (k, b) → reads s k = some b := by
  constructor
  · rintro hl k b rfl
    obtain ⟨x, hx⟩ := Option.isSome_iff_exists.mp (hall k)
    have hexp : expect (reads s) (some (k, b)) k = some x := hl k x (by rw [h]; exact hx)
    rw [expect_written] at hexp
    rw [hx, ← hexp]
  · intro hw k x hx
    replace hx : reads s' k = some x := hx
    show expect (reads s) w k = some x
    rw [expect_unchanged hw, ← h, hx]

/-- **From operations to runs.** If at every store the operations that are lawful there are those
that meet the condition, and after them the expected values are those that are read, then the law
holds along a run exactly when every operation meets the condition. -/
theorem keyLaw_iff {C : σ → ι → Prop}
    (hiff : ∀ s op, Lawful reads ⟨step s op, expect (reads s) (writes s op)⟩ ↔ C s op)
    (hexp : ∀ s op, C s op → expect (reads s) (writes s op) = reads (step s op)) (s : σ)
    (ops : List ι) : KeyLaw step reads writes s ops ↔ Along step C s ops := by
  induction ops generalizing s with
  | nil => exact Iff.rfl
  | cons op ops ih =>
    have hnext : C s op → track step writes ⟨s, reads s⟩ op = ⟨step s op, reads (step s op)⟩ :=
      fun hc => congrArg (Tracked.mk _) (hexp s op hc)
    constructor
    · rintro ⟨hl, hrest⟩
      have hc : C s op := (hiff s op).mp hl
      rw [hnext hc] at hrest
      exact ⟨hc, (ih _).mp hrest⟩
    · rintro ⟨hc, hrest⟩
      refine ⟨(hiff s op).mpr hc, ?_⟩
      rw [hnext hc]
      exact (ih _).mpr hrest

end Pipoco.Keys
