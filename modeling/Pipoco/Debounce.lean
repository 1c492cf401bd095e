import Pipoco.Evidence

/-!
Latches that debounce a condition.

A sample shows one of several conditions or none. A condition that lasts for the set time is
confirmed, and a confirmed one is dropped after none was shown for the clear time. Two timers do
the work; the one for clearing is stopped by writing zero, so a timer started at clock zero counts
as not started and is started again. Which of the steps below a latch takes on a sample is up to
the latch: each of them keeps the timers honest.
-/

namespace Pipoco.Debounce

open Runs Evidence

/-- The condition that is being timed, when its timer was started, the confirmed condition and the
timer for dropping it. -/
structure Latch (κ : Type*) where
  pending : Option κ
  start : UInt32
  confirmed : Option κ
  clear : UInt32

variable {κ σ ι : Type*}

/-- The timer for clearing, on a sample that shows nothing. -/
def Latch.clearing (l : Latch κ) (now : UInt32) : UInt32 := if l.clear = 0 then now else l.clear

/-- What a latch may do on a sample that shows `c`. -/
inductive Latch.Step (c : Option κ) (now : UInt32) (dSet dClear : ℕ) (l : Latch κ) : Latch κ → Prop
  | starts (hc : c ≠ none) :
      Step c now dSet dClear l { l with pending := c, start := now, clear := 0 }
  | waits (k : κ) (hc : c = some k) (hp : l.pending = some k) :
      Step c now dSet dClear l { l with clear := 0 }
  | confirms (k : κ) (hc : c = some k) (hp : l.pending = some k) (hn : l.confirmed = none)
      (hd : dSet ≤ (now - l.start).toNat) :
      Step c now dSet dClear l { l with confirmed := some k, clear := 0 }
  | raises (k : κ) (hc : c = some k) (hd : dSet = 0) :
      Step c now dSet dClear l { l with confirmed := some k, clear := 0 }
  | idles (t : UInt32) (hn : l.confirmed ≠ none → l.clear ≠ 0 → c = none) :
      Step c now dSet dClear l { l with pending := none, start := t }
  | recovers (t : UInt32) (hc : c = none) :
      Step c now dSet dClear l { l with pending := none, start := t, clear := l.clearing now }
  | drops (t : UInt32) (hc : c = none) (hd : dClear ≤ (now - l.clearing now).toNat) :
      Step c now dSet dClear l ⟨none, t, none, 0⟩
  | ignores (hp : l.confirmed = none → ∀ k, l.pending = some k → c = some k)
      (hn : l.confirmed ≠ none → l.clear ≠ 0 → c = none) :
      Step c now dSet dClear l l

section machine

variable (time : ι → ℕ) (cond : ι → Option κ) (dSet dClear : ι → ℕ)
  (next : σ → ι → σ) (confirmed : σ → Option κ)

/-- **What a debounced condition owes.** It is confirmed only after it was shown for the set time
and dropped only after nothing was shown for the clear time. -/
structure OnEvidence (r : Recorded σ ι) (x : ι) : Prop where
  confirms : ∀ k, confirmed r.state = none → confirmed (next r.state x) = some k →
    HeldFor time (fun y _ => cond y = some k) (dSet x) x r.past
  drops : confirmed r.state ≠ none → confirmed (next r.state x) = none →
    HeldFor time (fun y _ => cond y = none) (dClear x) x r.past

end machine

/-! ### The timers -/

/-- Each timer was started by a sample since which its condition was shown. -/
structure Honest (time : ι → ℕ) (cond : ι → Option κ) (l : Latch κ) (past : List ι) : Prop where
  start : l.confirmed = none → ∀ k, l.pending = some k →
    Times time (fun y _ => cond y = some k) l.start past
  clear : l.confirmed ≠ none → l.clear ≠ 0 → Times time (fun y _ => cond y = none) l.clear past

section step

variable {time : ι → ℕ} {cond : ι → Option κ} {l l' : Latch κ} {x : ι} {past : List ι}
  {dSet dClear : ℕ}

lemma honest_nil (hp : l.pending = none) (hc : l.confirmed = none) : Honest time cond l [] :=
  ⟨fun _ k hk => (by rw [hp] at hk; cases hk), fun h => absurd hc h⟩

/-- A sample that shows nothing is timed by the timer that runs or the one it starts. -/
lemma Honest.times_clearing (h : Honest time cond l past) (hn : l.confirmed ≠ none)
    (hc : cond x = none) :
    Times time (fun y _ => cond y = none) (l.clearing (stamp (time x))) (x :: past) := by
  unfold Latch.clearing
  split
  · exact .first hc
  · rename_i hrun
    exact (h.clear hn hrun).later hc

lemma Honest.step (h : Honest time cond l past)
    (hs : l.Step (cond x) (stamp (time x)) dSet dClear l') : Honest time cond l' (x :: past) := by
  cases hs with
  | starts hc => exact ⟨fun _ j hj => .first hj, fun _ hrun => absurd rfl hrun⟩
  | waits k hc hp =>
    refine ⟨fun hn j hj => ?_, fun _ hrun => absurd rfl hrun⟩
    obtain rfl : k = j := Option.some.inj (hp.symm.trans hj)
    exact (h.start hn k hp).later hc
  | confirms k hc hp hn hd | raises k hc hd =>
    exact ⟨fun hn => absurd hn (by simp), fun _ hrun => absurd rfl hrun⟩
  | idles t hn =>
    refine ⟨fun _ j hj => absurd hj (by simp), fun hconf hrun => ?_⟩
    exact (h.clear hconf hrun).later (hn hconf hrun)
  | recovers t hc =>
    exact ⟨fun _ j hj => absurd hj (by simp), fun hconf _ => h.times_clearing hconf hc⟩
  | drops t hc hd => exact ⟨fun _ j hj => absurd hj (by simp), fun hconf => absurd rfl hconf⟩
  | ignores hp hn =>
    refine ⟨fun hfree k hk => ?_, fun hconf hrun => ?_⟩
    · exact (h.start hfree k hk).later (hp hfree k hk)
    · exact (h.clear hconf hrun).later (hn hconf hrun)

lemma Honest.heldFor_confirms (h : Honest time cond l past) (hord : ∀ y ∈ past, time y ≤ time x)
    (hs : l.Step (cond x) (stamp (time x)) dSet dClear l') {k : κ} (hn : l.confirmed = none)
    (hk : l'.confirmed = some k) :
    HeldFor time (fun y _ => cond y = some k) dSet x past := by
  cases hs with
  | confirms j hc hp _ hd =>
    obtain rfl : j = k := Option.some.inj hk
    exact ((h.start hn j hp).later hc).heldFor hord hd
  | raises j hc hd =>
    obtain rfl : j = k := Option.some.inj hk
    exact ⟨time x, .first hc rfl, by rw [hd, Nat.add_zero]⟩
  | drops t hc hd => cases hk
  | _ => exact absurd (hn.symm.trans hk) (by simp)

lemma Honest.heldFor_drops (h : Honest time cond l past) (hord : ∀ y ∈ past, time y ≤ time x)
    (hs : l.Step (cond x) (stamp (time x)) dSet dClear l') (hconf : l.confirmed ≠ none)
    (hk : l'.confirmed = none) :
    HeldFor time (fun y _ => cond y = none) dClear x past := by
  cases hs with
  | confirms j hc hp _ hd | raises j hc hd => cases hk
  | drops t hc hd => exact (h.times_clearing hconf hc).heldFor hord hd
  | _ => exact absurd hk hconf

end step

/-! ### Machines that hold a latch -/

section run

variable {time : ι → ℕ} {cond : ι → Option κ} {dSet dClear : ι → ℕ} {next : σ → ι → σ}
  {P : Recorded σ ι → ι → Prop} {s : σ} {xs : List ι}

/-- **The rule for latches.** If every step of a machine is one its latch may take, the latch goes
by what it was shown. -/
theorem along_onEvidence (latch : σ → Latch κ)
    (hstep : ∀ r x, P r x → (latch r.state).Step (cond x) (stamp (time x)) (dSet x) (dClear x)
      (latch (next r.state x)))
    (hp : (latch s).pending = none) (hc : (latch s).confirmed = none)
    (hord : xs.Pairwise fun x y => time x ≤ time y)
    (h : Along (Recorded.step next) P (.start s) xs) :
    Along (Recorded.step next)
      (OnEvidence time cond dSet dClear next fun s => (latch s).confirmed) (.start s) xs := by
  refine along_of_inv (I := fun r => Honest time cond (latch r.state) r.past) ?_ ?_
    (honest_nil hp hc) (along_and.mpr ⟨h, Recorded.along_inOrder hord⟩)
  · intro r x hi hx
    have hs := hstep r x hx.1
    exact ⟨fun k => hi.heldFor_confirms hx.2 hs, hi.heldFor_drops hx.2 hs⟩
  · exact fun r x hi hx => hi.step (hstep r x hx.1)

end run

end Pipoco.Debounce
