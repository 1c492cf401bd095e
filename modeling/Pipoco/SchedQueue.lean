import Pipoco.SchedState

/-!
The transition queue: a fixed table of pending pin transitions, drained in deadline order.

Deadlines live on a wrapping 32-bit clock, so a deadline is due when it is less than half the
range behind the clock, and of two due deadlines the earlier one is the one further behind.
The queue hands out one due transition at a time, as long as the caller's buffer has room.
What a whole drain does is summed up in `Drained`.
-/

namespace Pipoco.SchedQueue

open Domain Slots SchedState

/-! ### Comparing deadlines -/

variable (now : Micros)

def isDue (deadline : Micros) : Bool := now - deadline < 0xFFFFFFFF / 2

def isAtOrAfter (candidate cutoff : Micros) : Bool := candidate - cutoff < 0xFFFFFFFF / 2

def isBefore (candidate current : Micros) : Bool := current - candidate < 0xFFFFFFFF / 2

def levelRank : ScheduledLevel → ℕ
  | .high => 0
  | .low => 1

def kindRank : ScheduledTransitionKind → ℕ
  | .injector => 0
  | .ignition => 1

/-- The type's own order: time, kind, channel, and `High` before `Low`. -/
def transitionLt (t u : ScheduledTransition) : Bool :=
  t.atUs < u.atUs ||
    t.atUs = u.atUs && (kindRank t.kind < kindRank u.kind ||
      kindRank t.kind = kindRank u.kind && (t.channel < u.channel ||
        t.channel = u.channel && levelRank t.level < levelRank u.level))

/-- How far a deadline lies behind the clock. -/
def age (deadline : Micros) : ℕ := (now - deadline).toNat

lemma age_eq (d : Micros) : age now d = (2 ^ 32 - d.toNat + now.toNat) % 2 ^ 32 :=
  UInt32.toNat_sub now d

private lemma half_toNat : ((0xFFFFFFFF : UInt32) / 2).toNat = 2147483647 := by decide

lemma isDue_iff {now d : Micros} : isDue now d = true ↔ age now d < 2147483647 := by
  simp only [isDue, decide_eq_true_eq, UInt32.lt_iff_toNat_lt, half_toNat, age]

/-- Of two due deadlines, one comes no later than another when it is at least as far behind. -/
lemma isBefore_iff {now a b : Micros} (ha : isDue now a = true) (hb : isDue now b = true) :
    isBefore a b = true ↔ age now b ≤ age now a := by
  rw [isDue_iff, age_eq] at ha hb
  rw [age_eq, age_eq]
  simp only [isBefore, decide_eq_true_eq, UInt32.lt_iff_toNat_lt, half_toNat, UInt32.toNat_sub]
  have := b.toNat_lt
  omega

lemma age_inj {now a b : Micros} (h : age now a = age now b) : a = b := by
  rw [age_eq, age_eq] at h
  have := a.toNat_lt
  have := b.toNat_lt
  exact UInt32.toNat_inj.mp (by omega)

/-! ### The queue -/

structure ScheduledTimingMetrics where
  lateEventCount : UInt32
  maxLatenessUs : Option Micros
  (queueHighWaterMark lastDrainCount : UInt8)
  deriving DecidableEq

def ScheduledTimingMetrics.new : ScheduledTimingMetrics := ⟨0, none, 0, 0⟩

structure ScheduledTransitionQueue (n : ℕ) where
  transitions : Table ScheduledTransition n
  metrics : ScheduledTimingMetrics
  deriving DecidableEq

open ScheduledTransitionQueue

/-- The largest table a `u8` length can describe. -/
def maxMetadataCapacity : ℕ := 255

namespace ScheduledTransitionQueue

variable {n : ℕ} (q : ScheduledTransitionQueue n) (now : Micros) (t : ScheduledTransition)
  (channel : ChannelId) (frontier : SchedulerState)

def new : ScheduledTransitionQueue n := ⟨Table.empty n, .new⟩

def pending : List ScheduledTransition := q.transitions.items

def activeCount : ℕ := q.transitions.count

def freeSlots : ℕ := n - q.activeCount

def recordEnqueueMetrics : ScheduledTransitionQueue n :=
  let activeCount := UInt8.ofNat q.activeCount
  if activeCount > q.metrics.queueHighWaterMark then
    { q with metrics := { q.metrics with queueHighWaterMark := activeCount } }
  else q

def enqueueTransition : ScheduledTransitionQueue n × Except ScheduleError Unit :=
  if n > maxMetadataCapacity then (q, .error .queueFull)
  else
    match q.transitions.put t with
    | some table => (recordEnqueueMetrics { q with transitions := table }, .ok ())
    | none => (q, .error .queueFull)

/-- The loop that enqueues transitions in order, up to the first refusal. -/
def enqueueAll : ScheduledTransitionQueue n → List ScheduledTransition →
    ScheduledTransitionQueue n × Except ScheduleError Unit
  | q, [] => (q, .ok ())
  | q, t :: ts =>
    match q.enqueueTransition t with
    | (q', .error e) => (q', .error e)
    | (q', .ok _) => q'.enqueueAll ts

def enqueueExport (transitions : List ScheduledTransition) :
    ScheduledTransitionQueue n × Except ScheduleError Unit :=
  if q.freeSlots < transitions.length then (q, .error .queueFull) else q.enqueueAll transitions

def recordDrainedTransition : ScheduledTransitionQueue n :=
  let latenessUs := now - t.atUs
  if latenessUs = 0 then q
  else
    { q with metrics := { q.metrics with
        lateEventCount := satAdd32 q.metrics.lateEventCount 1
        maxLatenessUs :=
          if q.metrics.maxLatenessUs.all fun m => latenessUs > m then some latenessUs
          else q.metrics.maxLatenessUs } }

/-- The scan for the next due transition, from slot `idx` on, with what it has selected so
far. -/
def nextDueFrom (now : Micros) : List (Option ScheduledTransition) → ℕ →
    Option (ℕ × ScheduledTransition) → Option (ℕ × ScheduledTransition)
  | [], _, selected => selected
  | none :: rest, idx, selected => nextDueFrom now rest (idx + 1) selected
  | some t :: rest, idx, selected =>
    if !isDue now t.atUs then nextDueFrom now rest (idx + 1) selected
    else
      match selected with
      | none => nextDueFrom now rest (idx + 1) (some (idx, t))
      | some (i, current) =>
        if isBefore t.atUs current.atUs ||
            t.atUs = current.atUs && transitionLt t current then
          nextDueFrom now rest (idx + 1) (some (idx, t))
        else nextDueFrom now rest (idx + 1) (some (i, current))

def nextDueIndex : Option ℕ := (nextDueFrom now q.transitions.cells 0 none).map (·.1)

/-- The drain loop, with the room left in the caller's buffer. -/
def drainLoop (now : Micros) :
    ℕ → ScheduledTransitionQueue n → ScheduledTransitionQueue n × List ScheduledTransition
  | 0, q => (q, [])
  | room + 1, q =>
    match q.nextDueIndex now with
    | none => (q, [])
    | some idx =>
      match q.transitions.at? idx with
      -- a selected slot is never empty
      | none => (q, [])
      | some t =>
        let taken : ScheduledTransitionQueue n :=
          { q with transitions := q.transitions.clearAt idx }
        let rest := drainLoop now room (taken.recordDrainedTransition now t)
        (rest.1, t :: rest.2)

def setLastDrainCount (c : ℕ) : ScheduledTransitionQueue n :=
  { q with metrics := { q.metrics with lastDrainCount := UInt8.ofNat c } }

/-- Drain into a buffer of `m` places. The second component is what the buffer then holds. -/
def drainDue (m : ℕ) : ScheduledTransitionQueue n × List ScheduledTransition :=
  if m > maxMetadataCapacity then (q.setLastDrainCount 0, [])
  else
    let r := drainLoop now m q
    (r.1.setLastDrainCount r.2.length, r.2)

def cancelWhere (p : ScheduledTransition → Bool) :
    ScheduledTransitionQueue n := { q with transitions := q.transitions.cancel p }

def cancelChannelAfter (cutoff : Micros) : ScheduledTransitionQueue n :=
  q.cancelWhere fun t => t.channel = channel && isAtOrAfter t.atUs cutoff

def cancelChannelAll : ScheduledTransitionQueue n := q.cancelWhere fun t => t.channel = channel

def cancelKind (kind : ScheduledTransitionKind) :
    ScheduledTransitionQueue n := q.cancelWhere fun t => t.kind = kind

def cancelGroup : OutputGroup → ScheduledTransitionQueue n
  | .injector => q.cancelKind .injector
  | .ignition => q.cancelKind .ignition
  | .idle | .fan => q

def cancelAll : ScheduledTransitionQueue n :=
  { q with transitions := Table.empty n }

def onSyncLoss : ScheduledTransitionQueue n := q.cancelAll

def onHardSafetyShutdown : ScheduledTransitionQueue n := q.cancelAll

/-- The frontier lets nothing through: no horizon is live, or nothing is permitted. -/
def gateClosed : Bool := frontier.activeHorizonId.isNone || frontier.activePermitMask.isEmpty

def drainDueWithFrontier (m : ℕ) :
    ScheduledTransitionQueue n × SchedulerState × List ScheduledTransition :=
  let frontier := frontier.expireFrontier now
  if gateClosed frontier then (q.cancelAll.setLastDrainCount 0, frontier, [])
  else
    let r := q.drainDue now m
    (r.1, frontier, r.2)

end ScheduledTransitionQueue

/-! ### Enqueueing -/

section enqueue

variable {n : ℕ} (q : ScheduledTransitionQueue n) {ts : List ScheduledTransition}

@[simp] lemma pending_new : (new : ScheduledTransitionQueue n).pending
    = [] := items_empty

@[simp] lemma pending_cancelAll : q.cancelAll.pending = [] := items_empty

@[simp] lemma pending_cancelWhere (p : ScheduledTransition → Bool) :
    (q.cancelWhere p).pending = q.pending.filter fun t => !p t := items_cancel _ _

@[simp] lemma pending_setLastDrainCount (c : ℕ) : (q.setLastDrainCount c).pending = q.pending := rfl

@[simp] lemma transitions_recordEnqueueMetrics :
    q.recordEnqueueMetrics.transitions = q.transitions := by
  simp only [recordEnqueueMetrics]; split_ifs <;> rfl

@[simp] lemma transitions_recordDrainedTransition (now : Micros) (t : ScheduledTransition) :
    (q.recordDrainedTransition now t).transitions = q.transitions := by
  simp only [recordDrainedTransition]; split_ifs <;> rfl

lemma freeSlots_eq : q.freeSlots = n - q.pending.length := congrArg (n - ·) (count_eq _)

lemma enqueueTransition_cases (t : ScheduledTransition) :
    (n ≤ maxMetadataCapacity ∧ q.pending.length < n ∧
      ∃ q', q.enqueueTransition t = (q', .ok ()) ∧ q'.pending.Perm (t :: q.pending)) ∨
    ((maxMetadataCapacity < n ∨ q.pending.length = n) ∧
      q.enqueueTransition t = (q, .error .queueFull)) := by
  unfold enqueueTransition
  by_cases hn : n > maxMetadataCapacity
  · exact .inr ⟨.inl hn, if_pos hn⟩
  rw [if_neg hn]
  rcases hput : q.transitions.put t with _ | table
  · exact .inr ⟨.inr ((put_none_iff _ _).mp hput), rfl⟩
  · left
    have hperm := items_put hput
    have hlen := hperm.length_eq
    have := items_length_le table
    rw [List.length_cons] at hlen
    refine ⟨by omega, show q.transitions.items.length < n by omega, _, rfl, ?_⟩
    rw [pending, transitions_recordEnqueueMetrics]
    exact hperm

variable {q}

lemma enqueueAll_ok {q' : ScheduledTransitionQueue n} (h : q.enqueueAll ts = (q', .ok ())) :
    q'.pending.Perm (ts ++ q.pending) := by
  induction ts generalizing q with
  | nil => obtain ⟨rfl, -⟩ := Prod.mk.inj h; exact List.Perm.refl _
  | cons t ts ih =>
    rw [enqueueAll] at h
    rcases enqueueTransition_cases q t with ⟨-, -, q₁, he, h₁⟩ | ⟨-, he⟩
    · rw [he] at h
      exact (ih h).trans ((h₁.append_left ts).trans List.perm_middle)
    · rw [he] at h; cases (Prod.mk.inj h).2

lemma enqueueAll_of_fits (hn : n ≤ maxMetadataCapacity) (h : ts.length ≤ n - q.pending.length) :
    ∃ q', q.enqueueAll ts = (q', .ok ()) := by
  induction ts generalizing q with
  | nil => exact ⟨q, rfl⟩
  | cons t ts ih =>
    simp only [List.length_cons] at h
    rcases enqueueTransition_cases q t with ⟨-, -, q₁, he, h₁⟩ | ⟨hfull, -⟩
    · rw [enqueueAll, he]
      have hlen := h₁.length_eq
      rw [List.length_cons] at hlen
      exact ih (by omega)
    · omega

end enqueue

/-! ### Draining -/

variable {t : ScheduledTransition} (items : List ScheduledTransition)

/-- The order of a drain: the earlier deadline first, and of equal deadlines the one in the
later slot. -/
def Precedes (t u : ScheduledTransition) : Prop :=
  age now u.atUs < age now t.atUs ∨ age now u.atUs = age now t.atUs ∧ [u, t].Sublist items

/-- A drain at `now` took `out`, in this order, from the pending `items` and left `rest`. -/
structure Drained (now : Micros) (items out rest : List ScheduledTransition) : Prop where
  perm : (out ++ rest).Perm items
  sub : rest.Sublist items
  due : ∀ t ∈ out, isDue now t.atUs = true
  sorted : out.Pairwise (Precedes now items)
  earliest : ∀ t ∈ out, ∀ u ∈ rest, isDue now u.atUs = true → age now u.atUs ≤ age now t.atUs

lemma Precedes.mono {now : Micros} {items items' : List ScheduledTransition}
    {u : ScheduledTransition} (hs : items'.Sublist items) (h : Precedes now items' t u) :
    Precedes now items t u :=
  h.imp id fun ⟨he, hsub⟩ => ⟨he, hsub.trans hs⟩

lemma Drained.nil : Drained now items [] items :=
  ⟨List.Perm.refl _, List.Sublist.refl _, by simp, List.Pairwise.nil, by simp⟩

/-- One more transition taken in front: it is due, nothing before its slot is earlier, and
everything after its slot is later. -/
lemma Drained.cons {now : Micros} {pre post out rest : List ScheduledTransition}
    (hdue : isDue now t.atUs = true)
    (hpre : ∀ u ∈ pre, isDue now u.atUs = true → age now u.atUs ≤ age now t.atUs)
    (hpost : ∀ u ∈ post, isDue now u.atUs = true → age now u.atUs < age now t.atUs)
    (h : Drained now (pre ++ post) out rest) : Drained now (pre ++ t :: post) (t :: out) rest := by
  have hsub : (pre ++ post).Sublist (pre ++ t :: post) :=
    (List.Sublist.refl pre).append (List.sublist_cons_self t post)
  have hmem : ∀ u ∈ out ++ rest, u ∈ pre ∨ u ∈ post := fun u hu =>
    List.mem_append.mp (h.perm.mem_iff.mp hu)
  refine ⟨?_, h.sub.trans hsub, ?_, ?_, ?_⟩
  · exact (h.perm.cons t).trans List.perm_middle.symm
  · intro u hu
    rcases List.mem_cons.mp hu with rfl | hu
    · exact hdue
    · exact h.due u hu
  · refine List.pairwise_cons.mpr ⟨fun u hu => ?_, h.sorted.imp fun hp => hp.mono hsub⟩
    rcases hmem u (List.mem_append_left _ hu) with hu' | hu'
    · rcases (hpre u hu' (h.due u hu)).lt_or_eq with hlt | heq
      · exact .inl hlt
      · refine .inr ⟨heq, ?_⟩
        exact (List.singleton_sublist.mpr hu').append (List.singleton_sublist.mpr (by simp))
    · exact .inl (hpost u hu' (h.due u hu))
  · intro v hv u hu hud
    rcases List.mem_cons.mp hv with rfl | hv
    · rcases hmem u (List.mem_append_right _ hu) with hu' | hu'
      · exact hpre u hu' hud
      · exact (hpost u hu' hud).le
    · exact h.earliest v hv u hu hud

namespace ScheduledTransitionQueue

variable (now : Micros) (cells : List (Option ScheduledTransition)) (idx : ℕ)
  (selected : Option (ℕ × ScheduledTransition))

/-- What a scan of `cells` has selected, the selection before it being `selected`: either that
one, and everything due in the cells is later, or a due transition of the cells that nothing
before it is earlier than and everything after it is later than. -/
def Selects (result : Option (ℕ × ScheduledTransition)) : Prop :=
  (result = selected ∧ ∀ u, some u ∈ cells → isDue now u.atUs = true →
      ∃ p, selected = some p ∧ age now u.atUs < age now p.2.atUs) ∨
  ∃ pre t post, cells = pre ++ some t :: post ∧ isDue now t.atUs = true ∧
    result = some (idx + pre.length, t) ∧
    (∀ u, some u ∈ pre → isDue now u.atUs = true → age now u.atUs ≤ age now t.atUs) ∧
    (∀ u, some u ∈ post → isDue now u.atUs = true → age now u.atUs < age now t.atUs) ∧
    ∀ p, selected = some p → age now p.2.atUs ≤ age now t.atUs

section scan

variable {now : Micros} {c : Option ScheduledTransition} {cells : List (Option ScheduledTransition)}
  {idx : ℕ} {selected result : Option (ℕ × ScheduledTransition)}

lemma Selects.skip (h : Selects now cells (idx + 1) selected result)
    (hc : ∀ u, c = some u → isDue now u.atUs = true →
      ∃ p, selected = some p ∧ age now u.atUs < age now p.2.atUs) :
    Selects now (c :: cells) idx selected result := by
  rcases h with ⟨hr, hall⟩ | ⟨pre, t, post, rfl, ht, hr, h₁, h₂, h₃⟩
  · left
    refine ⟨hr, fun u hu hud => ?_⟩
    rcases List.mem_cons.mp hu with hu | hu
    · exact hc u hu.symm hud
    · exact hall u hu hud
  · right
    refine ⟨c :: pre, t, post, rfl, ht, ?_, fun u hu hud => ?_, h₂, h₃⟩
    · rw [hr, List.length_cons]; congr 2; omega
    · rcases List.mem_cons.mp hu with hu | hu
      · obtain ⟨p, hp, hlt⟩ := hc u hu.symm hud
        exact hlt.le.trans (h₃ p hp)
      · exact h₁ u hu hud

lemma Selects.take (h : Selects now cells (idx + 1) (some (idx, t)) result)
    (ht : isDue now t.atUs = true)
    (hbest : ∀ p, selected = some p → age now p.2.atUs ≤ age now t.atUs) :
    Selects now (some t :: cells) idx selected result := by
  right
  rcases h with ⟨hr, hall⟩ | ⟨pre, t', post, rfl, ht', hr, h₁, h₂, h₃⟩
  · refine ⟨[], t, cells, rfl, ht, hr, by simp, fun u hu hud => ?_, hbest⟩
    obtain ⟨p, hp, hlt⟩ := hall u hu hud
    cases hp
    exact hlt
  · have htt : age now t.atUs ≤ age now t'.atUs := h₃ (idx, t) rfl
    refine ⟨some t :: pre, t', post, rfl, ht', ?_, fun u hu hud => ?_, h₂,
      fun p hp => (hbest p hp).trans htt⟩
    · rw [hr, List.length_cons]; congr 2; omega
    · rcases List.mem_cons.mp hu with hu | hu
      · obtain rfl := Option.some.inj hu; exact htt
      · exact h₁ u hu hud

end scan

/-- The scan selects a deadline no other due one is before. Its comparison of equal deadlines
never decides anything: `isBefore` already holds between equal times, so the later slot wins. -/
lemma nextDueFrom_selects (hsel : ∀ p, selected = some p → isDue now p.2.atUs = true) :
    Selects now cells idx selected (nextDueFrom now cells idx selected) := by
  induction cells generalizing idx selected with
  | nil => exact .inl ⟨rfl, by simp⟩
  | cons c rest ih =>
    rcases c with _ | t
    · exact (ih (idx + 1) selected hsel).skip (by simp)
    by_cases ht : isDue now t.atUs = true
    · have htake := ih (idx + 1) (some (idx, t)) (by rintro p ⟨⟩; exact ht)
      rcases selected with _ | ⟨i, current⟩
      · simpa only [nextDueFrom, ht, Bool.not_true, Bool.false_eq_true, if_false] using
          htake.take ht (by simp)
      · have hcur : isDue now current.atUs = true := hsel (i, current) rfl
        by_cases hb : isBefore t.atUs current.atUs = true
        · have hle := (isBefore_iff ht hcur).mp hb
          simpa only [nextDueFrom, ht, hb, Bool.not_true, Bool.false_eq_true, if_false,
            Bool.true_or, if_true] using htake.take ht (by rintro p ⟨⟩; exact hle)
        · have hlt : age now t.atUs < age now current.atUs := by
            have := mt (isBefore_iff ht hcur).mpr hb; omega
          have hne : t.atUs ≠ current.atUs := fun he => by rw [he] at hlt; omega
          have hskip := (ih (idx + 1) (some (i, current)) hsel).skip (c := some t)
            (by rintro u ⟨⟩ -; exact ⟨_, rfl, hlt⟩)
          simpa [nextDueFrom, ht, hb, hne] using hskip
    · have hskip := (ih (idx + 1) selected hsel).skip (c := some t)
        (by rintro u ⟨⟩ hud; exact absurd hud ht)
      simpa [nextDueFrom, ht] using hskip

/-- One pass of the loop: nothing is due, or what is due longest is taken, the last of equals. -/
lemma drainLoop_cases {n : ℕ} (now : Micros) (room : ℕ) (q : ScheduledTransitionQueue n) :
    (drainLoop now (room + 1) q = (q, []) ∧ ∀ u ∈ q.pending, isDue now u.atUs = false) ∨
    ∃ taken t pre post, drainLoop now (room + 1) q =
        ((drainLoop now room taken).1, t :: (drainLoop now room taken).2) ∧
      q.pending = pre ++ t :: post ∧ taken.pending = pre ++ post ∧ isDue now t.atUs = true ∧
      (∀ u ∈ pre, isDue now u.atUs = true → age now u.atUs ≤ age now t.atUs) ∧
      (∀ u ∈ post, isDue now u.atUs = true → age now u.atUs < age now t.atUs) := by
  rcases nextDueFrom_selects now q.transitions.cells 0 none (by simp) with
    ⟨hr, hall⟩ | ⟨pre, t, post, hcells, ht, hr, h₁, h₂, -⟩
  · refine .inl ⟨by rw [drainLoop, nextDueIndex, hr]; rfl, fun u hu => ?_⟩
    by_contra hd
    obtain ⟨p, hp, -⟩ := hall u (mem_items_iff.mp hu) (by simpa using hd)
    cases hp
  · have hidx : q.nextDueIndex now = some pre.length := by rw [nextDueIndex, hr]; simp
    have hat : q.transitions.at? pre.length = some t := by rw [Table.at?, hcells]; simp
    refine .inr ⟨({ q with transitions := q.transitions.clearAt pre.length } :
        ScheduledTransitionQueue n).recordDrainedTransition now t, t, pre.reduceOption,
      post.reduceOption, ?_, items_split hcells, ?_, ht, ?_, ?_⟩
    · rw [drainLoop, hidx]; simp only [hat]
    · rw [pending, transitions_recordDrainedTransition]; exact items_clearAt hcells
    · exact fun u hu => h₁ u (List.reduceOption_mem_iff.mp hu)
    · exact fun u hu => h₂ u (List.reduceOption_mem_iff.mp hu)

variable {n : ℕ}

/-- **The drain loop drains.** It takes the earliest due transitions in order, never more than
there is room for, and stops before the room is used up only when nothing due is left. -/
theorem drainLoop_spec (room : ℕ) (q : ScheduledTransitionQueue n) :
    Drained now q.pending (drainLoop now room q).2 (drainLoop now room q).1.pending ∧
      (drainLoop now room q).2.length ≤ room ∧
      ((drainLoop now room q).2.length < room →
        ∀ u ∈ (drainLoop now room q).1.pending, isDue now u.atUs = false) := by
  induction room generalizing q with
  | zero => exact ⟨Drained.nil now q.pending, le_refl _, nofun⟩
  | succ room ih =>
    rcases drainLoop_cases now room q with
      ⟨he, hall⟩ | ⟨taken, t, pre, post, he, hsplit, hp, ht, h₁, h₂⟩
    · rw [he]
      exact ⟨Drained.nil now q.pending, by simp, fun _ => hall⟩
    · obtain ⟨hd, hlen, hstop⟩ := ih taken
      rw [hp] at hd
      rw [he, hsplit]
      refine ⟨Drained.cons ht h₁ h₂ hd, ?_, fun hlt => hstop ?_⟩
      · simpa using hlen
      · simpa using hlt

theorem drainDue_spec (q : ScheduledTransitionQueue n) (now : Micros) (m : ℕ) :
    Drained now q.pending (q.drainDue now m).2 (q.drainDue now m).1.pending := by
  unfold drainDue
  split_ifs
  · exact Drained.nil now q.pending
  · exact (drainLoop_spec now m q).1

/-- **A drain with room for everything due leaves nothing due.** -/
theorem drainDue_complete (q : ScheduledTransitionQueue n) (now : Micros) {m : ℕ}
    (hm : m ≤ maxMetadataCapacity)
    (hroom : (q.pending.filter fun t => isDue now t.atUs).length ≤ m) :
    ∀ u ∈ (q.drainDue now m).1.pending, isDue now u.atUs = false := by
  rw [drainDue, if_neg (by omega)]
  obtain ⟨hd, hlen, hstop⟩ := drainLoop_spec now m q
  show ∀ u ∈ (drainLoop now m q).1.pending, _
  rcases hlen.lt_or_eq with hlt | heq
  · exact hstop hlt
  -- the buffer is full, so it holds all there is room for and nothing due can be left
  have hperm := (hd.perm.filter fun t => isDue now t.atUs).length_eq
  rw [List.filter_append, List.length_append, List.filter_eq_self.mpr hd.due, heq] at hperm
  have hnil : ((drainLoop now m q).1.pending.filter fun t => isDue now t.atUs) = [] :=
    List.length_eq_zero_iff.mp (by omega)
  intro u hu
  by_contra hud
  exact List.filter_eq_nil_iff.mp hnil u hu (by simpa using hud)

end ScheduledTransitionQueue

/-! ### Exports -/

/-- The transitions of one window, earlier one first; `capacity` is the size of the export. -/
def exportWindow (kind : ScheduledTransitionKind) (channel : ChannelId) (startAt endAt : Micros)
    (capacity : ℕ) : Except ScheduleError (List ScheduledTransition) :=
  if startAt = endAt then .error .impossibleDeadline
  else if capacity < 2 then .error .impossibleDeadline
  else
    let high : ScheduledTransition := ⟨startAt, kind, channel, .high⟩
    let low : ScheduledTransition := ⟨endAt, kind, channel, .low⟩
    .ok (if isBefore high.atUs low.atUs then [high, low] else [low, high])

def exportInjection (p : TimedInjectionPlan) :=
  exportWindow .injector p.plan.output.channel p.startAt p.endAt

def exportIgnition (p : TimedIgnitionPlan) :=
  exportWindow .ignition p.plan.output.channel p.startAt p.endAt

end Pipoco.SchedQueue
