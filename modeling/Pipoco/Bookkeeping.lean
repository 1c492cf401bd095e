import Pipoco.Suspension

/-!
The bookkeeping of the scheduler: reserved channels, counts, active groups and mode.

All of it is derived from the stored windows, but no function derives all of it: a reservation
collects the channels again and sets one group bit, cancelling a group clears its own share, and
a drained transition refreshes two groups out of four. `Ledger` is what they keep up together,
and `Books` is what can be read off it.
-/

namespace Pipoco.Bookkeeping

open Domain Slots SchedState Suspension Runs SchedulerState

/-! ### Masks -/

def index : OutputGroup → ℕ
  | .injector => 0
  | .ignition => 1
  | .idle => 2
  | .fan => 3

lemma index_inj {g h : OutputGroup} (he : index g = index h) : g = h := by
  cases g <;> cases h <;> first | rfl | cases he

lemma getLsbD_mask (g : OutputGroup) (i : ℕ) : g.mask.getLsbD i = decide (i = index g) := by
  have hmask : g.mask = BitVec.twoPow 8 (index g) := by cases g <;> rfl
  have hlt : index g < 8 := by cases g <;> decide
  rw [hmask, BitVec.getLsbD_twoPow]
  by_cases h : i = index g
  · simp [h, hlt]
  · simp [h, Ne.symm h]

lemma eq_zero_iff_getLsbD {w : ℕ} {x : BitVec w} : x = 0 ↔ ∀ i, x.getLsbD i ≠ true := by
  constructor
  · rintro rfl i; simp
  · intro h
    apply BitVec.eq_of_getLsbD_eq
    intro i _
    simpa using h i

/-- A group bit is one bit of the mask of active groups. -/
lemma and_mask_ne_zero_iff (x : BitVec 8) (g : OutputGroup) :
    x &&& g.mask ≠ 0 ↔ x.getLsbD (index g) = true := by
  rw [ne_eq, eq_zero_iff_getLsbD]
  simp only [BitVec.getLsbD_and, getLsbD_mask, Bool.and_eq_true, decide_eq_true_eq, ne_eq]
  constructor
  · intro h
    by_contra hx
    exact h fun i ⟨hi, he⟩ => hx (he ▸ hi)
  · intro h hall
    exact hall (index g) ⟨h, rfl⟩

lemma cpop_toNat_eq_countP {w : ℕ} (x : BitVec w) :
    x.cpop.toNat = (List.range w).countP (x.getLsbD ·) := by
  rw [BitVec.toNat_cpop]
  suffices h : ∀ k, x.cpopNatRec k 0 = (List.range k).countP (x.getLsbD ·) from h w
  intro k
  induction k with
  | zero => rfl
  | succ k ih =>
    rw [BitVec.cpopNatRec_succ, BitVec.cpopNatRec_add, ih, List.range_succ, List.countP_append,
      List.countP_singleton]
    cases x.getLsbD k <;> simp

/-! ### What is kept up -/

variable {ws : List ScheduledWindow} {c : ChannelId} (s : SchedulerState) {s' : SchedulerState}

variable (ws) in
/-- The distinct channels of the windows of a group. -/
def channels (g : OutputGroup) : Finset ChannelId :=
  ((ws.filter fun w => w.output.group = g).map fun w => w.output.channel).toFinset

lemma mem_channels {g : OutputGroup} :
    c ∈ channels ws g ↔ ∃ w ∈ ws, w.output.group = g ∧ w.output.channel = c := by
  simp [channels, and_assoc]

structure Books (s : SchedulerState) : Prop where
  reserved : ∀ (g : OutputGroup) (c : ChannelId),
    (s.reservedChannels g).getLsbD c.toNat = true ↔ c ∈ channels s.windows g
  injections : s.injectionCount.toNat = (channels s.windows .injector).card
  ignitions : s.ignitionCount.toNat = (channels s.windows .ignition).card
  groups : ∀ g : OutputGroup, s.activeGroups &&& g.mask ≠ 0 ↔ ∃ w ∈ s.windows, w.output.group = g
  armed : s.mode = .armed → s.activeGroups ≠ 0
  idle : s.mode = .idle → s.activeGroups = 0
  apart : s.windows.Pairwise Apart

/-- The counts are those of the reserved channels. -/
def Counted : Prop :=
  s.injectionCount = UInt8.ofNat (s.reservedChannels .injector).cpop.toNat ∧
    s.ignitionCount = UInt8.ofNat (s.reservedChannels .ignition).cpop.toNat

lemma counted_refreshCounts : Counted s.refreshCounts := ⟨rfl, rfl⟩

@[simp] lemma reservedChannels_refreshCounts :
    s.refreshCounts.reservedChannels = s.reservedChannels := rfl

@[simp] lemma activeGroups_refreshCounts : s.refreshCounts.activeGroups = s.activeGroups := rfl

/-- What every operation keeps. The windows are armed for: no other mode has any. -/
structure Ledger (s : SchedulerState) : Prop where
  wellFormed : ∀ w ∈ s.windows, WellFormed w
  apart : s.windows.Pairwise Apart
  reserved : ∀ (g : OutputGroup) (i : ℕ), (s.reservedChannels g).getLsbD i = true ↔
    ∃ w ∈ s.windows, w.output.group = g ∧ w.output.channel.toNat = i
  counted : Counted s
  groups : ∀ i : ℕ, s.activeGroups.getLsbD i = true ↔ ∃ w ∈ s.windows, index w.output.group = i
  mode : s.mode = .armed ↔ s.windows ≠ []

lemma groups_eq_zero_iff {x : BitVec 8}
    (h : ∀ i : ℕ, x.getLsbD i = true ↔ ∃ w ∈ ws, index w.output.group = i) : x = 0 ↔ ws = [] := by
  rw [eq_zero_iff_getLsbD, List.eq_nil_iff_forall_not_mem]
  constructor
  · intro hz w hw
    exact hz (index w.output.group) ((h _).mpr ⟨w, hw, rfl⟩)
  · intro hnone i hi
    obtain ⟨w, hw, -⟩ := (h i).mp hi
    exact hnone w hw

section ledger

variable {s : SchedulerState}

/-- The set bits of a reserved mask are the channels, so there are as many of them. -/
lemma Ledger.cpop_eq_card (h : Ledger s) (g : OutputGroup) :
    (s.reservedChannels g).cpop.toNat = (channels s.windows g).card := by
  rw [cpop_toNat_eq_countP, List.countP_eq_length_filter]
  have hnodup : ((List.range 128).filter ((s.reservedChannels g).getLsbD ·)).Nodup :=
    List.nodup_range.filter _
  have himage : ((List.range 128).filter ((s.reservedChannels g).getLsbD ·)).toFinset =
      (channels s.windows g).image UInt8.toNat := by
    ext i
    simp only [List.mem_toFinset, List.mem_filter, List.mem_range, h.reserved, Finset.mem_image,
      mem_channels]
    constructor
    · rintro ⟨-, w, hw, hg, rfl⟩
      exact ⟨_, ⟨w, hw, hg, rfl⟩, rfl⟩
    · rintro ⟨c, ⟨w, hw, hg, rfl⟩, rfl⟩
      have hlt := (h.wellFormed w hw).2
      exact ⟨hlt, w, hw, hg, rfl⟩
  rw [← List.toFinset_card_of_nodup hnodup, himage,
    Finset.card_image_of_injective _ fun a b hab => UInt8.toNat_inj.mp hab]

lemma ofNat_cpop_toNat (x : BitVec 128) : (UInt8.ofNat x.cpop.toNat).toNat = x.cpop.toNat := by
  have hle := BitVec.toNat_cpop_le x
  rw [UInt8.toNat_ofNat']
  omega

theorem Ledger.books (h : Ledger s) : Books s where
  reserved g c := by
    rw [h.reserved, mem_channels]
    simp only [UInt8.toNat_inj]
  injections := by rw [h.counted.1, ofNat_cpop_toNat, h.cpop_eq_card]
  ignitions := by rw [h.counted.2, ofNat_cpop_toNat, h.cpop_eq_card]
  groups g := by
    rw [and_mask_ne_zero_iff, h.groups]
    constructor
    · rintro ⟨w, hw, hg⟩; exact ⟨w, hw, index_inj hg⟩
    · rintro ⟨w, hw, rfl⟩; exact ⟨w, hw, rfl⟩
  armed hm := by rw [ne_eq, groups_eq_zero_iff h.groups]; exact h.mode.mp hm
  idle hm := by
    rw [groups_eq_zero_iff h.groups]
    by_contra hne
    cases hm.symm.trans (h.mode.mpr hne)
  apart := h.apart

lemma ledger_of_nil (hw : s.windows = []) (hr : s.reservedChannels = fun _ => 0)
    (hc : Counted s) (hg : s.activeGroups = 0) (hm : s.mode ≠ .armed) : Ledger s where
  wellFormed := by simp [hw]
  apart := by simp [hw]
  reserved g i := by simp [hw, hr]
  counted := hc
  groups i := by simp [hw, hg]
  mode := by simp [hw, hm]

end ledger

/-- The fields of the books, and so the ledger, are untouched. -/
structure SameBooks (s s' : SchedulerState) : Prop where
  windows : s'.windows = s.windows
  reserved : s'.reservedChannels = s.reservedChannels
  injections : s'.injectionCount = s.injectionCount
  ignitions : s'.ignitionCount = s.ignitionCount
  groups : s'.activeGroups = s.activeGroups

variable {s}

lemma Counted.of_sameBooks (h : Counted s) (hs : SameBooks s s') : Counted s' := by
  rw [Counted, hs.reserved, hs.injections, hs.ignitions]
  exact h

lemma Ledger.of_sameBooks (h : Ledger s) (hs : SameBooks s s')
    (hm : s'.mode = .armed ↔ s.mode = .armed) : Ledger s' where
  wellFormed := by rw [hs.windows]; exact h.wellFormed
  apart := by rw [hs.windows]; exact h.apart
  reserved := by rw [hs.windows, hs.reserved]; exact h.reserved
  counted := h.counted.of_sameBooks hs
  groups := by rw [hs.windows, hs.groups]; exact h.groups
  mode := by rw [hs.windows, hm]; exact h.mode

lemma sameBooks_refreshModeFromGroups (s : SchedulerState) :
    SameBooks s s.refreshModeFromGroups := by
  unfold refreshModeFromGroups
  split_ifs <;> exact ⟨rfl, rfl, rfl, rfl, rfl⟩

lemma ledger_new : Ledger new :=
  ledger_of_nil windows_new rfl ⟨by decide +kernel, by decide +kernel⟩ rfl
    (by decide)

/-! ### Storing a window -/

variable {w : ScheduledWindow}

lemma getLsbD_one_shiftLeft (hc : c < 128) (i : ℕ) :
    (1#128 <<< c.toNat).getLsbD i = decide (c.toNat = i) := by
  have hc' : c.toNat < 128 := hc
  rw [← BitVec.twoPow_eq, BitVec.getLsbD_twoPow]
  simp [hc']

lemma getLsbD_reserveBit (r : OutputGroup → BitVec 128) (hw : WellFormed w) (g : OutputGroup)
    (i : ℕ) :
    (reserveBit r w g).getLsbD i = true ↔
      (r g).getLsbD i = true ∨ w.output.group = g ∧ w.output.channel.toNat = i := by
  have hlt : ¬ w.output.channel ≥ channelBitWidth := UInt8.not_le.mpr hw.2
  have hbit : channelBit w.output.channel = .ok (1#128 <<< w.output.channel.toNat) := by
    rw [channelBit, if_neg hlt]
  simp only [reserveBit, hbit, Function.update_apply]
  by_cases hg : g = w.output.group
  · simp only [hg, if_true, BitVec.getLsbD_or, Bool.or_eq_true, getLsbD_one_shiftLeft hw.2,
      decide_eq_true_eq, true_and]
  · simp [hg, Ne.symm hg]

lemma getLsbD_foldl_reserveBit (hws : ∀ w ∈ ws, WellFormed w) (r : OutputGroup → BitVec 128)
    (g : OutputGroup) (i : ℕ) :
    (ws.foldl reserveBit r g).getLsbD i = true ↔
      (r g).getLsbD i = true ∨ ∃ w ∈ ws, w.output.group = g ∧ w.output.channel.toNat = i := by
  induction ws generalizing r with
  | nil => simp
  | cons w ws ih =>
    rw [List.foldl_cons, ih fun v hv => hws v (List.mem_cons_of_mem w hv),
      getLsbD_reserveBit r (hws w List.mem_cons_self)]
    simp only [List.mem_cons, exists_eq_or_imp, or_assoc]

lemma getLsbD_refreshReservedChannels (hws : ∀ w ∈ s.windows, WellFormed w) (g : OutputGroup)
    (i : ℕ) :
    (s.refreshReservedChannels.reservedChannels g).getLsbD i = true ↔
      ∃ w ∈ s.windows, w.output.group = g ∧ w.output.channel.toNat = i := by
  show (s.windows.foldl reserveBit (fun _ => 0) g).getLsbD i = true ↔ _
  rw [getLsbD_foldl_reserveBit hws]
  simp

lemma Ledger.stored (h : Ledger s) {table : Table ScheduledWindow maxScheduledWindows}
    (hput : s.scheduledWindows.put w = some table) (hwf : WellFormed w)
    (hapart : ∀ v ∈ s.windows, Apart w v) : Ledger (s.stored table w.output.group) := by
  have hperm : table.items.Perm (w :: s.windows) := items_put hput
  have hmem : ∀ v, v ∈ table.items ↔ v = w ∨ v ∈ s.windows := fun v => by
    rw [hperm.mem_iff, List.mem_cons]
  have hall : ∀ v ∈ table.items, WellFormed v := by
    intro v hv
    rcases (hmem v).mp hv with rfl | hv
    · exact hwf
    · exact h.wellFormed v hv
  refine ⟨hall, ?_, ?_, counted_refreshCounts _, ?_, ?_⟩
  · rw [windows_stored, hperm.pairwise_iff fun hab => Apart.symm hab]
    exact List.pairwise_cons.mpr ⟨hapart, h.apart⟩
  · intro g i
    exact getLsbD_refreshReservedChannels (s := ({ s with scheduledWindows := table } :
      SchedulerState).armGroup w.output.group) hall g i
  · intro i
    show (s.activeGroups ||| w.output.group.mask).getLsbD i = true ↔ ∃ v ∈ table.items, _
    rw [BitVec.getLsbD_or, Bool.or_eq_true, h.groups, getLsbD_mask, decide_eq_true_eq]
    constructor
    · rintro (⟨v, hv, hi⟩ | hi)
      · exact ⟨v, (hmem v).mpr (.inr hv), hi⟩
      · exact ⟨w, (hmem w).mpr (.inl rfl), hi.symm⟩
    · rintro ⟨v, hv, hi⟩
      rcases (hmem v).mp hv with rfl | hv
      · exact .inr hi.symm
      · exact .inl ⟨v, hv, hi⟩
  · have hne : table.items ≠ [] := List.ne_nil_of_mem ((hmem w).mpr (.inl rfl))
    exact iff_of_true rfl hne

lemma Ledger.reserveWindow (h : Ledger s) (o : ExclusiveChannel) (a b : Micros) :
    Ledger (s.reserveWindow o a b).1 := by
  rcases s.reserveWindow_cases o a b with ⟨table, hput, hwf, hapart, he⟩ | ⟨-, e, he⟩
  · rw [he]; exact h.stored hput hwf hapart
  · rw [he]; exact h

lemma Ledger.scheduleWindow (h : Ledger s) (now a b : Micros) (o : ExclusiveChannel) :
    Ledger (s.scheduleWindow now a b o).1 := by
  unfold SchedulerState.scheduleWindow
  split
  · exact h
  split
  · exact h
  · exact h.reserveWindow o _ _

/-! ### Dropping windows -/

lemma Ledger.cancelGroup (h : Ledger s) (g : OutputGroup) : Ledger (s.cancelGroup g) := by
  have hmem : ∀ w, w ∈ (s.cancelGroup g).windows ↔ w ∈ s.windows ∧ w.output.group ≠ g := by
    intro w
    simp [List.mem_filter]
  have hgroups : ∀ i, (s.cancelGroup g).activeGroups.getLsbD i = true ↔
      ∃ w ∈ (s.cancelGroup g).windows, index w.output.group = i := by
    intro i
    show (s.activeGroups &&& ~~~g.mask).getLsbD i = true ↔ _
    have hlt : s.activeGroups.getLsbD i = true → i < 8 := BitVec.lt_of_getLsbD
    rw [BitVec.getLsbD_and, BitVec.getLsbD_not, getLsbD_mask, Bool.and_eq_true, Bool.and_eq_true,
      Bool.not_eq_true', decide_eq_true_eq, decide_eq_false_iff_not]
    constructor
    · rintro ⟨hi, -, hne⟩
      obtain ⟨w, hw, rfl⟩ := (h.groups i).mp hi
      exact ⟨w, (hmem w).mpr ⟨hw, fun he => hne (by rw [he])⟩, rfl⟩
    · rintro ⟨w, hw, rfl⟩
      obtain ⟨hw, hne⟩ := (hmem w).mp hw
      have hi := (h.groups _).mpr ⟨w, hw, rfl⟩
      exact ⟨hi, hlt hi, fun he => hne (index_inj he)⟩
  refine ⟨fun w hw => h.wellFormed w ((hmem w).mp hw).1, ?_, ?_, counted_refreshCounts _,
    hgroups, ?_⟩
  · rw [windows_cancelGroup]
    exact h.apart.filter _
  · intro g' i
    show (Function.update s.reservedChannels g 0 g').getLsbD i = true ↔ _
    rw [Function.update_apply]
    split_ifs with hg
    · subst hg
      refine iff_of_false (by simp) ?_
      rintro ⟨w, hw, hgw, -⟩
      exact ((hmem w).mp hw).2 hgw
    · rw [h.reserved]
      constructor
      · rintro ⟨w, hw, rfl, hi⟩; exact ⟨w, (hmem w).mpr ⟨hw, hg⟩, rfl, hi⟩
      · rintro ⟨w, hw, hgw, hi⟩; exact ⟨w, ((hmem w).mp hw).1, hgw, hi⟩
  · -- the mode falls back to idle exactly when the last group goes
    have hzero : s.activeGroups &&& ~~~g.mask = 0 ↔ (s.cancelGroup g).windows = [] :=
      groups_eq_zero_iff hgroups
    show (if s.activeGroups &&& ~~~g.mask = 0 ∧ s.mode ≠ .suspended then SchedulerMode.idle
      else s.mode) = .armed ↔ _
    have hne : (s.cancelGroup g).windows ≠ [] ↔ ¬ s.activeGroups &&& ~~~g.mask = 0 :=
      not_congr hzero.symm
    rw [hne]
    by_cases hz : s.activeGroups &&& ~~~g.mask = 0
    · by_cases hm : s.mode = .suspended <;> simp [hz, hm]
    · have hs : s.windows ≠ [] := by
        obtain ⟨w, hw⟩ := List.exists_mem_of_ne_nil _ (mt hzero.mpr hz)
        exact List.ne_nil_of_mem ((hmem w).mp hw).1
      rw [if_neg fun hand => hz hand.1]
      exact iff_of_true (h.mode.mpr hs) hz

variable (s)

lemma ledger_clearScheduledOwnership : Ledger s.clearScheduledOwnership := by
  have hsame := sameBooks_refreshModeFromGroups (refreshCounts { s with
    scheduledWindows := Table.empty maxScheduledWindows
    reservedChannels := fun _ => 0
    activeGroups := 0 })
  refine ledger_of_nil (by simp) hsame.reserved ?_ hsame.groups ?_
  · exact (counted_refreshCounts _).of_sameBooks hsame
  · rw [mode_clearScheduledOwnership]
    split_ifs <;> decide

variable {s} in
lemma Ledger.suspend : Ledger s.suspend := by
  have hclear := ledger_clearScheduledOwnership s
  refine hclear.of_sameBooks ⟨rfl, rfl, rfl, rfl, rfl⟩ (iff_of_false (by simp) ?_)
  rw [mode_clearScheduledOwnership]
  split_ifs <;> decide

/-! ### A drained transition -/

variable {t : ScheduledTransition}

lemma getLsbD_syncScheduledGroup (g : OutputGroup) (i : ℕ) :
    (s.syncScheduledGroup g).activeGroups.getLsbD i = true ↔
      if i = index g then s.reservedChannels g ≠ 0 else s.activeGroups.getLsbD i = true := by
  unfold syncScheduledGroup
  by_cases hz : s.reservedChannels g = 0
  · simp only [hz, if_true, BitVec.getLsbD_and, BitVec.getLsbD_not, getLsbD_mask,
      Bool.and_eq_true, Bool.not_eq_true', decide_eq_true_eq, decide_eq_false_iff_not]
    have hi : s.activeGroups.getLsbD i = true → i < 8 := BitVec.lt_of_getLsbD
    split_ifs with he <;> tauto
  · simp only [hz, if_false, BitVec.getLsbD_or, getLsbD_mask, Bool.or_eq_true, decide_eq_true_eq]
    split_ifs with he <;> tauto

@[simp] lemma reservedChannels_syncScheduledGroup (g : OutputGroup) :
    (s.syncScheduledGroup g).reservedChannels = s.reservedChannels := by
  unfold syncScheduledGroup; split_ifs <;> rfl

/-- A transition only closes windows of the two groups that are refreshed after it. -/
lemma group_of_closedBy (h : closedBy t w = true) :
    w.output.group = .injector ∨ w.output.group = .ignition := by
  simp only [closedBy, Bool.and_eq_true, decide_eq_true_eq] at h
  rw [h.1]
  cases ht : t.kind <;> simp [ScheduledTransition.output, ScheduledTransitionKind.group, ht]

lemma mem_eraseP_of_group (hw : w ∈ ws) (h₁ : w.output.group ≠ .injector)
    (h₂ : w.output.group ≠ .ignition) : w ∈ ws.eraseP (closedBy t) := by
  refine (List.mem_eraseP_of_neg fun hc => ?_).mpr hw
  rcases group_of_closedBy hc with h | h
  · exact h₁ h
  · exact h₂ h

variable {s} in
lemma reserved_ne_zero_iff {g : OutputGroup}
    (h : ∀ i, (s.reservedChannels g).getLsbD i = true ↔
      ∃ w ∈ ws, w.output.group = g ∧ w.output.channel.toNat = i) :
    s.reservedChannels g ≠ 0 ↔ ∃ w ∈ ws, w.output.group = g := by
  rw [ne_eq, eq_zero_iff_getLsbD]
  push Not
  constructor
  · rintro ⟨i, hi⟩
    obtain ⟨w, hw, hg, -⟩ := (h i).mp hi
    exact ⟨w, hw, hg⟩
  · rintro ⟨w, hw, hg⟩
    exact ⟨_, (h _).mpr ⟨w, hw, hg, rfl⟩⟩

variable (t)

/-- The scheduler after one of its windows has been released, before its mode is refreshed. -/
def released : SchedulerState :=
  (((({ s with scheduledWindows := s.scheduledWindows.release (closedBy t) } :
    SchedulerState).refreshReservedChannels).syncScheduledGroup .injector).syncScheduledGroup
      .ignition).refreshCounts

lemma windows_released : (released s t).windows = s.windows.eraseP (closedBy t) := by
  simp only [released, windows_refreshCounts, windows_syncScheduledGroup,
    windows_refreshReservedChannels]
  exact items_release _ _

section released

variable {s : SchedulerState} (h : Ledger s) (t : ScheduledTransition)

include h

lemma getLsbD_reserved_released (g : OutputGroup) (i : ℕ) :
    ((released s t).reservedChannels g).getLsbD i = true ↔
      ∃ w ∈ (released s t).windows, w.output.group = g ∧ w.output.channel.toNat = i := by
  have hw : ({ s with scheduledWindows := s.scheduledWindows.release (closedBy t) } :
      SchedulerState).windows = (released s t).windows := by
    rw [windows_released]; exact items_release _ _
  have hall : ∀ w ∈ (released s t).windows, WellFormed w := fun w hwm => by
    rw [windows_released] at hwm
    exact h.wellFormed w (List.mem_of_mem_eraseP hwm)
  have href := getLsbD_refreshReservedChannels (s := ({ s with
    scheduledWindows := s.scheduledWindows.release (SchedulerState.closedBy t) } : SchedulerState))
    (by rw [hw]; exact hall) g i
  rw [hw] at href
  rw [← href]
  simp only [released, reservedChannels_refreshCounts, reservedChannels_syncScheduledGroup]

lemma getLsbD_groups_released (i : ℕ) : (released s t).activeGroups.getLsbD i = true ↔
    ∃ w ∈ (released s t).windows, index w.output.group = i := by
  have hne := fun g => reserved_ne_zero_iff (getLsbD_reserved_released h t g)
  have hres : ∀ g, (({ s with
      scheduledWindows := s.scheduledWindows.release (SchedulerState.closedBy t) } :
      SchedulerState).refreshReservedChannels).reservedChannels g =
      (released s t).reservedChannels g := fun g => by
    simp only [released, reservedChannels_refreshCounts, reservedChannels_syncScheduledGroup]
  have hiff : (released s t).activeGroups.getLsbD i = true ↔
      if i = index .ignition then (released s t).reservedChannels .ignition ≠ 0
      else if i = index .injector then (released s t).reservedChannels .injector ≠ 0
      else s.activeGroups.getLsbD i = true := by
    simp only [← hres]
    rw [released, activeGroups_refreshCounts, getLsbD_syncScheduledGroup,
      getLsbD_syncScheduledGroup, reservedChannels_syncScheduledGroup]
    rfl
  have hgroup : ∀ g, (∃ w ∈ (released s t).windows, w.output.group = g) ↔
      ∃ w ∈ (released s t).windows, index w.output.group = index g := fun g =>
    ⟨fun ⟨w, hw, he⟩ => ⟨w, hw, by rw [he]⟩, fun ⟨w, hw, he⟩ => ⟨w, hw, index_inj he⟩⟩
  rw [hiff]
  split_ifs with h₁ h₂
  · rw [hne, hgroup, h₁]
  · rw [hne, hgroup, h₂]
  · -- a group the release does not refresh: the released window is not one of its windows
    rw [h.groups, windows_released]
    constructor
    · rintro ⟨w, hw, rfl⟩
      exact ⟨w, mem_eraseP_of_group hw (fun he => h₂ (by rw [he])) (fun he => h₁ (by rw [he])), rfl⟩
    · rintro ⟨w, hw, he⟩
      exact ⟨w, List.mem_of_mem_eraseP hw, he⟩

lemma Ledger.released (hm : s.mode ≠ .suspended) : Ledger (released s t).refreshModeFromGroups := by
  have hgroups := getLsbD_groups_released h t
  have hmode : (Bookkeeping.released s t).mode ≠ .suspended := by
    simpa [Bookkeeping.released, SchedulerState.refreshCounts,
      SchedulerState.refreshReservedChannels] using hm
  have hzero : (Bookkeeping.released s t).activeGroups = 0 ↔
      (Bookkeeping.released s t).windows = [] := groups_eq_zero_iff hgroups
  have hsame := sameBooks_refreshModeFromGroups (Bookkeeping.released s t)
  refine ⟨?_, ?_, ?_, (counted_refreshCounts _).of_sameBooks hsame, ?_, ?_⟩ <;> rw [hsame.windows]
  · rw [windows_released]
    exact fun w hw => h.wellFormed w (List.mem_of_mem_eraseP hw)
  · rw [windows_released]
    exact h.apart.sublist List.eraseP_sublist
  · rw [hsame.reserved]
    exact getLsbD_reserved_released h t
  · rw [hsame.groups]
    exact hgroups
  · rw [SchedulerState.mode_refreshModeFromGroups, if_neg hmode, ne_eq, ← hzero]
    split_ifs with hz
    · exact iff_of_false (by decide) (not_not.mpr hz)
    · exact iff_of_true rfl hz

lemma Ledger.noteDrainedTransition : Ledger (s.noteDrainedTransition t) := by
  unfold SchedulerState.noteDrainedTransition
  split_ifs with hl hany
  · exact h
  · -- a suspended scheduler has no window to release
    refine h.released t fun hm => ?_
    obtain ⟨w, hw, -⟩ := List.any_eq_true.mp hany
    cases hm.symm.trans (h.mode.mpr (List.ne_nil_of_mem hw))
  · exact h

end released

/-! ### Runs -/

variable {o : ExclusiveChannel} {e : ScheduleError}

/-- The operations that keep the books: all but arming a group by hand. -/
def booked : SchedOp → Bool
  | .armGroup _ => false
  | _ => true

def errorOf {α : Type*} : Except ScheduleError α → Option ScheduleError
  | .error e => some e
  | .ok _ => none

def schedError : SchedOp → Option ScheduleError
  | .reserveWindow o a b => errorOf (s.reserveWindow o a b).2
  | .scheduleInjection now a b p => errorOf (s.scheduleInjection now a b p).2
  | .scheduleIgnition now a b p => errorOf (s.scheduleIgnition now a b p).2
  | _ => none

lemma sameBooks_clearLiveFrontierState (r : TimingIslandStopReason) :
    SameBooks s (s.clearLiveFrontierState r) := ⟨rfl, rfl, rfl, rfl, rfl⟩

lemma sameBooks_expireHeartbeat (now : Micros) : SameBooks s (s.expireHeartbeat now).1 := by
  unfold SchedulerState.expireHeartbeat
  split
  · exact ⟨rfl, rfl, rfl, rfl, rfl⟩
  · split_ifs <;> exact ⟨rfl, rfl, rfl, rfl, rfl⟩

lemma sameBooks_expireHorizon (now : Micros) : SameBooks s (s.expireHorizon now).1 := by
  unfold SchedulerState.expireHorizon
  split
  · exact ⟨rfl, rfl, rfl, rfl, rfl⟩
  · split_ifs <;> exact ⟨rfl, rfl, rfl, rfl, rfl⟩

lemma sameBooks_commitHorizon (i : TimingIslandHorizonSequenceId) (a b d : Micros)
    (m : SafetyPermitMask) : SameBooks s (s.commitHorizon i a b d m).1 := by
  unfold SchedulerState.commitHorizon
  split_ifs <;> exact ⟨rfl, rfl, rfl, rfl, rfl⟩

lemma sameBooks_noteHeartbeat (now : Micros) : SameBooks s (s.noteHeartbeat now) := by
  unfold SchedulerState.noteHeartbeat
  split_ifs <;> exact ⟨rfl, rfl, rfl, rfl, rfl⟩

variable {s}

lemma Ledger.expireFrontier (h : Ledger s) (now : Micros) : Ledger (s.expireFrontier now) := by
  have h₁ := h.of_sameBooks (sameBooks_expireHeartbeat s now) (by simp)
  exact h₁.of_sameBooks (sameBooks_expireHorizon _ now) (by simp)

/-- Both kinds of plan only note their own last window after the reservation. -/
lemma Ledger.scheduleInjection (h : Ledger s) (now a b : Micros) (p : InjectionPlan) :
    Ledger (s.scheduleInjection now a b p).1 := by
  have hw := h.scheduleWindow now a b p.output
  unfold SchedulerState.scheduleInjection
  split <;> rename_i he <;> rw [he] at hw
  · exact hw
  · exact hw.of_sameBooks ⟨rfl, rfl, rfl, rfl, rfl⟩ Iff.rfl

lemma Ledger.scheduleIgnition (h : Ledger s) (now a b : Micros) (p : IgnitionPlan) :
    Ledger (s.scheduleIgnition now a b p).1 := by
  have hw := h.scheduleWindow now a b p.output
  unfold SchedulerState.scheduleIgnition
  split <;> rename_i he <;> rw [he] at hw
  · exact hw
  · exact hw.of_sameBooks ⟨rfl, rfl, rfl, rfl, rfl⟩ Iff.rfl

lemma Ledger.onSyncRecovered (h : Ledger s) : Ledger s.onSyncRecovered := by
  unfold SchedulerState.onSyncRecovered
  split_ifs with hm
  · exact h.of_sameBooks ⟨rfl, rfl, rfl, rfl, rfl⟩ (by simp [hm])
  · exact h

lemma Ledger.step (h : Ledger s) (op : SchedOp) (hop : booked op = true) :
    Ledger (schedStep s op) := by
  cases op with
  | armGroup g => cases hop
  | reserveWindow o a b => exact h.reserveWindow o a b
  | cancelGroup g => exact h.cancelGroup g
  | cancelAll =>
    have hclear := ledger_clearScheduledOwnership s
    exact hclear.of_sameBooks (sameBooks_clearLiveFrontierState _ _) Iff.rfl
  | suspend | onSyncLoss => exact Ledger.suspend
  | onSyncRecovered => exact h.onSyncRecovered
  | onGeometryCommit => exact (h.cancelGroup .injector).cancelGroup .ignition
  | onHardSafetyShutdown => exact Ledger.suspend
  | commitHorizon i a b d m =>
    exact h.of_sameBooks (sameBooks_commitHorizon s i a b d m) (by simp [schedStep])
  | noteHeartbeat now => exact h.of_sameBooks (sameBooks_noteHeartbeat s now) (by simp [schedStep])
  | expireFrontier now => exact h.expireFrontier now
  | clearLiveFrontierState r => exact h.of_sameBooks (sameBooks_clearLiveFrontierState s r) Iff.rfl
  | expireHeartbeat now => exact h.of_sameBooks (sameBooks_expireHeartbeat s now) (by simp [schedStep])
  | expireHorizon now => exact h.of_sameBooks (sameBooks_expireHorizon s now) (by simp [schedStep])
  | scheduleInjection now a b p => exact h.scheduleInjection now a b p
  | scheduleIgnition now a b p => exact h.scheduleIgnition now a b p
  | noteDrainedTransition t => exact h.noteDrainedTransition t
  | clearScheduledOwnership => exact ledger_clearScheduledOwnership s

lemma reserveWindow_error {a b : Micros} (h : (s.reserveWindow o a b).2 = .error e) :
    (s.reserveWindow o a b).1 = s := by
  rcases s.reserveWindow_cases o a b with ⟨table, -, -, -, he⟩ | ⟨-, e', he⟩
  · rw [he] at h; cases h
  · rw [he]

lemma scheduleWindow_error {now a b : Micros} (h : s.scheduleWindow now a b o = (s', .error e)) :
    s' = s := by
  unfold SchedulerState.scheduleWindow at h
  split at h
  · exact (Prod.mk.inj h).1.symm
  split at h
  · exact (Prod.mk.inj h).1.symm
  · have he := reserveWindow_error (congrArg Prod.snd h)
    rw [h] at he
    exact he

lemma schedStep_eq_of_error (s : SchedulerState) (op : SchedOp) (h : schedError s op = some e) :
    schedStep s op = s := by
  cases op with
  | reserveWindow o a b =>
    rcases hr : (s.reserveWindow o a b).2 with e' | u
    · exact reserveWindow_error hr
    · simp [schedError, hr, errorOf] at h
  | scheduleInjection now a b p | scheduleIgnition now a b p =>
    simp only [schedError, SchedulerState.scheduleInjection, SchedulerState.scheduleIgnition,
      schedStep] at h ⊢
    rcases hr : s.scheduleWindow now a b p.output with ⟨s', e' | u⟩
    · exact scheduleWindow_error hr
    · simp [hr, errorOf] at h
  | _ => cases h

lemma ledger_run {ops : List SchedOp} (hops : ∀ op ∈ ops, booked op = true) :
    Ledger (run schedStep SchedulerState.new ops) :=
  run_inv_along (C := fun _ op => booked op = true) (fun _ op h hop => h.step op hop) ledger_new
    (along_of_forall (fun op hop _ => hops op hop) _)

/-- **The books are exact, and errors change nothing.** In every state reached from a new
scheduler without arming a group by hand, the masks, counts, group bits and the mode are those of
the stored windows, no two windows of one output overlap, and an operation that returns an error
leaves the state as it was. -/
theorem run_books {ops : List SchedOp} (hops : ∀ op ∈ ops, booked op = true) :
    Books (run schedStep SchedulerState.new ops) ∧
    ∀ op e, schedError (run schedStep SchedulerState.new ops) op = some e →
      schedStep (run schedStep SchedulerState.new ops) op = run schedStep SchedulerState.new ops :=
  ⟨(ledger_run hops).books, fun op _ he => schedStep_eq_of_error _ op he⟩

/-- Two pulses on one injector, then the first one ends, and a third that overlaps the second is
refused. -/
theorem run_books_pulses :
    let ops : List SchedOp :=
      [.scheduleInjection 0 10 20 ⟨⟨.injector, 3⟩, 10⟩, .reserveWindow ⟨.injector, 3⟩ 20 30,
        .noteDrainedTransition ⟨20, .injector, 3, .low⟩]
    Books (run schedStep SchedulerState.new ops) ∧
      (run schedStep SchedulerState.new ops).injectionCount = 1 ∧
      schedError (run schedStep SchedulerState.new ops) (.reserveWindow ⟨.injector, 3⟩ 25 35) =
        some .conflictingChannel :=
  ⟨(run_books (by decide)).1, by decide +kernel, by decide +kernel⟩

end Pipoco.Bookkeeping
