import Pipoco.CanTransfer

/-!
What the CAN bus delivers.

On a bus that loses nothing, two senders may interleave their frames in any way as long as their
open transfers are told apart; the receiver then returns every message at its last frame. On a bus
that loses frames, a sender may send as many messages as there are transfer numbers before a stale
slot could be taken for a new transfer; up to there, whatever is returned has been sent.
-/

namespace Pipoco.Can

open Bytes KeyedTable CanTransport Transfer

variable {M : Type} (b : CanBuild) (c : MessageCodec M)

/-! ### What a sender puts on the bus -/

variable {dev : ℕ → Option TransportError} (t : CanTransport) (ms : List M) {fs : List Frame}

/-- A message to be sent, and the frames the device fails on. -/
abbrev SendOp (M : Type) := M × (ℕ → Option TransportError)

/-- The frames of one message. The frames of a message that could not be sent complete nothing. -/
def busFrames (op : SendOp M) : List (Frame × Option M) :=
  match (t.send b c op.2 op.1).2 with
  | (fs, .ok _) => mark op.1 fs
  | (fs, .error _) => fs.map fun f => (f, none)

/-- The frames of a run of the sender. -/
def transmit : CanTransport → List (SendOp M) → List (Frame × Option M)
  | _, [] => []
  | t, op :: ops => busFrames b c t op ++ transmit (t.send b c op.2 op.1).1 ops

def accepted : CanTransport → List (SendOp M) → List M
  | _, [] => []
  | t, op :: ops =>
    let rest := accepted (t.send b c op.2 op.1).1 ops
    match (t.send b c op.2 op.1).2.2 with
    | .ok _ => op.1 :: rest
    | .error _ => rest

/-- Messages for a device that takes every frame. -/
def healthy : List (SendOp M) := ms.map fun m => (m, fun _ => none)

lemma filterMap_mark {m : M} (h : fs ≠ []) : (mark m fs).filterMap Prod.snd = [m] := by
  fun_induction mark m fs with
  | case1 => exact absurd rfl h
  | case2 => rfl
  | case3 f g fs ih => simpa using ih (List.cons_ne_nil _ _)

lemma sendFrames_healthy (k : ℕ) (fs : List Frame) :
    sendFrames (fun _ => none) k fs = (fs, none) := by
  induction fs generalizing k with
  | nil => rfl
  | cons f fs ih => simp only [sendFrames, ih]

lemma sendFrames_of_none {k : ℕ} (h : (sendFrames dev k fs).2 = none) :
    (sendFrames dev k fs).1 = fs := by
  induction fs generalizing k with
  | nil => rfl
  | cons f fs ih =>
    cases hdev : dev k with
    | some e => simp [sendFrames, hdev] at h
    | none =>
      simp only [sendFrames, hdev] at h ⊢
      rw [ih h]

/-- The frames of a failed message are some of its frames, and never the last one. -/
lemma sendFrames_of_some {k : ℕ} {e : TransportError} (m : M)
    (h : (sendFrames dev k fs).2 = some e) :
    ((sendFrames dev k fs).1.map fun f => (f, none)).Sublist (mark m fs) := by
  induction fs generalizing k with
  | nil => cases h
  | cons f fs ih =>
    cases hdev : dev k with
    | some e => simp [sendFrames, hdev]
    | none =>
      simp only [sendFrames, hdev] at h ⊢
      have hne : fs ≠ [] := by
        rintro rfl
        cases h
      rw [mark_cons hne, List.map_cons]
      exact (ih h).cons_cons _

section Send

variable {b c} {t : CanTransport} {op : SendOp M}

variable (t) in
/-- The transfer that `send` makes of a message. -/
def Transfer.next (m : M) (h : (c.encode m).length ≤ reasmBuf) : Transfer c :=
  ⟨m, t.txTid &&& 0x3f, and_lt _, h⟩

lemma send_of_large (h : ¬ (c.encode op.1).length ≤ reasmBuf) :
    t.send b c op.2 op.1 = (t.txError, [], .error .serializationFailed) := by
  rw [send, if_pos (Nat.not_le.mp h)]

lemma busFrames_of_large (h : ¬ (c.encode op.1).length ≤ reasmBuf) : busFrames b c t op = [] := by
  rw [busFrames, send_of_large h]
  rfl

lemma send_healthy {m : M} (h : (c.encode m).length ≤ reasmBuf) :
    (t.send b c (fun _ => none) m).2 = ((next t m h).frames b, .ok ()) := by
  simp only [send, if_neg (Nat.not_lt.mpr h), sendFrames_healthy]
  rfl

variable (h : (c.encode op.1).length ≤ reasmBuf)

lemma send_cases :
    (t.send b c op.2 op.1).1.txTid = t.txTid + 1 ∧
      ((t.send b c op.2 op.1).2 = ((next t op.1 h).frames b, .ok ()) ∨
        ∃ fs e, (t.send b c op.2 op.1).2 = (fs, .error e) ∧
          (fs.map fun f => (f, none)).Sublist (mark op.1 ((next t op.1 h).frames b))) := by
  have hframes : frames b (t.txTid &&& 0x3f) (c.route op.1) (c.encode op.1) =
      (next t op.1 h).frames b := rfl
  simp only [send, if_neg (Nat.not_lt.mpr h), hframes]
  cases hs : sendFrames op.2 0 ((next t op.1 h).frames b) with
  | mk fs res =>
    cases res with
    | none =>
      have hfs : fs = (next t op.1 h).frames b := by
        have hall := sendFrames_of_none (congrArg Prod.snd hs)
        rwa [hs] at hall
      exact ⟨rfl, .inl (congrArg (·, Except.ok ()) hfs)⟩
    | some e =>
      have hfs := sendFrames_of_some op.1 (congrArg Prod.snd hs)
      rw [hs] at hfs
      exact ⟨rfl, .inr ⟨fs, e, rfl, hfs⟩⟩

lemma busFrames_sublist : (busFrames b c t op).Sublist (mark op.1 ((next t op.1 h).frames b)) := by
  rw [busFrames]
  rcases (send_cases h).2 with hok | ⟨fs, e, herr, hfs⟩
  · rw [hok]
  · rw [herr]
    exact hfs

variable (t)

lemma filterMap_transmit (ops : List (SendOp M)) :
    (transmit b c t ops).filterMap Prod.snd = accepted b c t ops := by
  induction ops generalizing t with
  | nil => rfl
  | cons op ops ih =>
    rw [transmit, accepted, List.filterMap_append, ih, busFrames]
    by_cases h : (c.encode op.1).length ≤ reasmBuf
    · rcases (send_cases (b := b) (t := t) h).2 with hok | ⟨fs, e, herr, -⟩
      · rw [hok]
        simp only [filterMap_mark frames_ne_nil, List.singleton_append]
      · rw [herr]
        simp [List.filterMap_map]
    · rw [send_of_large h]
      rfl

lemma accepted_healthy (ms : List M) :
    accepted b c t (healthy ms) = ms.filter fun m => (c.encode m).length ≤ reasmBuf := by
  induction ms generalizing t with
  | nil => rfl
  | cons m ms ih =>
    have hih := ih (t.send b c (fun _ => none) m).1
    rw [healthy] at hih
    simp only [healthy, List.map_cons, accepted, hih]
    by_cases h : (c.encode m).length ≤ reasmBuf
    · simp [send_healthy h, h]
    · simp [send, Nat.not_le.mp h, h]

variable {t}

end Send

/-! ### Two senders on a bus without losses -/

variable (o : Fin 2 → Option TransferKey)

/-- A frame on the bus: which of the two senders it comes from and the message it completes. -/
structure BusFrame (M : Type) where
  sender : Fin 2
  frame : Frame
  completes : Option M

def sentBy (σ : Fin 2) (bus : List (BusFrame M)) : List (Frame × Option M) :=
  (bus.filter (·.sender = σ)).map fun f => (f.frame, f.completes)

/-- The transfer a sender has begun and not completed, after a frame. -/
def openStep (f : BusFrame M) : Fin 2 → Option TransferKey :=
  Function.update o f.sender (if f.completes.isSome then none else some f.frame.key)

/-- The senders do not have the same transfer open. -/
def Separate : Prop :=
  ∀ σ τ, o σ ≠ none → o σ = o τ → σ = τ
  deriving Decidable

variable {o} in
lemma Separate.eq (h : Separate o) {σ τ : Fin 2} {k : TransferKey} (hσ : o σ = some k)
    (hτ : o τ = some k) : σ = τ := by
  refine h σ τ ?_ (hσ.trans hτ.symm)
  rw [hσ]
  exact Option.some_ne_none k

/-- All along the bus, transfers that overlap differ in number or arbitration id. -/
def Apart (bus : List (BusFrame M)) : Prop :=
  Runs.Along openStep (fun o f => Separate (openStep o f)) o bus
  deriving Decidable

/-- Whole transfers one after the other. -/
inductive Stream : List (Frame × Option M) → Prop
  | nil : Stream []
  | cons (x : Transfer c) {rest : List (Frame × Option M)} (h : Stream rest) :
      Stream (mark x.msg (x.frames b) ++ rest)

/-- What a sender still has to put on the bus, and what the slot of its open transfer holds. -/
inductive Pending : Option (TransferKey × Reassembly) → List (Frame × Option M) → Prop
  | idle {rest : List (Frame × Option M)} (h : Stream b c rest) : Pending none rest
  | midway (x : Transfer c) {pos : ℕ} (hpos : pos < x.bytes.length)
      {rest : List (Frame × Option M)} (h : Stream b c rest) :
      Pending (some (x.key, x.upTo pos)) (mark x.msg (x.tail b pos) ++ rest)

lemma stream_healthy : Stream b c (transmit b c t (healthy ms)) := by
  induction ms generalizing t with
  | nil => exact .nil
  | cons m ms ih =>
    have hih := ih (t.send b c (fun _ => none) m).1
    simp only [healthy, List.map_cons, transmit]
    by_cases h : (c.encode m).length ≤ reasmBuf
    · rw [busFrames, send_healthy h]
      exact .cons (next t m h) hih
    · rw [busFrames_of_large h]
      exact hih

section Interleaved

variable {b c}

/-- The receiver takes a frame of a sender: it returns the message the frame completes, and only
the slot of that sender changes. -/
structure Advance (c : MessageCodec M) (t : CanTransport) (o o' : Option (TransferKey × Reassembly))
    (f : Frame × Option M) : Prop where
  out : (t.tryReceive c f.1).2 = f.2
  key : o'.map Prod.fst = if f.2.isSome then none else some f.1.key
  table : ∀ k r, Holds (t.tryReceive c f.1).1.reassembly k r ↔
    o' = some (k, r) ∨ (Holds t.reassembly k r ∧ o ≠ some (k, r))

variable {t : CanTransport} {f : Frame × Option M} {rest : List (Frame × Option M)}

lemma advance_idle (hc : c.Lawful) (hs : Stream b c (f :: rest))
    (hnew : f.2 = none → (∀ r, ¬ Holds t.reassembly f.1.key r) ∧
      ∃ slot, free t.reassembly = some slot) :
    ∃ o', Pending b c o' rest ∧ Advance c t none o' f := by
  generalize hfs : f :: rest = fs at hs
  cases hs with
  | nil => cases hfs
  | cons x h =>
    by_cases hlong : x.Long b
    · rw [mark_frames_of_long hlong, List.cons_append] at hfs
      obtain ⟨rfl, rfl⟩ := List.cons.inj hfs
      obtain ⟨hk, slot, hfree⟩ := hnew rfl
      simp only [key_start] at hk
      refine ⟨_, .midway x (start_lt hlong) h, start_output hlong, ?_, ?_⟩
      · simp [key_start]
      · intro k r
        rw [start_accepted hlong hk hfree, holds_put (free_eq_some hfree)]
        simp [eq_comm]
    · rw [frames_of_not_long hlong] at hfs
      obtain ⟨rfl, rfl⟩ := List.cons.inj hfs
      obtain ⟨htable, hout⟩ := tryReceive_single c t x.tid_lt (c.route x.msg) x.bytes
      refine ⟨none, .idle h, hout.trans (hc x.msg), rfl, ?_⟩
      intro k r
      rw [single, htable]
      simp

lemma advance_midway (hc : c.Lawful) (hd : Distinct t.reassembly) {x : Transfer c} {pos : ℕ}
    (hpos : pos < x.bytes.length) (hheld : Holds t.reassembly x.key (x.upTo pos))
    {rest' : List (Frame × Option M)} (h : Stream b c rest')
    (hfs : f :: rest = mark x.msg (x.tail b pos) ++ rest') :
    ∃ o', Pending b c o' rest ∧ Advance c t (some (x.key, x.upTo pos)) o' f := by
  obtain ⟨slot, hslot⟩ := hheld
  have hother (k : TransferKey) (r : Reassembly) :
      Holds t.reassembly k r ∧ some (x.key, x.upTo pos) ≠ some (k, r) ↔
        k ≠ x.key ∧ Holds t.reassembly k r := by
    constructor
    · rintro ⟨hr, hne⟩
      refine ⟨?_, hr⟩
      rintro rfl
      rw [hd.holds_unique hr ⟨slot, hslot⟩] at hne
      exact hne rfl
    · rintro ⟨hne, hr⟩
      refine ⟨hr, ?_⟩
      rintro heq
      exact hne (congrArg Prod.fst (Option.some.inj heq)).symm
  by_cases hlast : x.bytes.length - pos ≤ b.maxCanData - 1
  · rw [tail_last hpos hlast] at hfs
    obtain ⟨rfl, rfl⟩ := List.cons.inj hfs
    obtain ⟨htable, hout⟩ := last_accepted hd hslot hpos
    refine ⟨none, .idle h, hout.trans (hc x.msg), rfl, ?_⟩
    intro k r
    rw [htable, hd.holds_clear hslot, hother]
    simp
  · have hmid := Nat.not_le.mp hlast
    rw [mark_tail_middle hmid, List.cons_append] at hfs
    obtain ⟨rfl, rfl⟩ := List.cons.inj hfs
    refine ⟨_, .midway x (by omega) h, middle_output, ?_, ?_⟩
    · simp [key_middle]
    · intro k r
      rw [middle_accepted hd hslot hmid, hd.holds_set hslot, hother]
      simp [eq_comm]

/-- The slots hold exactly what the senders have open. -/
structure Linked (t : CanTransport) (o : Fin 2 → Option (TransferKey × Reassembly)) : Prop where
  distinct : Distinct t.reassembly
  holds : ∀ k r, Holds t.reassembly k r ↔ ∃ σ, o σ = some (k, r)
  apart : ∀ σ τ k r r', o σ = some (k, r) → o τ = some (k, r') → σ = τ

variable {o : Fin 2 → Option (TransferKey × Reassembly)} {σ : Fin 2} {g : BusFrame M}
  {o' : Option (TransferKey × Reassembly)}

lemma Linked.exists_free (hl : Linked t o) (hσ : o σ = none) :
    ∃ slot, free t.reassembly = some slot := by
  let keys := (Finset.univ.erase σ).biUnion fun τ => ((o τ).map Prod.fst).toFinset
  have hmem : ∀ k r, Holds t.reassembly k r → k ∈ keys := by
    intro k r hr
    obtain ⟨τ, hτ⟩ := (hl.holds k r).mp hr
    have hne : τ ≠ σ := by
      rintro rfl
      rw [hσ] at hτ
      cases hτ
    simp only [keys, Finset.mem_biUnion, Finset.mem_erase, Finset.mem_univ, and_true]
    exact ⟨τ, hne, by simp [hτ]⟩
  have hone : ∀ τ ∈ Finset.univ.erase σ, (((o τ).map Prod.fst).toFinset).card ≤ 1 := by
    intro τ _
    cases o τ <;> simp
  have hcard : keys.card ≤ (Finset.univ.erase σ).card * 1 :=
    Finset.card_biUnion_le_card_mul _ _ 1 hone
  have htwo : (Finset.univ.erase σ).card = 1 := by
    rw [Finset.card_erase_of_mem (Finset.mem_univ σ), Finset.card_univ, Fintype.card_fin]
  exact KeyedTable.exists_free hl.distinct hmem (by simp only [rxReassemblySlots]; omega)

lemma Linked.advance (hl : Linked t o) (ha : Advance c t (o σ) o' f)
    (hapart : ∀ σ' τ k r r', Function.update o σ o' σ' = some (k, r) →
      Function.update o σ o' τ = some (k, r') → σ' = τ) :
    Linked (t.tryReceive c f.1).1 (Function.update o σ o') := by
  refine ⟨distinct_tryReceive c hl.distinct f.1, ?_, hapart⟩
  intro k r
  rw [ha.table, hl.holds]
  constructor
  · rintro (h | ⟨⟨τ, hτ⟩, hne⟩)
    · exact ⟨σ, by rw [Function.update_self, h]⟩
    · refine ⟨τ, ?_⟩
      rw [Function.update_of_ne, hτ]
      rintro rfl
      exact hne hτ
  · rintro ⟨τ, hτ⟩
    by_cases hτσ : τ = σ
    · subst hτσ
      rw [Function.update_self] at hτ
      exact .inl hτ
    · rw [Function.update_of_ne hτσ] at hτ
      exact .inr ⟨⟨τ, hτ⟩, fun hσ => hτσ (hl.apart _ _ _ _ _ hτ hσ)⟩

lemma sentBy_self (g : BusFrame M) (bus : List (BusFrame M)) :
    sentBy g.sender (g :: bus) = (g.frame, g.completes) :: sentBy g.sender bus := by
  simp [sentBy]

lemma sentBy_other (h : g.sender ≠ σ) (bus : List (BusFrame M)) :
    sentBy σ (g :: bus) = sentBy σ bus := by
  simp [sentBy, h]

lemma openStep_keys (h : o'.map Prod.fst = if g.completes.isSome then none else some g.frame.key) :
    openStep (fun σ => (o σ).map Prod.fst) g =
      fun σ => (Function.update o g.sender o' σ).map Prod.fst := by
  funext σ
  by_cases hσ : σ = g.sender
  · subst hσ
    simp [openStep, h]
  · simp [openStep, hσ]

variable {bus : List (BusFrame M)}

lemma Linked.step (hc : c.Lawful) (hl : Linked t o)
    (hp : ∀ σ, Pending b c (o σ) (sentBy σ (g :: bus)))
    (hapart : Separate (openStep (fun σ => (o σ).map Prod.fst) g)) :
    ∃ o', Linked (t.tryReceive c g.frame).1 (Function.update o g.sender o') ∧
      (∀ σ, Pending b c (Function.update o g.sender o' σ) (sentBy σ bus)) ∧
      Advance c t (o g.sender) o' (g.frame, g.completes) := by
  -- what the sender does next depends on whether it has a transfer open
  have hstep : ∃ o', Pending b c o' (sentBy g.sender bus) ∧
      Advance c t (o g.sender) o' (g.frame, g.completes) := by
    have hps := hp g.sender
    rw [sentBy_self] at hps
    generalize hfs : (g.frame, g.completes) :: sentBy g.sender bus = fs at hps
    cases ho : o g.sender with
    | none =>
      rw [ho] at hps
      cases hps with
      | idle h =>
        rw [← hfs] at h
        refine advance_idle hc h fun hnone => ⟨fun r hr => ?_, hl.exists_free ho⟩
        -- the other sender would have the same transfer open
        obtain ⟨τ, hτ⟩ := (hl.holds _ _).mp hr
        have hne : τ ≠ g.sender := by
          rintro rfl
          rw [ho] at hτ
          cases hτ
        have hself : openStep (fun σ => (o σ).map Prod.fst) g g.sender = some g.frame.key := by
          have hcompletes : g.completes = none := hnone
          simp [openStep, hcompletes]
        have hother : openStep (fun σ => (o σ).map Prod.fst) g τ = some g.frame.key := by
          simp [openStep, hne, hτ]
        exact hne (hapart.eq hother hself)
    | some e =>
      rw [ho] at hps
      cases hps with
      | midway x hpos h =>
        exact advance_midway hc hl.distinct hpos ((hl.holds _ _).mpr ⟨_, ho⟩) h hfs
  obtain ⟨o', hpend, hadv⟩ := hstep
  refine ⟨o', hl.advance hadv ?_, fun σ => ?_, hadv⟩
  · intro σ τ k r r' hσ hτ
    rw [openStep_keys hadv.key] at hapart
    exact hapart.eq (k := k) (by simp [hσ]) (by simp [hτ])
  · by_cases hσ : σ = g.sender
    · subst hσ
      rwa [Function.update_self]
    · rw [Function.update_of_ne hσ, ← sentBy_other (Ne.symm hσ)]
      exact hp σ

/-- The receiver returns at each frame the message that frame completes. -/
lemma received_interleaved (hc : c.Lawful) (hl : Linked t o)
    (hp : ∀ σ, Pending b c (o σ) (sentBy σ bus)) (hapart : Apart (fun σ => (o σ).map Prod.fst) bus) :
    t.received c (bus.map (·.frame)) = bus.map (·.completes) := by
  induction bus generalizing t o with
  | nil => rfl
  | cons g bus ih =>
    obtain ⟨hhead, htail⟩ := hapart
    obtain ⟨o', hl', hp', hadv⟩ := hl.step hc hp hhead
    rw [openStep_keys hadv.key] at htail
    rw [List.map_cons, List.map_cons, received_cons, hadv.out, ih hl' hp' htail]

end Interleaved

/-! ### One sender on a bus that loses frames -/

/-- What a slot may hold after the first `pos` bytes of a transfer have been sent: all of them, or
fewer bytes than that. -/
structure Transfer.Behind {c : MessageCodec M} (x : Transfer c) (pos : ℕ) (r : Reassembly) : Prop where
  expected : r.expected = x.bytes.length
  le : r.buf.length ≤ pos
  eq : r.buf.length = pos → r.buf = x.bytes.take pos

/-- Nothing is returned but the message a frame completes. -/
def Returns (os : List (Option M)) (fs : List (Frame × Option M)) : Prop :=
  List.Forall₂ (fun o f => o = none ∨ o = f.2) os fs

lemma Returns.sublist {os : List (Option M)} {fs : List (Frame × Option M)} (h : Returns os fs) :
    (os.filterMap id).Sublist (fs.filterMap Prod.snd) := by
  induction h with
  | nil => exact List.Sublist.slnil
  | @cons o f os fs hof _ ih =>
    rcases hof with rfl | rfl
    · rw [List.filterMap_cons_none rfl]
      exact ih.trans ((List.sublist_cons_self f fs).filterMap _)
    · obtain ⟨f, m⟩ := f
      cases m with
      | none => exact ih
      | some m => exact ih.cons_cons m

section Lossy

variable {b c} {t : CanTransport} {x : Transfer c} {fs : List (Frame × Option M)} {pos : ℕ}
  {r : Reassembly} (tid : UInt8)

lemma Transfer.Behind.skip {n : ℕ} (h : x.Behind pos r) (hn : 0 < n) : x.Behind (pos + n) r := by
  have hle := h.le
  exact ⟨h.expected, by omega, fun heq => by omega⟩

lemma Transfer.Behind.add {n : ℕ} (h : x.Behind pos r) (hn : pos + n ≤ x.bytes.length) :
    x.Behind (pos + n) { r with buf := r.buf ++ window x.bytes pos n } := by
  have hle := h.le
  have hlen : (window x.bytes pos n).length = n := length_window hn
  refine ⟨h.expected, ?_, ?_⟩
  · simp only [List.length_append, hlen]
    omega
  · simp only [List.length_append, hlen]
    intro heq
    rw [h.eq (by omega), window, ← List.take_add]

/-- The announced length lets the last frame complete a transfer only if nothing was lost. -/
lemma Transfer.Behind.decode (hc : c.Lawful) (h : x.Behind pos r) (hpos : pos < x.bytes.length)
    (hfits : CanTransport.Fits r true (x.bytes.drop pos)) :
    c.decode (r.buf ++ x.bytes.drop pos) = some x.msg := by
  have hlen := hfits.2
  simp only [if_true, List.length_drop, h.expected] at hlen
  rw [h.eq (by omega), List.take_append_drop]
  exact hc x.msg

lemma returns_tail (hc : c.Lawful) (hpos : pos < x.bytes.length) (hd : Distinct t.reassembly)
    (hb : ∀ r, Holds t.reassembly x.key r → x.Behind pos r)
    (hfs : fs.Sublist (mark x.msg (x.tail b pos))) :
    Returns (t.received c (fs.map Prod.fst)) fs := by
  induction pos, hpos using tail_induction b generalizing t fs with
  | last pos hpos h =>
    rw [tail_last hpos h] at hfs
    rcases List.sublist_singleton.mp hfs with rfl | rfl
    · exact .nil
    · refine .cons ?_ .nil
      rw [tryReceive_last]
      cases hout : (t.receiveContinuation c x.key true (x.bytes.drop pos)).2 with
      | none => exact .inl rfl
      | some m =>
        obtain ⟨-, r, hr, hfits, hdec⟩ := of_output_receiveContinuation hout
        rw [(hb r hr).decode hc hpos hfits] at hdec
        exact .inr hdec.symm
  | middle pos hpos h hnext ih =>
    have hmax := b.eight_le
    rw [mark_tail_middle h] at hfs
    rcases List.sublist_cons_iff.mp hfs with hfs | ⟨fs', rfl, hfs'⟩
    · exact ih hd (fun r hr => (hb r hr).skip (by omega)) hfs
    · refine .cons (.inl middle_output) (ih ?_ ?_ hfs')
      · exact distinct_tryReceive c hd _
      · intro r hr
        rw [Transfer.tryReceive_middle] at hr
        obtain ⟨-, r', hr', rfl⟩ := of_holds_receiveContinuation hd hr
        exact (hb r' hr').add (by omega)

lemma behind_start (h : x.Long b) (hd : Distinct t.reassembly)
    (hr : Holds (t.tryReceive c (x.start b)).1.reassembly x.key r) :
    x.Behind (b.maxCanData - 5) r := by
  by_cases hb : (∃ r, Holds t.reassembly x.key r) ∨ free t.reassembly = none
  · exact absurd hr (start_blocked h hd hb r)
  · obtain ⟨hk, hfree⟩ := not_or.mp hb
    have hk' := not_exists.mp hk
    obtain ⟨slot, hslot⟩ := Option.ne_none_iff_exists'.mp hfree
    rw [start_accepted h hk' hslot, holds_put (free_eq_some hslot)] at hr
    rcases hr with ⟨-, rfl⟩ | hr
    · exact ⟨rfl, by simp [upTo], fun _ => rfl⟩
    · exact absurd hr (hk' r)

/-- Any frames of a transfer whose number is not in use return its message or nothing. -/
lemma returns_frames (hc : c.Lawful) (hd : Distinct t.reassembly)
    (hk : ∀ r, ¬ Holds t.reassembly x.key r) (hfs : fs.Sublist (mark x.msg (x.frames b))) :
    Returns (t.received c (fs.map Prod.fst)) fs := by
  by_cases h : x.Long b
  · have hpos := start_lt h
    rw [mark_frames_of_long h] at hfs
    rcases List.sublist_cons_iff.mp hfs with hfs | ⟨fs', rfl, hfs'⟩
    · exact returns_tail hc hpos hd (fun r hr => absurd hr (hk r)) hfs
    · refine .cons (.inl (start_output h)) (returns_tail hc hpos ?_ ?_ hfs')
      · exact distinct_tryReceive c hd _
      · exact fun r hr => behind_start h hd hr
  · rw [frames_of_not_long h] at hfs
    rcases List.sublist_singleton.mp hfs with rfl | rfl
    · exact .nil
    · refine .cons (.inr ?_) .nil
      exact (tryReceive_single c t x.tid_lt _ x.bytes).2.trans (hc x.msg)

/-- The next `n` transfer numbers of a sender are not in use. -/
def Unused (t : CanTransport) (tid : UInt8) (n : ℕ) : Prop :=
  ∀ j < n, ∀ id r, ¬ Holds t.reassembly ⟨(tid + .ofNat j) &&& 0x3f, id⟩ r

lemma toNat_tid (j : ℕ) : ((tid + .ofNat j) &&& 0x3f).toNat = (tid.toNat + j) % 64 := by
  have hmask : ((tid + .ofNat j) &&& 0x3f).toNat = (tid + .ofNat j).toNat &&& (2 ^ 6 - 1) := rfl
  rw [hmask, Nat.and_two_pow_sub_one_eq_mod, UInt8.toNat_add, UInt8.toNat_ofNat']
  omega

lemma tid_succ (j : ℕ) : tid + 1 + .ofNat j = tid + .ofNat (j + 1) := by
  rw [UInt8.ofNat_add, UInt8.add_assoc, UInt8.add_comm 1]
  rfl

lemma tid_ne {tid : UInt8} {j : ℕ} (hj : j + 1 < 64) :
    (tid + 1 + .ofNat j) &&& 0x3f ≠ tid &&& 0x3f := by
  intro h
  have hself : (tid &&& 0x3f).toNat = tid.toNat % 64 := by simpa using toNat_tid tid 0
  have hnat := congrArg UInt8.toNat h
  rw [tid_succ, toNat_tid, hself] at hnat
  omega

/-- Whatever is lost, a frame returns the message it completes or nothing, as long as no transfer
number comes up twice. -/
lemma returns_transmit (hc : c.Lawful) {s : CanTransport} {ops : List (SendOp M)}
    (hlen : ops.length ≤ 64) (hd : Distinct t.reassembly) (hu : Unused t s.txTid ops.length)
    (hfs : fs.Sublist (transmit b c s ops)) : Returns (t.received c (fs.map Prod.fst)) fs := by
  induction ops generalizing t s fs with
  | nil =>
    obtain rfl := List.sublist_nil.mp hfs
    exact .nil
  | cons op ops ih =>
    have hlen' : ops.length + 1 ≤ 64 := hlen
    obtain ⟨us, vs, rfl, hus, hvs⟩ := List.sublist_append_iff.mp hfs
    by_cases h : (c.encode op.1).length ≤ reasmBuf
    · -- the message goes out under the first of the numbers
      have hus' := hus.trans (busFrames_sublist h)
      have hk : ∀ r, ¬ Holds t.reassembly (next s op.1 h).key r := by
        intro r
        simpa [key, next] using hu 0 (Nat.succ_pos _) (c.route op.1) r
      have hkeys : ∀ f ∈ us.map Prod.fst, f.key = (next s op.1 h).key := by
        intro f hf
        have hmem := (hus'.map Prod.fst).subset hf
        rw [map_fst_mark] at hmem
        exact key_of_mem_frames hmem
      rw [List.map_append, received_append]
      refine List.rel_append (returns_frames hc hd hk hus') ?_
      refine ih (by omega) (distinct_after c hd _) ?_ hvs
      -- the other numbers are still not in use
      intro j hj id r hr
      rw [(send_cases h).1] at hr
      rw [holds_after_iff c hd] at hr
      · rw [tid_succ] at hr
        exact hu (j + 1) (Nat.succ_lt_succ hj) id r hr
      · intro f hf heq
        rw [hkeys f hf] at heq
        exact tid_ne (by omega) (congrArg TransferKey.tid heq)
    · rw [busFrames_of_large h, List.sublist_nil] at hus
      subst hus
      refine ih (by omega) hd ?_ hvs
      rw [send_of_large h]
      exact fun j hj => hu j (Nat.lt_succ_of_lt hj)

end Lossy

/-- **Delivery.** On a bus that loses nothing, frames of one or two senders may interleave in any
way as long as overlapping transfers are told apart: the receiver returns at every frame the
message that frame completes, and these are the messages that could be encoded, in their order.
On a bus that loses frames, up to 64 messages of a sender are returned at most once each, in their
order, and nothing else is returned. -/
theorem returns_what_was_sent (hc : c.Lawful) :
    (∀ (t : CanTransport) (s : Fin 2 → CanTransport) (ms : Fin 2 → List M)
      (bus : List (BusFrame M)), t.reassembly = empty →
      (∀ σ, sentBy σ bus = transmit b c (s σ) (healthy (ms σ))) → Apart (fun _ => none) bus →
      t.received c (bus.map (·.frame)) = bus.map (·.completes) ∧
        ∀ σ, (sentBy σ bus).filterMap Prod.snd =
          (ms σ).filter fun m => (c.encode m).length ≤ reasmBuf) ∧
    ∀ (t s : CanTransport) (ops : List (SendOp M)) (fs : List (Frame × Option M)),
      t.reassembly = empty → ops.length ≤ 64 → fs.Sublist (transmit b c s ops) →
      ((t.received c (fs.map Prod.fst)).filterMap id).Sublist (accepted b c s ops) := by
  refine ⟨?_, ?_⟩
  · intro t s ms bus ht hbus hapart
    have hl : Linked t fun _ => none := by
      refine ⟨?_, ?_, ?_⟩
      · rw [ht]
        exact distinct_empty
      · intro k r
        simp [ht, not_holds_empty]
      · intro σ τ k r r' hσ
        cases hσ
    have hp : ∀ σ, Pending b c none (sentBy σ bus) := by
      intro σ
      rw [hbus σ]
      exact .idle (stream_healthy b c (s σ) (ms σ))
    refine ⟨received_interleaved hc hl hp hapart, fun σ => ?_⟩
    rw [hbus σ, filterMap_transmit, accepted_healthy]
  · intro t s ops fs ht hlen hfs
    have hd : Distinct t.reassembly := by
      rw [ht]
      exact distinct_empty
    have hu : Unused t s.txTid ops.length := by
      intro j _ id r
      rw [ht]
      exact not_holds_empty _ r
    have hret := (returns_transmit hc hlen hd hu hfs).sublist
    rw [← filterMap_transmit]
    exact hret.trans (hfs.filterMap _)

def byteCodec : MessageCodec (List UInt8) where
  encode := id
  decode := some
  route m := 0x100 + .ofNat m.length

/-- The frames of two senders in turns. -/
def inTurns (u v : List (Frame × Option M)) : List (BusFrame M) :=
  (List.zipWith (fun f g => [⟨⟨0, Nat.two_pos⟩, f.1, f.2⟩, ⟨⟨1, Nat.one_lt_two⟩, g.1, g.2⟩])
    u v).flatten

/-- Two messages of two frames each, under the same transfer number. -/
def twoSenders : List (BusFrame (List UInt8)) :=
  inTurns (transmit .classic byteCodec .new (healthy [List.replicate 9 1]))
    (transmit .classic byteCodec .new (healthy [List.replicate 10 2]))

/-- Two messages, of which the first has lost its last frame. -/
def lostEnd : List (Frame × Option (List UInt8)) :=
  (transmit .classic byteCodec .new (healthy [List.replicate 9 1, [3]])).eraseIdx 1

theorem returns_what_was_sent_twoSenders :
    (Apart (fun _ => none) twoSenders ∧
      twoSenders.map (·.completes) =
        [none, none, some (List.replicate 9 1), some (List.replicate 10 2)] ∧
      new.received byteCodec (twoSenders.map (·.frame)) = twoSenders.map (·.completes)) ∧
    (lostEnd.length = 2 ∧
      ((new.received byteCodec (lostEnd.map Prod.fst)).filterMap id).Sublist
        (accepted .classic byteCodec .new (healthy [List.replicate 9 1, [3]]))) := by
  have hall := returns_what_was_sent .classic byteCodec fun _ => rfl
  have hapart : Apart (fun _ => none) twoSenders := by decide +kernel
  have hsent : ∀ σ, sentBy σ twoSenders = transmit .classic byteCodec new
      (healthy (![[List.replicate 9 1], [List.replicate 10 2]] σ)) := by decide +kernel
  exact ⟨⟨hapart, by decide +kernel, (hall.1 .new (fun _ => .new) _ twoSenders rfl hsent hapart).1⟩,
    by decide +kernel,
    hall.2 .new .new _ lostEnd rfl (by decide) (List.eraseIdx_sublist _ 1)⟩

end Pipoco.Can
