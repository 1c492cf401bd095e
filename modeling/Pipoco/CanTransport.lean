import Pipoco.Domain
import Pipoco.KeyedTable
import Pipoco.KvAb
import Pipoco.Runs

/-!
The CAN transport.

A message is encoded by a codec from outside. If it fits into one frame behind the flag byte it is
sent as one; otherwise a start frame carries its length and checksum and the first bytes, and
continuation frames the rest. The two high bits of the flag byte say which kind of frame it is, the
low six carry the number of the transfer. The receiver has two slots in which it puts transfers
together, each known by the transfer number and the arbitration id; a slot is emptied when its
transfer is complete or when a frame of that transfer does not fit.
-/

namespace Pipoco.Can

open Bytes Domain KeyedTable

/-- Classic frames or the longer ones of the feature `transport-can-fd`. -/
inductive CanBuild
  | classic | fd
  deriving DecidableEq, Repr

def CanBuild.maxCanData : CanBuild → ℕ
  | classic => 8
  | fd => 64

lemma CanBuild.eight_le (b : CanBuild) : 8 ≤ b.maxCanData := by
  cases b <;> decide

def reasmBuf : ℕ := 1024
def rxReassemblySlots : ℕ := 2

structure Frame where
  id : UInt32
  data : List UInt8
  deriving DecidableEq, Repr

/-- The message codec and the arbitration id each message is routed to. -/
structure MessageCodec (M : Type) where
  encode : M → List UInt8
  decode : List UInt8 → Option M
  route : M → UInt32

/-- Every encoded message is decoded to itself. -/
def MessageCodec.Lawful {M : Type} (c : MessageCodec M) : Prop :=
  ∀ m, c.decode (c.encode m) = some m

inductive TransportError
  | bufferFull | messageTooLarge | serializationFailed | deserializationFailed | hardwareError
  | notReady
  deriving DecidableEq, Repr

structure TransportStats where
  (txCount rxCount txErrors rxErrors : UInt32)
  deriving DecidableEq, Repr

inductive CanSequenceEvent
  | none | inOrderComplete | duplicateStart | unexpectedContinuation | missingFragments
  deriving DecidableEq, Repr

structure CanSequenceTracking where
  (completedStreams duplicateStartCount unexpectedContinuationCount missingFragmentCount : UInt32)
  lastEvent : CanSequenceEvent
  deriving DecidableEq, Repr

/-- What a transfer is known by. -/
structure TransferKey where
  tid : UInt8
  id : UInt32
  deriving DecidableEq, Repr

def Frame.key (f : Frame) : TransferKey := ⟨f.data.headD 0 &&& 0x3f, f.id⟩

/-- A transfer under way: the bytes of the slot's buffer that have been received. -/
structure Reassembly where
  expected : ℕ
  crc16 : UInt16
  buf : List UInt8
  deriving DecidableEq, Repr

structure CanTransport where
  stats : TransportStats
  reassembly : Table TransferKey Reassembly rxReassemblySlots
  sequenceTracking : CanSequenceTracking
  txTid : UInt8
  lastRxError : Option TransportError

namespace CanTransport

def new : CanTransport where
  stats := ⟨0, 0, 0, 0⟩
  reassembly := empty
  sequenceTracking := ⟨0, 0, 0, 0, .none⟩
  txTid := 0
  lastRxError := none

/-- The same checksum as that of the page store. -/
def crc16Ccitt (data : List UInt8) : UInt16 := Kv.crc16Ccitt 0xFFFF data

/-! ### Sending -/

section Send

variable (b : CanBuild)

/-- The first byte of a frame: its kind and the number of the transfer. -/
def flags (kind tid : UInt8) : UInt8 := kind <<< 6 ||| tid

/-- The frames behind the start frame. -/
def continuationFrames (tid : UInt8) (id : UInt32) (encoded : List UInt8) (sent : ℕ) : List Frame :=
  if _h : sent < encoded.length then
    let remaining := encoded.length - sent
    let isEnd := remaining ≤ b.maxCanData - 1
    let take := min remaining (b.maxCanData - 1)
    ⟨id, flags (if isEnd then 0b11 else 0b10) tid :: window encoded sent take⟩ ::
      continuationFrames tid id encoded (sent + take)
  else []
termination_by encoded.length - sent
decreasing_by
  have := b.eight_le
  omega

def frames (tid : UInt8) (id : UInt32) (encoded : List UInt8) : List Frame :=
  if encoded.length ≤ b.maxCanData - 1 then [⟨id, tid :: encoded⟩]
  else
    let c0 := min (b.maxCanData - 5) encoded.length
    ⟨id, flags 0b01 tid ::
      (le16 (.ofNat encoded.length) ++ le16 (crc16Ccitt encoded) ++ window encoded 0 c0)⟩ ::
      continuationFrames b tid id encoded c0

/-- The frames the device takes, up to the first one it fails on. -/
def sendFrames (dev : ℕ → Option TransportError) (k : ℕ) :
    List Frame → List Frame × Option TransportError
  | [] => ([], none)
  | f :: fs =>
    match dev k with
    | some e => ([], some e)
    | none => (f :: (sendFrames dev (k + 1) fs).1, (sendFrames dev (k + 1) fs).2)

def txError (t : CanTransport) : CanTransport :=
  { t with stats := { t.stats with txErrors := satAdd32 t.stats.txErrors 1 } }

variable {M : Type} (c : MessageCodec M)

/-- The transport after a message, the frames on the bus and the result. The device fails on the
frames `dev` says, counted from the first of this message. -/
def send (t : CanTransport) (dev : ℕ → Option TransportError) (m : M) :
    CanTransport × List Frame × Except TransportError Unit :=
  let encoded := c.encode m
  if reasmBuf < encoded.length then (t.txError, [], .error .serializationFailed)
  else
    let fs := frames b (t.txTid &&& 0x3f) (c.route m) encoded
    let t := { t with txTid := t.txTid + 1 }
    match sendFrames dev 0 fs with
    | (fs, some e) => (t.txError, fs, .error e)
    | (fs, none) =>
      ({ t with stats := { t.stats with txCount := satAdd32 t.stats.txCount 1 } }, fs, .ok ())

end Send

/-! ### Receiving -/

variable (t : CanTransport) (slot : Fin rxReassemblySlots) (error : TransportError)

def clearReassemblySlot : CanTransport :=
  { t with reassembly := Function.update t.reassembly slot none }

def rxError : CanTransport :=
  { t with
    stats := { t.stats with rxErrors := satAdd32 t.stats.rxErrors 1 }
    lastRxError := some error }

def rxErrorForSlot : CanTransport := (t.clearReassemblySlot slot).rxError error

def noteSequenceEvent (event : CanSequenceEvent) : CanTransport :=
  let s := { t.sequenceTracking with lastEvent := event }
  { t with
    sequenceTracking :=
      match event with
      | .none => s
      | .inOrderComplete => { s with completedStreams := satAdd32 s.completedStreams 1 }
      | .duplicateStart => { s with duplicateStartCount := satAdd32 s.duplicateStartCount 1 }
      | .unexpectedContinuation =>
        { s with unexpectedContinuationCount := satAdd32 s.unexpectedContinuationCount 1 }
      | .missingFragments => { s with missingFragmentCount := satAdd32 s.missingFragmentCount 1 } }

def rxDone : CanTransport :=
  { t with
    stats := { t.stats with rxCount := satAdd32 t.stats.rxCount 1 }
    lastRxError := none }

def receiveStart (key : TransferKey) (data : List UInt8) : CanTransport :=
  if data.length < 4 then t.rxError .deserializationFailed
  else
    let total := (u16 (window data 0 2)).toNat
    let crc := u16 (window data 2 2)
    let chunk := data.drop 4
    if total = 0 ∨ reasmBuf < total ∨ total < chunk.length then t.rxError .deserializationFailed
    else
      match find t.reassembly key with
      | some (existing, _) =>
        (t.noteSequenceEvent .duplicateStart).rxErrorForSlot existing .deserializationFailed
      | none =>
        match free t.reassembly with
        | none => t.rxError .deserializationFailed
        | some slot =>
          { t with
            reassembly := Function.update t.reassembly slot (some (key, ⟨total, crc, chunk⟩)) }

variable {M : Type} (c : MessageCodec M)

/-- The last frame of a transfer is in the slot: the length and the checksum decide. -/
def completeTransfer (t : CanTransport) (slot : Fin rxReassemblySlots) (r : Reassembly) :
    CanTransport × Option M :=
  if r.buf.length = r.expected ∧ crc16Ccitt r.buf = r.crc16 then
    match c.decode r.buf with
    | some m => (((t.clearReassemblySlot slot).noteSequenceEvent .inOrderComplete).rxDone, some m)
    | none =>
      (((t.clearReassemblySlot slot).rxError .deserializationFailed).noteSequenceEvent
        .missingFragments, none)
  else ((t.noteSequenceEvent .missingFragments).rxErrorForSlot slot .deserializationFailed, none)

def receiveContinuation (t : CanTransport) (key : TransferKey) (isEnd : Bool) (data : List UInt8) :
    CanTransport × Option M :=
  match find t.reassembly key with
  | none => ((t.noteSequenceEvent .unexpectedContinuation).rxError .deserializationFailed, none)
  | some (slot, r) =>
    let remaining := r.expected - r.buf.length
    if remaining = 0 ∨ data = [] ∨ remaining < data.length then
      ((t.noteSequenceEvent .unexpectedContinuation).rxErrorForSlot slot .deserializationFailed, none)
    else if (isEnd = false ∧ data.length = remaining) ∨ (isEnd = true ∧ data.length ≠ remaining) then
      ((t.noteSequenceEvent .missingFragments).rxErrorForSlot slot .deserializationFailed, none)
    else
      let r := { r with buf := r.buf ++ data }
      let t := { t with reassembly := Function.update t.reassembly slot (some (key, r)) }
      if isEnd then t.completeTransfer c slot r else (t, none)

/-- One frame from the device. A flag byte has no other kinds than these four. -/
def tryReceive (t : CanTransport) (f : Frame) : CanTransport × Option M :=
  match f.data with
  | [] => (t.rxError .deserializationFailed, none)
  | flags :: data =>
    let kind := flags >>> 6
    let key : TransferKey := ⟨flags &&& 0x3f, f.id⟩
    if kind = 0 then
      match c.decode data with
      | some m => (t.rxDone, some m)
      | none => (t.rxError .deserializationFailed, none)
    else if kind = 1 then (t.receiveStart key data, none)
    else t.receiveContinuation c key (kind = 3) data

def after (t : CanTransport) (fs : List Frame) : CanTransport :=
  Runs.run (fun t f => (t.tryReceive c f).1) t fs

def received (t : CanTransport) : List Frame → List (Option M)
  | [] => []
  | f :: fs => (t.tryReceive c f).2 :: received (t.tryReceive c f).1 fs

/-! ### What one frame may do -/

variable (e : TransportError)

lemma flags_spec {kind tid : UInt8} (hk : kind < 4) (ht : tid < 64) :
    flags kind tid >>> 6 = kind ∧ flags kind tid &&& 0x3f = tid := by
  have hall : ∀ (k : Fin 4) (n : Fin 64),
      flags (.ofNat k) (.ofNat n) >>> 6 = .ofNat k ∧
        flags (.ofNat k) (.ofNat n) &&& 0x3f = .ofNat n := by
    decide +kernel
  have hk' : kind.toNat < 4 := hk
  have ht' : tid.toNat < 64 := ht
  have h := hall ⟨kind.toNat, hk'⟩ ⟨tid.toNat, ht'⟩
  simpa using h

lemma and_lt (x : UInt8) : x &&& 0x3f < 64 := by
  have hle : x.toNat &&& 63 ≤ 63 := Nat.and_le_right
  exact Nat.lt_succ_of_le hle

lemma touches_receiveStart (key : TransferKey) (data : List UInt8) :
    Touches t.reassembly key (t.receiveStart key data).reassembly := by
  unfold receiveStart
  split
  · exact .keep
  · simp only
    split
    · exact .keep
    · split
      · next hf => exact .clear _ _ (find_eq_some hf)
      · next hf =>
        split
        · exact .keep
        · next hfree => exact .put _ _ (find_eq_none_iff.mp hf) (free_eq_some hfree)

lemma reassembly_completeTransfer (t : CanTransport) (slot : Fin rxReassemblySlots)
    (r : Reassembly) :
    (t.completeTransfer c slot r).1.reassembly = Function.update t.reassembly slot none := by
  unfold completeTransfer
  split
  · split <;> rfl
  · rfl

/-- A continuation frame carries on a transfer: it is not empty, and it reaches the end if it says
so and stays before it otherwise. -/
def Fits (r : Reassembly) (isEnd : Bool) (data : List UInt8) : Prop :=
  data ≠ [] ∧
    if isEnd then r.buf.length + data.length = r.expected
    else r.buf.length + data.length < r.expected

section Continuation

variable {c} {t : CanTransport} {key : TransferKey} {isEnd : Bool} {data : List UInt8}

lemma receiveContinuation_absent (h : ∀ r, ¬ Holds t.reassembly key r) :
    (t.receiveContinuation c key isEnd data).1.reassembly = t.reassembly ∧
      (t.receiveContinuation c key isEnd data).2 = none := by
  rw [receiveContinuation, find_eq_none_iff.mpr h]
  exact ⟨rfl, rfl⟩

variable {slot : Fin rxReassemblySlots} {r : Reassembly}

lemma receiveContinuation_unfit (hf : find t.reassembly key = some (slot, r))
    (h : ¬ Fits r isEnd data) :
    (t.receiveContinuation c key isEnd data).1.reassembly = Function.update t.reassembly slot none ∧
      (t.receiveContinuation c key isEnd data).2 = none := by
  rw [receiveContinuation, hf]
  simp only
  split
  · exact ⟨rfl, rfl⟩
  · next h1 =>
    split
    · exact ⟨rfl, rfl⟩
    · next h2 =>
      refine absurd ?_ h
      refine ⟨fun hd => h1 (.inr (.inl hd)), ?_⟩
      cases isEnd <;> simp at h1 h2 ⊢ <;> omega

lemma receiveContinuation_fits (hf : find t.reassembly key = some (slot, r))
    (h : Fits r isEnd data) :
    t.receiveContinuation c key isEnd data =
      let r' := { r with buf := r.buf ++ data }
      let t' := { t with reassembly := Function.update t.reassembly slot (some (key, r')) }
      if isEnd then t'.completeTransfer c slot r' else (t', none) := by
  obtain ⟨hne, hlen⟩ := h
  have hpos : 0 < data.length := List.length_pos_iff.mpr hne
  have h1 : ¬ (r.expected - r.buf.length = 0 ∨ data = [] ∨
      r.expected - r.buf.length < data.length) := by
    rintro (h | h | h)
    · cases isEnd <;> simp at hlen <;> omega
    · exact hne h
    · cases isEnd <;> simp at hlen <;> omega
  have h2 : ¬ ((isEnd = false ∧ data.length = r.expected - r.buf.length) ∨
      (isEnd = true ∧ data.length ≠ r.expected - r.buf.length)) := by
    cases isEnd <;> simp at hlen ⊢ <;> omega
  rw [receiveContinuation, hf]
  simp only [if_neg h1, if_neg h2]

lemma touches_receiveContinuation :
    Touches t.reassembly key (t.receiveContinuation c key isEnd data).1.reassembly := by
  cases hf : find t.reassembly key with
  | none =>
    rw [(receiveContinuation_absent (find_eq_none_iff.mp hf)).1]
    exact .keep
  | some e =>
    obtain ⟨slot, r⟩ := e
    have hslot := find_eq_some hf
    by_cases h : Fits r isEnd data
    · rw [receiveContinuation_fits hf h]
      cases isEnd with
      | true =>
        simp only [if_true, reassembly_completeTransfer, Function.update_idem]
        exact .clear _ _ hslot
      | false => exact .set _ _ _ hslot
    · rw [(receiveContinuation_unfit hf h).1]
      exact .clear _ _ hslot

/-- What the slot of the transfer may hold after a continuation frame: what it held before, with
the frame added. Nothing is left in it after the last one. -/
lemma of_holds_receiveContinuation (hd : Distinct t.reassembly)
    (h : Holds (t.receiveContinuation c key isEnd data).1.reassembly key r) :
    isEnd = false ∧ ∃ r', Holds t.reassembly key r' ∧ r = { r' with buf := r'.buf ++ data } := by
  cases hf : find t.reassembly key with
  | none =>
    have hk := find_eq_none_iff.mp hf
    rw [(receiveContinuation_absent hk).1] at h
    exact absurd h (hk r)
  | some e =>
    obtain ⟨slot, r'⟩ := e
    have hslot := find_eq_some hf
    have hcleared : ¬ Holds (Function.update t.reassembly slot none) key r := fun hr =>
      ((hd.holds_clear hslot).mp hr).1 rfl
    by_cases hfits : Fits r' isEnd data
    · rw [receiveContinuation_fits hf hfits] at h
      cases isEnd with
      | true =>
        simp only [if_true, reassembly_completeTransfer, Function.update_idem] at h
        exact absurd h hcleared
      | false =>
        rcases (hd.holds_set hslot).mp h with ⟨-, rfl⟩ | ⟨hne, -⟩
        · exact ⟨rfl, r', ⟨slot, hslot⟩, rfl⟩
        · exact absurd rfl hne
    · rw [(receiveContinuation_unfit hf hfits).1] at h
      exact absurd h hcleared

/-- A continuation frame returns a message only as the last one of a transfer, which it completes
to the announced length. -/
lemma of_output_receiveContinuation {m : M}
    (h : (t.receiveContinuation c key isEnd data).2 = some m) :
    isEnd = true ∧ ∃ r, Holds t.reassembly key r ∧ Fits r true data ∧
      c.decode (r.buf ++ data) = some m := by
  cases hf : find t.reassembly key with
  | none =>
    rw [(receiveContinuation_absent (find_eq_none_iff.mp hf)).2] at h
    cases h
  | some e =>
    obtain ⟨slot, r⟩ := e
    by_cases hfits : Fits r isEnd data
    · rw [receiveContinuation_fits hf hfits] at h
      cases isEnd with
      | false => cases h
      | true =>
        refine ⟨rfl, r, ⟨slot, find_eq_some hf⟩, hfits, ?_⟩
        simp only [if_true, completeTransfer] at h
        split at h
        · cases hdec : c.decode (r.buf ++ data) with
          | none => simp [hdec] at h
          | some m' => simpa [hdec] using h
        · cases h
    · rw [(receiveContinuation_unfit hf hfits).2] at h
      cases h

end Continuation

/-- Whatever frame arrives, at most the slot of its own transfer changes. -/
lemma touches_tryReceive (t : CanTransport) (f : Frame) :
    Touches t.reassembly f.key (t.tryReceive c f).1.reassembly := by
  obtain ⟨id, data⟩ := f
  cases data with
  | nil => exact .keep
  | cons flags data =>
    simp only [tryReceive]
    split
    · cases c.decode data <;> exact .keep
    · split
      · exact touches_receiveStart t _ data
      · exact touches_receiveContinuation

variable {t}

lemma distinct_tryReceive (h : Distinct t.reassembly) (f : Frame) :
    Distinct (t.tryReceive c f).1.reassembly :=
  (touches_tryReceive c t f).distinct h

lemma distinct_after (h : Distinct t.reassembly) (fs : List Frame) :
    Distinct (t.after c fs).reassembly := by
  have hstep : ∀ (t : CanTransport) (f : Frame), Distinct t.reassembly →
      Distinct (t.tryReceive c f).1.reassembly := fun _ f h => distinct_tryReceive c h f
  exact Runs.run_inv (I := fun t : CanTransport => Distinct t.reassembly) hstep h fs

@[simp] lemma after_cons (t : CanTransport) (f : Frame) (fs : List Frame) :
    t.after c (f :: fs) = (t.tryReceive c f).1.after c fs := rfl

/-- **Transfers do not disturb each other.** The slot of a transfer is as before after any frames
of other transfers. -/
theorem holds_after_iff (h : Distinct t.reassembly) {fs : List Frame} {k : TransferKey}
    (hk : ∀ f ∈ fs, k ≠ f.key) {r : Reassembly} :
    Holds (t.after c fs).reassembly k r ↔ Holds t.reassembly k r := by
  induction fs generalizing t with
  | nil => rfl
  | cons f fs ih =>
    rw [after_cons, ih (distinct_tryReceive c h f) fun g hg => hk g (List.mem_cons_of_mem _ hg)]
    exact (touches_tryReceive c t f).holds_iff h (hk f List.mem_cons_self)

variable (t)

@[simp] lemma received_nil (t : CanTransport) : t.received c [] = [] := rfl

@[simp] lemma received_cons (t : CanTransport) (f : Frame) (fs : List Frame) :
    t.received c (f :: fs) = (t.tryReceive c f).2 :: (t.tryReceive c f).1.received c fs := rfl

lemma received_append (t : CanTransport) (fs gs : List Frame) :
    t.received c (fs ++ gs) = t.received c fs ++ (t.after c fs).received c gs := by
  induction fs generalizing t with
  | nil => rfl
  | cons f fs ih => simp only [List.cons_append, received_cons, after_cons, ih]

/-! ### The four kinds of frames -/

section Kinds

variable (t : CanTransport) {tid : UInt8} (ht : tid < 64) (id : UInt32) (data : List UInt8)

lemma key_flags {kind : UInt8} (hk : kind < 4) (ht : tid < 64) :
    Frame.key ⟨id, flags kind tid :: data⟩ = ⟨tid, id⟩ := by
  rw [Frame.key, List.headD_cons, (flags_spec hk ht).2]

include ht

lemma tryReceive_single :
    (t.tryReceive c ⟨id, flags 0b00 tid :: data⟩).1.reassembly = t.reassembly ∧
      (t.tryReceive c ⟨id, flags 0b00 tid :: data⟩).2 = c.decode data := by
  have hkind := (flags_spec (show (0b00 : UInt8) < 4 by decide) ht).1
  simp only [tryReceive, hkind, if_true]
  cases c.decode data <;> exact ⟨rfl, rfl⟩

lemma tryReceive_start :
    t.tryReceive c ⟨id, flags 0b01 tid :: data⟩ = (t.receiveStart ⟨tid, id⟩ data, none) := by
  obtain ⟨hkind, htid⟩ := flags_spec (show (0b01 : UInt8) < 4 by decide) ht
  simp [tryReceive, hkind, htid]

lemma tryReceive_middle :
    t.tryReceive c ⟨id, flags 0b10 tid :: data⟩ = t.receiveContinuation c ⟨tid, id⟩ false data := by
  obtain ⟨hkind, htid⟩ := flags_spec (show (0b10 : UInt8) < 4 by decide) ht
  simp [tryReceive, hkind, htid]

lemma tryReceive_end :
    t.tryReceive c ⟨id, flags 0b11 tid :: data⟩ = t.receiveContinuation c ⟨tid, id⟩ true data := by
  obtain ⟨hkind, htid⟩ := flags_spec (show (0b11 : UInt8) < 4 by decide) ht
  simp [tryReceive, hkind, htid]

end Kinds

end CanTransport

end Pipoco.Can
