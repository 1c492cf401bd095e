import Pipoco.Bytes
import Pipoco.Runs

/-!
The diagnostic log of the serial specification.

The log is a ring with a head, a tail and a length of their own. It behaves as a queue of 64 entries:
a push into the full queue drops the oldest entry, a pop takes the oldest, and the encoding lists the
queue in order, one record of 16 bytes each.
-/

namespace Pipoco.DiagRing

open Bytes Runs

abbrev tsDiagLogCapacity : ℕ := 64
def tsDiagLogEntryBytes : ℕ := 16
def tsDiagSourceContextPresent : UInt8 := 0x80

structure TsDiagLogEntry where
  code : UInt8 := 0
  severity : UInt8 := 0
  action : UInt8 := 0
  source : UInt8 := 0
  contextPresent : Bool := false
  startUs : UInt32 := 0
  endUs : UInt32 := 0
  context : UInt32 := 0

structure TsDiagLogRing where
  len : ℕ := 0
  head : Fin tsDiagLogCapacity := 0
  tail : Fin tsDiagLogCapacity := 0
  entries : Fin tsDiagLogCapacity → TsDiagLogEntry := fun _ => {}

structure TsDiagLogEncoded where
  len : UInt16
  bytes : List UInt8

/-- The place of an entry in the ring, from its number. -/
def place (i : ℕ) : Fin tsDiagLogCapacity := Fin.ofNat _ i

variable (ring : TsDiagLogRing) (entry : TsDiagLogEntry) {queue : List TsDiagLogEntry}

def tsDiagLogPush : TsDiagLogRing where
  entries := Function.update ring.entries ring.head entry
  len := if ring.len < tsDiagLogCapacity then ring.len + 1 else ring.len
  tail := if ring.len < tsDiagLogCapacity then ring.tail else ring.tail + 1
  head := ring.head + 1

def tsDiagLogPopOldest : Option TsDiagLogEntry × TsDiagLogRing :=
  if ring.len = 0 then (none, ring)
  else (some (ring.entries ring.tail), { ring with tail := ring.tail + 1, len := ring.len - 1 })

def TsDiagLogEntry.record : List UInt8 :=
  [entry.code, entry.severity, entry.action,
    entry.source ||| if entry.contextPresent then tsDiagSourceContextPresent else 0] ++
  (le32 entry.startUs ++ le32 entry.endUs ++ le32 entry.context)

def encodeTsDiagLogOldestFirst : TsDiagLogEncoded :=
  let len := min ring.len tsDiagLogCapacity
  { len := UInt16.ofNat (len * tsDiagLogEntryBytes)
    bytes := (List.range len).foldl
      (fun bytes i => put bytes (i * tsDiagLogEntryBytes) (ring.entries (ring.tail + place i)).record)
      (List.replicate (tsDiagLogCapacity * tsDiagLogEntryBytes) 0) }

/-! ### The queue -/

inductive Call
  | push (entry : TsDiagLogEntry)
  | popOldest

def step : Call → TsDiagLogRing
  | .push entry => tsDiagLogPush ring entry
  | .popOldest => (tsDiagLogPopOldest ring).2

/-- A queue that drops its oldest entry when it is full. -/
def queueStep (queue : List TsDiagLogEntry) : Call → List TsDiagLogEntry
  | .push entry => (if queue.length < tsDiagLogCapacity then queue else queue.tail) ++ [entry]
  | .popOldest => queue.tail

/-- Sixteen bytes that read as an entry. The flag shares its byte with the source. -/
structure Reads (bytes : List UInt8) : Prop where
  code : byteAt bytes 0 = entry.code
  severity : byteAt bytes 1 = entry.severity
  action : byteAt bytes 2 = entry.action
  source : byteAt bytes 3 = if entry.contextPresent then entry.source ||| 0x80 else entry.source
  startUs : u32 (window bytes 4 4) = entry.startUs
  endUs : u32 (window bytes 8 4) = entry.endUs
  context : u32 (window bytes 12 4) = entry.context

/-- The ring holds the queue after `n` entries have left it. -/
structure Holds (n : ℕ) (queue : List TsDiagLogEntry) : Prop where
  le : queue.length ≤ tsDiagLogCapacity
  len : ring.len = queue.length
  tail : ring.tail = place n
  head : ring.head = place (n + queue.length)
  entries : ∀ i (h : i < queue.length), ring.entries (place (n + i)) = queue[i]

variable {ring} {n : ℕ}

lemma place_add (n k : ℕ) : place n + place k = place (n + k) := Fin.ext (Nat.add_mod n k _).symm

lemma place_ne {i j : ℕ} (hij : i < j) (hj : j < i + tsDiagLogCapacity) : place i ≠ place j := by
  intro h
  have hmod : i % 64 = j % 64 := Fin.ext_iff.mp h
  rw [tsDiagLogCapacity] at hj
  omega

lemma holds_drop (h : Holds ring n (entry :: queue)) :
    Holds { ring with tail := ring.tail + 1, len := ring.len - 1 } (n + 1) queue where
  le := Nat.le_of_succ_le h.le
  len := by rw [h.len, List.length_cons, Nat.add_sub_cancel]
  tail := by
    rw [h.tail]
    exact place_add n 1
  head := by rw [h.head, List.length_cons, Nat.add_right_comm, Nat.add_assoc]
  entries i hi := by
    have hnext := h.entries (i + 1) (Nat.succ_lt_succ hi)
    rwa [List.getElem_cons_succ, Nat.add_comm i, ← Nat.add_assoc] at hnext

lemma holds_append (h : Holds ring n queue) (hroom : queue.length < tsDiagLogCapacity) :
    Holds { ring with
      entries := Function.update ring.entries ring.head entry
      len := ring.len + 1
      head := ring.head + 1 } n (queue ++ [entry]) where
  le := by simpa using hroom
  len := by simp [h.len]
  tail := h.tail
  head := by
    rw [h.head, List.length_append, ← Nat.add_assoc]
    exact place_add _ 1
  entries i hi := by
    dsimp only
    rw [h.head]
    rw [List.length_append, List.length_singleton] at hi
    rcases Nat.lt_succ_iff_lt_or_eq.mp hi with hlt | rfl
    · rw [Function.update_of_ne (place_ne (by omega) (by omega)), h.entries i hlt,
        List.getElem_append_left hlt]
    · rw [Function.update_self, List.getElem_concat_length rfl]

lemma holds_step (h : Holds ring n queue) (call : Call) :
    ∃ n, Holds (step ring call) n (queueStep queue call) := by
  cases call with
  | push entry =>
    simp only [step, queueStep, tsDiagLogPush, h.len]
    split_ifs with hroom
    · rw [← h.len]
      exact ⟨n, holds_append entry h hroom⟩
    · -- the push makes room and then appends
      cases queue with
      | nil => exact absurd (by decide) hroom
      | cons oldest queue =>
        have hle := h.le
        rw [List.length_cons] at hle
        have hpushed := holds_append entry (holds_drop _ h) (by omega)
        simp only [h.len, List.length_cons, Nat.add_sub_cancel] at hpushed
        exact ⟨_, hpushed⟩
  | popOldest =>
    cases queue with
    | nil => exact ⟨n, by simpa [step, queueStep, tsDiagLogPopOldest, h.len] using h⟩
    | cons oldest queue =>
      refine ⟨n + 1, ?_⟩
      simpa [step, queueStep, tsDiagLogPopOldest, h.len] using holds_drop _ h

lemma popped (h : Holds ring n queue) : (tsDiagLogPopOldest ring).1 = queue.head? := by
  rw [tsDiagLogPopOldest, h.len, h.tail]
  cases queue with
  | nil => rfl
  | cons oldest queue => exact congrArg some (h.entries 0 (Nat.succ_pos _))

lemma length_records : (queue.flatMap TsDiagLogEntry.record).length =
    queue.length * tsDiagLogEntryBytes := by
  simp [List.length_flatMap, TsDiagLogEntry.record, tsDiagLogEntryBytes]

lemma reads_record : Reads entry entry.record where
  code := rfl
  severity := rfl
  action := rfl
  source := by
    cases h : entry.contextPresent <;> simp [TsDiagLogEntry.record, byteAt, h,
      tsDiagSourceContextPresent]
  startUs := u32_le32 _
  endUs := u32_le32 _
  context := u32_le32 _

lemma window_records (rest : List UInt8) {i : ℕ} (hi : i < queue.length) :
    window (queue.flatMap TsDiagLogEntry.record ++ rest) (i * tsDiagLogEntryBytes)
      tsDiagLogEntryBytes = queue[i].record := by
  induction queue generalizing i with
  | nil => exact absurd hi (Nat.not_lt_zero i)
  | cons entry queue ih =>
    cases i with
    | zero => rfl
    | succ i =>
      rw [List.getElem_cons_succ, ← ih (Nat.lt_of_succ_lt_succ hi), Nat.succ_mul]
      rfl

/-- Records written one after the other are written as one block. -/
lemma foldl_put_records (f : ℕ → TsDiagLogEntry) (l : List UInt8) (n : ℕ) :
    (List.range n).foldl (fun bytes i => put bytes (i * tsDiagLogEntryBytes) (f i).record) l =
      put l 0 (((List.range n).map f).flatMap TsDiagLogEntry.record) := by
  induction n with
  | zero => simp
  | succ n ih =>
    have hput := put_append l 0 (((List.range n).map f).flatMap TsDiagLogEntry.record) (f n).record
    rw [length_records, List.length_map, List.length_range, Nat.zero_add] at hput
    rw [List.range_succ, List.foldl_append, ih]
    simpa using hput

/-- **The log is a queue.** -/
theorem ring_is_queue (calls : List Call) :
    let ring := run step {} calls
    let queue := run queueStep [] calls
    queue.length ≤ tsDiagLogCapacity ∧ (tsDiagLogPopOldest ring).1 = queue.head? ∧
      (encodeTsDiagLogOldestFirst ring).len.toNat = queue.length * tsDiagLogEntryBytes ∧
      (encodeTsDiagLogOldestFirst ring).bytes =
        queue.flatMap TsDiagLogEntry.record ++
          List.replicate ((tsDiagLogCapacity - queue.length) * tsDiagLogEntryBytes) 0 ∧
      ∀ i (h : i < queue.length), Reads queue[i] (window (encodeTsDiagLogOldestFirst ring).bytes
        (i * tsDiagLogEntryBytes) tsDiagLogEntryBytes) := by
  intro ring queue
  obtain ⟨n, h⟩ : ∃ n, Holds ring n queue :=
    run_rel (R := fun ring queue => ∃ n, Holds ring n queue)
      (fun _ _ call ⟨_, h⟩ => holds_step h call)
      ⟨0, Nat.zero_le _, rfl, rfl, rfl, by simp⟩ calls
  have hqueue : (List.range queue.length).map (fun i => ring.entries (ring.tail + place i)) = queue := by
    refine List.ext_getElem (by simp) fun i hi hi' => ?_
    simp [h.tail, place_add, h.entries i hi']
  have hle : queue.length * tsDiagLogEntryBytes ≤ tsDiagLogCapacity * tsDiagLogEntryBytes :=
    Nat.mul_le_mul_right _ h.le
  have hbytes : (encodeTsDiagLogOldestFirst ring).bytes = queue.flatMap TsDiagLogEntry.record ++
      List.replicate ((tsDiagLogCapacity - queue.length) * tsDiagLogEntryBytes) 0 := by
    simp only [encodeTsDiagLogOldestFirst, h.len, Nat.min_eq_left h.le, foldl_put_records, hqueue]
    rw [put_zero, length_records, List.drop_replicate, Nat.sub_mul]
    rwa [length_records, List.length_replicate]
  refine ⟨h.le, popped h, ?_, hbytes, fun i hi => ?_⟩
  · simp only [encodeTsDiagLogOldestFirst, h.len, Nat.min_eq_left h.le]
    exact Nat.mod_eq_of_lt (Nat.lt_of_le_of_lt hle (by decide))
  · rw [hbytes, window_records _ hi]
    exact reads_record _

end Pipoco.DiagRing
