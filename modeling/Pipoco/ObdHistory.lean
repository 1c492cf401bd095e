import Pipoco.SideRecords

/-!
The retained OBD-II history as it is stored beside the pages.

The payload has ninety-two bytes at fixed offsets: the current sensor data, an optional freeze
frame, three stored trouble codes and their count, two optional events, the last fault and the last
observed code. Only sensor data can be staged; any other message in the snapshot makes the staging
fail. A count above the capacity is clamped when it is read.
-/

namespace Pipoco.ObdHistory

open Bytes Domain SideRecords

variable (raw : UInt8)

inductive DiagCode
  | mapRange | tpsRange | camMissing | lowVoltage | overvoltage | mapFailureHighLoad
  | tpsMapPlausibility | knockDetected | persistCrcFault | oilPressureLow | fuelPressureLow
  | lambdaInvalid
  deriving DecidableEq, Repr

def DiagCode.toU8 : DiagCode → UInt8
  | mapRange => 1
  | tpsRange => 2
  | camMissing => 3
  | lowVoltage => 4
  | overvoltage => 5
  | mapFailureHighLoad => 6
  | tpsMapPlausibility => 7
  | knockDetected => 8
  | persistCrcFault => 9
  | oilPressureLow => 10
  | fuelPressureLow => 11
  | lambdaInvalid => 12

def decodeDiagCode : Option DiagCode :=
  if raw = 1 then some .mapRange
  else if raw = 2 then some .tpsRange
  else if raw = 3 then some .camMissing
  else if raw = 4 then some .lowVoltage
  else if raw = 5 then some .overvoltage
  else if raw = 6 then some .mapFailureHighLoad
  else if raw = 7 then some .tpsMapPlausibility
  else if raw = 8 then some .knockDetected
  else if raw = 9 then some .persistCrcFault
  else if raw = 10 then some .oilPressureLow
  else if raw = 11 then some .fuelPressureLow
  else if raw = 12 then some .lambdaInvalid
  else none

inductive DiagSource
  | sensor | trigger | scheduler | safety | user
  deriving DecidableEq, Repr

def encodeDiagSource : DiagSource → UInt8
  | .sensor => 1
  | .trigger => 2
  | .scheduler => 3
  | .safety => 4
  | .user => 5

def decodeDiagSource : Option DiagSource :=
  if raw = 1 then some .sensor
  else if raw = 2 then some .trigger
  else if raw = 3 then some .scheduler
  else if raw = 4 then some .safety
  else if raw = 5 then some .user
  else none

def encodeFaultCode : FaultCode → UInt8
  | .none => 0
  | .syncLoss => 1
  | .sensorOutOfRange => 2
  | .calibrationInvalid => 3
  | .safetyCut => 4
  | .actuatorFault => 5

def decodeFaultCode : Option FaultCode :=
  if raw = 0 then some .none
  else if raw = 1 then some .syncLoss
  else if raw = 2 then some .sensorOutOfRange
  else if raw = 3 then some .calibrationInvalid
  else if raw = 4 then some .safetyCut
  else if raw = 5 then some .actuatorFault
  else none

@[simp] lemma decode_toU8 (c : DiagCode) : decodeDiagCode c.toU8 = some c := by
  cases c <;> rfl

@[simp] lemma decode_encodeDiagSource (s : DiagSource) :
    decodeDiagSource (encodeDiagSource s) = some s := by
  cases s <;> rfl

@[simp] lemma decode_encodeFaultCode (f : FaultCode) :
    decodeFaultCode (encodeFaultCode f) = some f := by
  cases f <;> rfl

/-! ### Sensor data -/

variable (input : List UInt8) {bs : List UInt8}

structure SensorData where
  mapKpaX10 : UInt16
  (tpsPercent iatOffset cltOffset voltageX10 lambdaX100 flags : UInt8)
  timestampUs : UInt32
  deriving DecidableEq, Repr

/-- The messages of the link; all but the sensor data are refused by the staging. -/
inductive Message
  | sensorData (data : SensorData)
  | other
  deriving DecidableEq, Repr

variable (d : SensorData)

def sensorBlocks : List (ℕ × List UInt8) :=
  [(0, le16 d.mapKpaX10), (2, [d.tpsPercent]), (3, [d.iatOffset]), (4, [d.cltOffset]),
    (5, [d.voltageX10]), (6, [d.lambdaX100]), (7, [d.flags]), (8, le32 d.timestampUs)]

def encodeSensorMessage : Message → Option (List UInt8)
  | .sensorData d => some (putAll (List.replicate 12 0) (sensorBlocks d))
  | .other => none

def decodeSensorMessage : Message :=
  .sensorData
    { mapKpaX10 := u16 (window input 0 2)
      tpsPercent := byteAt input 2
      iatOffset := byteAt input 3
      cltOffset := byteAt input 4
      voltageX10 := byteAt input 5
      lambdaX100 := byteAt input 6
      flags := byteAt input 7
      timestampUs := u32 (window input 8 4) }

lemma layout_sensor : Layout (List.replicate 12 (0 : UInt8)).length (sensorBlocks d) := by
  refine Ascends.layout ?_
  simp [Ascends, sensorBlocks]

lemma length_of_encodeSensor {m : Message} (h : encodeSensorMessage m = some bs) :
    bs.length = 12 := by
  cases m with
  | other => cases h
  | sensorData d =>
    obtain rfl := Option.some.inj h
    rw [length_putAll, List.length_replicate]

lemma decode_of_encodeSensor {m : Message} (h : encodeSensorMessage m = some bs) :
    decodeSensorMessage bs = m := by
  cases m with
  | other => cases h
  | sensorData d =>
    obtain rfl := Option.some.inj h
    have hl := layout_sensor d
    simp only [decodeSensorMessage]
    rw [u16_putAll hl 0 rfl, byteAt_putAll hl 1 rfl, byteAt_putAll hl 2 rfl, byteAt_putAll hl 3 rfl,
      byteAt_putAll hl 4 rfl, byteAt_putAll hl 5 rfl, byteAt_putAll hl 6 rfl, u32_putAll hl 7 rfl]

/-! ### Events -/

structure DiagEvent where
  code : DiagCode
  timestamp : Micros
  source : DiagSource
  context : Option UInt32
  (startUs endUs : UInt32)
  deriving DecidableEq, Repr

def eventBlocks (e : DiagEvent) : List (ℕ × List UInt8) :=
  [(0, [1]), (1, [e.code.toU8]), (2, le32 e.timestamp), (6, [encodeDiagSource e.source]),
    (7, [if e.context.isSome then 1 else 0]), (8, le32 (e.context.getD 0)), (12, le32 e.startUs),
    (16, le32 e.endUs)]

def encodeDiagEvent : Option DiagEvent → List UInt8
  | some e => putAll (List.replicate 20 0) (eventBlocks e)
  | none => List.replicate 20 0

def decodeDiagEvent : Option (Option DiagEvent) :=
  if byteAt input 0 = 0 then some none
  else do
    let code ← decodeDiagCode (byteAt input 1)
    let source ← decodeDiagSource (byteAt input 6)
    some (some
      { code
        timestamp := u32 (window input 2 4)
        source
        context := if byteAt input 7 = 0 then none else some (u32 (window input 8 4))
        startUs := u32 (window input 12 4)
        endUs := u32 (window input 16 4) })

variable (e : Option DiagEvent)

@[simp] lemma length_encodeDiagEvent : (encodeDiagEvent e).length = 20 := by
  cases e <;> simp [encodeDiagEvent]

lemma layout_event (e : DiagEvent) :
    Layout (List.replicate 20 (0 : UInt8)).length (eventBlocks e) := by
  refine Ascends.layout ?_
  simp [Ascends, eventBlocks]

@[simp] lemma decode_encodeDiagEvent : decodeDiagEvent (encodeDiagEvent e) = some e := by
  cases e with
  | none => rfl
  | some e =>
    have hl := layout_event e
    have hctx : (if byteAt (putAll (List.replicate 20 0) (eventBlocks e)) 7 = 0 then none
        else some (u32 (window (putAll (List.replicate 20 0) (eventBlocks e)) 8 4))) = e.context := by
      rw [byteAt_putAll hl 4 rfl, u32_putAll hl 5 rfl]
      cases e.context <;> rfl
    rw [encodeDiagEvent, decodeDiagEvent, hctx, byteAt_putAll hl 0 rfl, byteAt_putAll hl 1 rfl,
      u32_putAll hl 2 rfl, byteAt_putAll hl 3 rfl, u32_putAll hl 6 rfl, u32_putAll hl 7 rfl]
    simp

/-! ### The snapshot -/

variable (c : Option DiagCode) {m : Option Message}

def storedDtcCap : UInt8 := 3

structure Snapshot where
  currentDataValueSource : Message
  freezeFrameValueSource : Option Message
  storedDtcs : List.Vector DiagCode 3
  storedDtcCount : UInt8
  freezeFrameDtc : Option DiagCode
  (currentDiagEvent freezeFrameEvent : Option DiagEvent)
  lastFault : FaultCode
  lastObservedDiagCode : Option DiagCode
  lastObservedDiagTimestampUs : UInt32
  deriving DecidableEq

def optionCode : UInt8 := (c.map DiagCode.toU8).getD 0

def decodeOptionCode : Option (Option DiagCode) :=
  if raw = 0 then some none else (decodeDiagCode raw).map some

@[simp] lemma decode_optionCode : decodeOptionCode (optionCode c) = some c := by
  rcases c with _ | c
  · rfl
  · cases c <;> rfl

def snapshotBytes : ℕ := 92

/-- The freeze frame's presence byte and data; zeros when there is none. -/
def encodeFreezeFrame : Option Message → Option (UInt8 × List UInt8)
  | some m => (encodeSensorMessage m).map (1, ·)
  | none => some (0, List.replicate 12 0)

variable (s : Snapshot)

def snapshotBlocks (current : List UInt8) (frame : UInt8 × List UInt8) : List (ℕ × List UInt8) :=
  [(0, current), (12, [frame.1]), (13, frame.2), (25, s.storedDtcs.toList.map DiagCode.toU8),
    (28, [s.storedDtcCount]), (29, [optionCode s.freezeFrameDtc]),
    (30, encodeDiagEvent s.currentDiagEvent), (50, encodeDiagEvent s.freezeFrameEvent),
    (70, [encodeFaultCode s.lastFault]), (71, [optionCode s.lastObservedDiagCode]),
    (72, le32 s.lastObservedDiagTimestampUs), (76, List.replicate 16 0)]

def encodeSnapshot : Option (List UInt8) := do
  let current ← encodeSensorMessage s.currentDataValueSource
  let frame ← encodeFreezeFrame s.freezeFrameValueSource
  some (putAll (List.replicate snapshotBytes 0) (snapshotBlocks s current frame))

def decodeSnapshot : Option Snapshot := do
  let dtc0 ← decodeDiagCode (byteAt input 25)
  let dtc1 ← decodeDiagCode (byteAt input 26)
  let dtc2 ← decodeDiagCode (byteAt input 27)
  let freezeFrameDtc ← decodeOptionCode (byteAt input 29)
  let currentDiagEvent ← decodeDiagEvent (window input 30 20)
  let freezeFrameEvent ← decodeDiagEvent (window input 50 20)
  let lastFault ← decodeFaultCode (byteAt input 70)
  let lastObservedDiagCode ← decodeOptionCode (byteAt input 71)
  some
    { currentDataValueSource := decodeSensorMessage (window input 0 12)
      freezeFrameValueSource :=
        if byteAt input 12 = 0 then none else some (decodeSensorMessage (window input 13 12))
      storedDtcs := ⟨[dtc0, dtc1, dtc2], rfl⟩
      storedDtcCount := min (byteAt input 28) storedDtcCap
      freezeFrameDtc
      currentDiagEvent
      freezeFrameEvent
      lastFault
      lastObservedDiagCode
      lastObservedDiagTimestampUs := u32 (window input 72 4) }

/-- What is read back: the count is clamped to the capacity. -/
def Snapshot.stored : Snapshot :=
  { s with storedDtcCount := min s.storedDtcCount storedDtcCap }

variable {frame : UInt8 × List UInt8}

lemma length_of_encodeFreezeFrame (h : encodeFreezeFrame m = some frame) : frame.2.length = 12 := by
  cases m with
  | none =>
    cases h
    rfl
  | some m =>
    obtain ⟨bs, hbs, rfl⟩ := Option.map_eq_some_iff.mp h
    exact length_of_encodeSensor hbs

lemma decode_of_encodeFreezeFrame (h : encodeFreezeFrame m = some frame) :
    (if frame.1 = 0 then none else some (decodeSensorMessage frame.2)) = m := by
  cases m with
  | none =>
    cases h
    rfl
  | some m =>
    obtain ⟨bs, hbs, rfl⟩ := Option.map_eq_some_iff.mp h
    rw [if_neg (show (1 : UInt8) ≠ 0 by decide), decode_of_encodeSensor hbs]

lemma layout_snapshot {current : List UInt8} (hc : current.length = 12) (hf : frame.2.length = 12) :
    Layout (List.replicate snapshotBytes (0 : UInt8)).length (snapshotBlocks s current frame) := by
  refine Ascends.layout ?_
  simp [Ascends, snapshotBlocks, hc, hf, snapshotBytes]

variable {input}

/-- The three codes stand one byte after the other. -/
lemma byteAt_of_window_map {off : ℕ} {a b c : DiagCode}
    (h : window input off 3 = [a.toU8, b.toU8, c.toU8]) :
    byteAt input off = a.toU8 ∧ byteAt input (off + 1) = b.toU8 ∧
      byteAt input (off + 2) = c.toU8 := by
  have hat : ∀ i < 3, input[off + i]? = [a.toU8, b.toU8, c.toU8][i]? := by
    intro i hi
    rw [← h, getElem?_window, if_pos hi]
  have h0 := hat 0 (by omega)
  have h1 := hat 1 (by omega)
  have h2 := hat 2 (by omega)
  rw [Nat.add_zero] at h0
  simp only [byteAt, List.getD_eq_getElem?_getD, h0, h1, h2]
  exact ⟨rfl, rfl, rfl⟩

variable {s}

/-- Every staged snapshot is read back, with its count clamped. -/
lemma decode_of_encodeSnapshot (h : encodeSnapshot s = some bs) :
    decodeSnapshot bs = some s.stored := by
  obtain ⟨current, hcur, h⟩ := Option.bind_eq_some_iff.mp h
  obtain ⟨frame, hframe, h⟩ := Option.bind_eq_some_iff.mp h
  obtain rfl := Option.some.inj h
  have hclen := length_of_encodeSensor hcur
  have hflen := length_of_encodeFreezeFrame hframe
  have hl := layout_snapshot s hclen hflen
  set bs := putAll (List.replicate snapshotBytes 0) (snapshotBlocks s current frame)
  have hcw : window bs 0 12 = current := window_putAll_of_length hl (by simp [snapshotBlocks]) hclen
  have hfw : window bs 13 12 = frame.2 :=
    window_putAll_of_length hl (by simp [snapshotBlocks]) hflen
  have h30 : window bs 30 20 = encodeDiagEvent s.currentDiagEvent :=
    window_putAll_of_length hl (by simp [snapshotBlocks]) (length_encodeDiagEvent _)
  have h50 : window bs 50 20 = encodeDiagEvent s.freezeFrameEvent :=
    window_putAll_of_length hl (by simp [snapshotBlocks]) (length_encodeDiagEvent _)
  obtain ⟨⟨codes, hcodes⟩, hdtc⟩ : ∃ v, v = s.storedDtcs := ⟨_, rfl⟩
  obtain ⟨a, b, c, rfl⟩ : ∃ a b c, codes = [a, b, c] := List.length_eq_three.mp hcodes
  have hcw3 : window bs 25 3 = [a.toU8, b.toU8, c.toU8] :=
    window_putAll_of_length hl (by simp [snapshotBlocks, ← hdtc, List.Vector.toList]) rfl
  obtain ⟨h25, h26, h27⟩ := byteAt_of_window_map hcw3
  have h12 : byteAt bs 12 = frame.1 := byteAt_putAll hl 1 rfl
  have h28 : byteAt bs 28 = s.storedDtcCount := byteAt_putAll hl 4 rfl
  have h29 : byteAt bs 29 = optionCode s.freezeFrameDtc := byteAt_putAll hl 5 rfl
  have h70 : byteAt bs 70 = encodeFaultCode s.lastFault := byteAt_putAll hl 8 rfl
  have h71 : byteAt bs 71 = optionCode s.lastObservedDiagCode := byteAt_putAll hl 9 rfl
  have h72 : u32 (window bs 72 4) = s.lastObservedDiagTimestampUs := u32_putAll hl 10 rfl
  have hff := decode_of_encodeFreezeFrame hframe
  simp only [decodeSnapshot, h25, h26, h27, h28, h29, h30, h50, h70, h71, h72, h12, hcw, hfw,
    decode_toU8, decode_optionCode, decode_encodeDiagEvent, decode_encodeFaultCode,
    decode_of_encodeSensor hcur, hff, Option.bind_eq_bind, Option.bind_some]
  rw [Snapshot.stored, ← hdtc]

/-- The parts of a decoded snapshot that decide how it is staged again. -/
lemma decodeSnapshot_some (h : decodeSnapshot input = some s) :
    s.storedDtcCount = min (byteAt input 28) storedDtcCap ∧
      s.currentDataValueSource = decodeSensorMessage (window input 0 12) ∧
      s.freezeFrameValueSource =
        if byteAt input 12 = 0 then none else some (decodeSensorMessage (window input 13 12)) := by
  simp only [decodeSnapshot, Option.bind_eq_bind, Option.bind_eq_some_iff, Option.some.injEq] at h
  obtain ⟨-, -, -, -, -, -, -, -, -, -, -, -, -, -, -, -, rfl⟩ := h
  exact ⟨rfl, rfl, rfl⟩

variable (input)

/-! ### The sidecar -/

def sidecarBytes : ℕ := 100
def sidecarMagic : UInt32 := 0x3244424F
def sidecarVersion : UInt16 := 1

def sidecarBlocks (payload : List UInt8) : List (ℕ × List UInt8) :=
  [(0, le32 sidecarMagic), (4, le16 sidecarVersion), (6, le16 (.ofNat snapshotBytes)), (8, payload)]

def stageSidecar (s : Snapshot) : Option (List UInt8) :=
  (encodeSnapshot s).map fun payload =>
    putAll (List.replicate sidecarBytes 0) (sidecarBlocks payload)

def decodeSidecar : Option Snapshot :=
  if u32 (window input 0 4) ≠ sidecarMagic then none
  else if u16 (window input 4 2) ≠ sidecarVersion then none
  else if (u16 (window input 6 2)).toNat ≠ snapshotBytes then none
  else decodeSnapshot (window input 8 snapshotBytes)

lemma length_of_encodeSnapshot (h : encodeSnapshot s = some bs) : bs.length = snapshotBytes := by
  obtain ⟨current, -, h⟩ := Option.bind_eq_some_iff.mp h
  obtain ⟨frame, -, h⟩ := Option.bind_eq_some_iff.mp h
  obtain rfl := Option.some.inj h
  rw [length_putAll, List.length_replicate]

lemma length_of_stageSidecar (h : stageSidecar s = some bs) : bs.length = sidecarBytes := by
  obtain ⟨payload, -, rfl⟩ := Option.map_eq_some_iff.mp h
  rw [length_putAll, List.length_replicate]

lemma decode_of_stageSidecar (h : stageSidecar s = some bs) : decodeSidecar bs = some s.stored := by
  obtain ⟨payload, hpayload, rfl⟩ := Option.map_eq_some_iff.mp h
  have hlen := length_of_encodeSnapshot hpayload
  have hl : Layout (List.replicate sidecarBytes (0 : UInt8)).length (sidecarBlocks payload) := by
    refine Ascends.layout ?_
    simp [Ascends, sidecarBlocks, hlen, snapshotBytes, sidecarBytes]
  set bs := putAll (List.replicate sidecarBytes 0) (sidecarBlocks payload)
  have hmagic : u32 (window bs 0 4) = sidecarMagic := u32_putAll hl 0 rfl
  have hversion : u16 (window bs 4 2) = sidecarVersion := u16_putAll hl 1 rfl
  have hcount : u16 (window bs 6 2) = .ofNat snapshotBytes := u16_putAll hl 2 rfl
  have hbody : window bs 8 snapshotBytes = payload :=
    window_putAll_of_length hl (by simp [sidecarBlocks]) hlen
  rw [decodeSidecar, hmagic, if_neg (not_not.mpr rfl), hversion, if_neg (not_not.mpr rfl), hcount,
    if_neg (by decide), hbody, decode_of_encodeSnapshot hpayload]

lemma decodeSnapshot_of_decodeSidecar (h : decodeSidecar bs = some s) :
    decodeSnapshot (window bs 8 snapshotBytes) = some s := by
  unfold decodeSidecar at h
  split at h
  · cases h
  · split at h
    · cases h
    · split at h
      · cases h
      · exact h

lemma stored_of_decodeSidecar (h : decodeSidecar bs = some s) : s.stored = s := by
  have hcount := (decodeSnapshot_some (decodeSnapshot_of_decodeSidecar h)).1
  have hclamped : min s.storedDtcCount storedDtcCap = s.storedDtcCount := by
    refine min_of_not_lt ?_
    rw [hcount]
    exact not_lt_min _ _
  rw [Snapshot.stored, hclamped]

lemma stageSidecar_of_decode (h : decodeSidecar bs = some s) :
    ∃ bs', stageSidecar s = some bs' := by
  obtain ⟨-, hcur, hframe⟩ := decodeSnapshot_some (decodeSnapshot_of_decodeSidecar h)
  have hc : ∃ current, encodeSensorMessage s.currentDataValueSource = some current := by
    rw [hcur]
    exact ⟨_, rfl⟩
  have hf : ∃ frame, encodeFreezeFrame s.freezeFrameValueSource = some frame := by
    rw [hframe]
    split
    · exact ⟨_, rfl⟩
    · exact ⟨_, rfl⟩
  obtain ⟨current, hc⟩ := hc
  obtain ⟨frame, hf⟩ := hf
  simp [stageSidecar, encodeSnapshot, hc, hf]

lemma decodeSidecar_erased : decodeSidecar (List.replicate sidecarBytes 0xFF) = none := by
  have hmagic : u32 (window (List.replicate sidecarBytes (0xFF : UInt8)) 0 4) ≠ sidecarMagic := by
    decide
  rw [decodeSidecar, if_pos hmagic]

def historyCodec : Codec Snapshot where
  len := sidecarBytes
  encode := stageSidecar
  decode := decodeSidecar
  stored := Snapshot.stored
  length_of_encode := length_of_stageSidecar
  decode_of_encode := decode_of_stageSidecar
  stored_of_decode := stored_of_decodeSidecar
  encode_of_decode := stageSidecar_of_decode
  decode_erased := decodeSidecar_erased

end Pipoco.ObdHistory
