import Pipoco.TsSerial

/-!
Frames from a chopped stream.

The receiver feeds a chunk and pops until nothing comes back. When the chunks are a stream of
frames, the bytes that wait between two chunks are always a beginning of the next frame, so the
frames come out as they went in, wherever the stream was cut.

Whatever the bytes are and however the calls are mixed, the frames that come out are parts of the
bytes taken in, one behind the other. Bytes for which there is no room are not taken in: a frame
can then be put together from bytes that were not neighbours on the line.
-/

namespace Pipoco.Ts

open Bytes Runs FrameAssembler

/-- A buffer that holds one frame and nothing else. -/
def ValidFrame (f : List UInt8) : Prop := (decodeRequest f).isSome ∧ f.length = 4 + frameLen f
  deriving Decidable

/-- The assembler and the buffer that frames are popped into. -/
structure Receiver where
  asm : FrameAssembler
  out : List UInt8

namespace Receiver

variable (r : Receiver)

/-- Calls repeated until none gives a frame: the receiver afterwards and the frames. The fuel bounds
the number of calls. -/
def popFuel : ℕ → Receiver → Receiver × List (List UInt8)
  | 0, r => (r, [])
  | fuel + 1, r =>
    match r.asm.tryPop r.out with
    | (asm, out, none) => (⟨asm, out⟩, [])
    | (asm, out, some n) =>
      let rest := popFuel fuel ⟨asm, out⟩
      (rest.1, out.take n :: rest.2)

/-- A frame has at least one byte, so there are no more calls than bytes and the one that fails. -/
def popUntilNone : Receiver × List (List UInt8) := popFuel (r.asm.len + 1) r

def receive (chunk : List UInt8) : Receiver × List (List UInt8) :=
  popUntilNone { r with asm := r.asm.feed chunk }

def received (r : Receiver) : List (List UInt8) → List (List UInt8)
  | [] => []
  | chunk :: chunks => (r.receive chunk).2 ++ received (r.receive chunk).1 chunks

/-- Each chunk has room when it is fed. -/
def Fits (chunks : List (List UInt8)) : Prop :=
  Along (fun r chunk => (receive r chunk).1) (fun r chunk => chunk.length ≤ capacity - r.asm.len)
    r chunks

/-! ### The calls on the bytes that wait -/

variable {f : List UInt8}

def afterPop : Receiver := ⟨(r.asm.tryPop r.out).1, (r.asm.tryPop r.out).2.1⟩

variable {r}

lemma popFuel_of_none (h : (pop r.asm.pending r.out.length).2 = none) (hok : r.asm.Ok) (fuel : ℕ) :
    popFuel (fuel + 1) r = (r.afterPop, []) := by
  have hframe := (hok.tryPop r.out).2.2.2
  rw [h, Option.map_eq_none_iff] at hframe
  rw [popFuel, afterPop]
  generalize r.asm.tryPop r.out = t at hframe ⊢
  obtain ⟨asm, out, n⟩ := t
  cases hframe
  rfl

lemma popFuel_of_some (h : (pop r.asm.pending r.out.length).2 = some f) (hok : r.asm.Ok) (fuel : ℕ) :
    popFuel (fuel + 1) r = ((popFuel fuel r.afterPop).1, f :: (popFuel fuel r.afterPop).2) := by
  have hframe := (hok.tryPop r.out).2.2.2
  rw [h, Option.map_eq_some_iff] at hframe
  obtain ⟨n, hn, hf⟩ := hframe
  rw [popFuel, afterPop]
  generalize r.asm.tryPop r.out = t at hn hf ⊢
  obtain ⟨asm, out, k⟩ := t
  cases hn
  cases hf
  rfl

/-- A call that gives a frame shortens the buffer. -/
lemma len_afterPop_lt (h : (pop r.asm.pending r.out.length).2 = some f) (hok : r.asm.Ok) :
    r.afterPop.asm.len < r.asm.len := by
  have hskip := length_skip_le r.asm.pending
  have hlen := hok.length_pending
  change (r.asm.tryPop r.out).1.len < r.asm.len
  rw [hok.len_tryPop]
  rcases pop_cases r.asm.pending r.out.length with ⟨hp, -⟩ | ⟨hp, -⟩ | ⟨hp, -⟩ | ⟨n, hp, -, h7, hn, -⟩ <;>
    rw [hp] at h ⊢
  · cases h
  · cases h
  · cases h
  · rw [List.length_drop]
    omega

/-- The fuel suffices: with more of it the calls are the same. -/
lemma popFuel_eq {fuel : ℕ} (hok : r.asm.Ok) (h : r.asm.len < fuel) :
    popFuel fuel r = r.popUntilNone := by
  rw [popUntilNone]
  generalize hm : r.asm.len + 1 = m
  have hlt : r.asm.len < m := by omega
  clear hm
  induction fuel generalizing r m with
  | zero => omega
  | succ fuel ih =>
    obtain ⟨m, rfl⟩ : ∃ k, m = k + 1 := ⟨m - 1, by omega⟩
    rcases hpop : (pop r.asm.pending r.out.length).2 with _ | f
    · rw [popFuel_of_none hpop hok, popFuel_of_none hpop hok]
    · have hshort := len_afterPop_lt hpop hok
      have hsame := @ih r.afterPop (hok.tryPop r.out).1 (by omega) m (by omega)
      rw [popFuel_of_some hpop hok, popFuel_of_some hpop hok, hsame]

/-- **Calls until none is left**, without fuel: the loop stops at the first call that gives no
frame, and goes on behind every other. -/
lemma popUntilNone_of_none (h : (pop r.asm.pending r.out.length).2 = none) (hok : r.asm.Ok) :
    r.popUntilNone = (r.afterPop, []) :=
  popFuel_of_none h hok _

lemma popUntilNone_of_some (h : (pop r.asm.pending r.out.length).2 = some f) (hok : r.asm.Ok) :
    r.popUntilNone = (r.afterPop.popUntilNone.1, f :: r.afterPop.popUntilNone.2) := by
  rw [popUntilNone, popFuel_of_some h hok, popFuel_eq (hok.tryPop r.out).1 (len_afterPop_lt h hok)]

end Receiver

/-! ### Streams of frames -/

variable {f p : List UInt8}

lemma ValidFrame.seven_le (h : ValidFrame f) : 7 ≤ f.length := by
  obtain ⟨⟨c, p⟩, hdec⟩ := Option.isSome_iff_exists.mp h.1
  have hlen := frameLen_of_decodeRequest hdec
  have hall := h.2
  omega

lemma frameLen_append {u : List UInt8} (v : List UInt8) (h : 4 ≤ u.length) :
    frameLen (u ++ v) = frameLen u := by
  have htake := frameLen_take (l := u ++ v) h
  rw [List.take_left] at htake
  exact htake.symm

lemma ValidFrame.magic_eq (h : ValidFrame f) : u16 (window f 0 2) = magic := by
  obtain ⟨⟨c, p⟩, hdec⟩ := Option.isSome_iff_exists.mp h.1
  obtain ⟨-, rest, rfl⟩ := decodeRequest_eq_some.mp hdec
  rw [window_frame_magic, u16_le16]

/-- Bytes that begin as a frame does are not skipped. -/
lemma skip_of_magic (h : 4 ≤ p.length → u16 (window p 0 2) = magic) : skip p = p := by
  rw [skip_eq]
  split
  · next h4 => rw [if_pos (h h4)]
  · rfl

lemma pop_frame (hf : ValidFrame f) (hcap : f.length ≤ capacity) (rest : List UInt8) {room : ℕ}
    (hroom : f.length ≤ room) : pop (f ++ rest) room = (rest, some f) := by
  have h7 := hf.seven_le
  have hlen : 4 + frameLen (f ++ rest) = f.length := by
    rw [frameLen_append rest (by omega), ← hf.2]
  have hskip : skip (f ++ rest) = f ++ rest := skip_of_magic fun _ => by
    rw [window, List.drop_zero, List.take_append_of_le_length (by omega)]
    exact hf.magic_eq
  have hdec : ¬ (decodeRequest f).isNone := by
    rw [Bool.not_eq_true, Option.isNone_eq_false_iff]
    exact hf.1
  simp only [pop, hskip, hlen, List.take_left, List.drop_left, List.length_append]
  rw [if_neg (by omega), if_neg (by omega), if_neg (by omega), if_neg (not_or.mpr ⟨by omega, hdec⟩)]

/-- A proper beginning of a frame waits for the rest of it. -/
lemma pop_beginning {rest : List UInt8} (hf : ValidFrame (p ++ rest))
    (hcap : (p ++ rest).length ≤ capacity) (hrest : rest ≠ []) (room : ℕ) :
    pop p room = (p, none) := by
  have h7 := hf.seven_le
  have hlong : p.length < (p ++ rest).length := by
    rw [List.length_append]
    have := List.length_pos_iff.mpr hrest
    omega
  have hskip : skip p = p := skip_of_magic fun h4 => by
    have hm := hf.magic_eq
    rw [window, List.drop_zero, List.take_append_of_le_length (by omega)] at hm
    exact hm
  simp only [pop, hskip]
  by_cases h4 : p.length < 4
  · rw [if_pos h4]
  · have hlen : 4 + frameLen p = (p ++ rest).length := by
      rw [hf.2, frameLen_append rest (by omega)]
    rw [if_neg h4, if_neg (by omega), if_pos (by omega)]

namespace Receiver

variable {chunks : List (List UInt8)} {r : Receiver} (out : List UInt8) {coming : List UInt8}

/-- The receiver waits for a stream: the bytes it holds and those to come are these frames, and it
does not hold a whole one. -/
structure Waits (r : Receiver) (frames : List (List UInt8)) (coming : List UInt8) : Prop where
  ok : r.asm.Ok
  stream : r.asm.pending ++ coming = frames.flatten
  short : ∀ f ∈ frames.head?, r.asm.pending.length < f.length

/-- Frames that fit the assembler and the output buffer. -/
def Fitting (room : ℕ) (frames : List (List UInt8)) : Prop :=
  ∀ f ∈ frames, ValidFrame f ∧ f.length ≤ capacity ∧ f.length ≤ room

/-- **One chunk.** Popping until none is left gives the whole frames among the bytes that wait. -/
lemma popUntilNone_stream {frames : List (List UInt8)} (hframes : Fitting r.out.length frames)
    (hok : r.asm.Ok) (hstream : r.asm.pending ++ coming = frames.flatten) :
    ∃ rest, frames = r.popUntilNone.2 ++ rest ∧ r.popUntilNone.1.Waits rest coming ∧
      r.popUntilNone.1.out.length = r.out.length := by
  induction frames generalizing r with
  | nil =>
    obtain ⟨hp, -⟩ := List.append_eq_nil_iff.mp hstream
    have hpop : pop r.asm.pending r.out.length = ([], none) := by rw [hp]; rfl
    obtain ⟨hok', hpend, hout, -⟩ := hok.tryPop r.out
    rw [popUntilNone_of_none (congrArg Prod.snd hpop) hok]
    rw [hpop] at hpend
    refine ⟨[], rfl, ⟨hok', ?_, by simp⟩, hout⟩
    change (r.asm.tryPop r.out).1.pending ++ coming = _
    rw [hpend, ← hstream, hp]
  | cons f frames ih =>
    obtain ⟨hf, hcap, hroom⟩ := hframes f (.head _)
    obtain ⟨hok', hpend, hout, -⟩ := hok.tryPop r.out
    rw [List.flatten_cons] at hstream
    rcases Nat.lt_or_ge r.asm.pending.length f.length with hshort | hlong
    · -- the frame is not complete: the call leaves the bytes where they are
      obtain ⟨rest, hrest⟩ : r.asm.pending <+: f :=
        List.prefix_of_prefix_length_le ⟨_, hstream⟩ (List.prefix_append _ _) hshort.le
      have hne : rest ≠ [] := by
        rintro rfl
        rw [← hrest, List.append_nil] at hshort
        exact absurd hshort (lt_irrefl _)
      rw [← hrest] at hf hcap
      have hpop := pop_beginning hf hcap hne r.out.length
      rw [popUntilNone_of_none (congrArg Prod.snd hpop) hok]
      rw [hpop] at hpend
      refine ⟨f :: frames, rfl, ⟨hok', ?_, ?_⟩, hout⟩
      · rw [afterPop, hpend, List.flatten_cons, hstream]
      · rw [afterPop, hpend, List.head?_cons]
        intro g hg
        rw [← Option.mem_some.mp hg]
        exact hshort
    · -- the frame is complete: the call gives it, and the calls behind it the others
      obtain ⟨rest, hrest⟩ : f <+: r.asm.pending :=
        List.prefix_of_prefix_length_le (List.prefix_append _ _) ⟨_, hstream⟩ hlong
      have hpop := pop_frame hf hcap rest hroom
      rw [hrest] at hpop
      rw [hpop] at hpend
      rw [← hrest, List.append_assoc] at hstream
      have hthen : Fitting r.afterPop.out.length frames := fun g hg => by
        rw [afterPop, hout]
        exact hframes g (.tail _ hg)
      obtain ⟨left, hleft, hwaits, hlen⟩ := ih hthen hok'
        ((congrArg (· ++ coming) hpend).trans (List.append_cancel_left hstream))
      rw [popUntilNone_of_some (congrArg Prod.snd hpop) hok]
      exact ⟨left, congrArg (f :: ·) hleft, hwaits, hlen.trans hout⟩

lemma received_of_waits {frames : List (List UInt8)} (hframes : Fitting r.out.length frames)
    (hwaits : r.Waits frames chunks.flatten) (hfits : r.Fits chunks) :
    r.received chunks = frames := by
  induction chunks generalizing r frames with
  | nil =>
    have hstream := hwaits.stream
    rw [List.flatten_nil, List.append_nil] at hstream
    cases frames with
    | nil => rfl
    | cons f frames =>
      -- all bytes have arrived, so a frame that has not come out would be waiting as a whole
      have hshort := hwaits.short f rfl
      rw [hstream, List.flatten_cons, List.length_append] at hshort
      omega
  | cons chunk chunks ih =>
    obtain ⟨hok, hpend⟩ := hwaits.ok.feed chunk
    have hroom : chunk.length ≤ capacity - r.asm.len := hfits.1
    have hstream : (r.asm.feed chunk).pending ++ chunks.flatten = frames.flatten := by
      rw [hpend, fill, hwaits.ok.length_pending, List.take_of_length_le hroom, List.append_assoc,
        ← List.flatten_cons, hwaits.stream]
    obtain ⟨rest, hrest, hnext, hlen⟩ :=
      popUntilNone_stream (r := { r with asm := r.asm.feed chunk }) hframes hok hstream
    have hthen : Fitting (r.receive chunk).1.out.length rest := fun f hf => by
      rw [receive, hlen]
      exact hframes f (by rw [hrest]; exact List.mem_append_right _ hf)
    rw [received, ih hthen hnext hfits.2, receive, ← hrest]

lemma len_popFuel_le (fuel : ℕ) (hok : r.asm.Ok) :
    (popFuel fuel r).1.asm.Ok ∧ (popFuel fuel r).1.asm.len ≤ r.asm.len := by
  induction fuel generalizing r with
  | zero => exact ⟨hok, le_rfl⟩
  | succ fuel ih =>
    have hok' : r.afterPop.asm.Ok := (hok.tryPop r.out).1
    have hle : r.afterPop.asm.len ≤ r.asm.len := by
      rw [afterPop, hok.len_tryPop, ← hok.length_pending]
      exact length_pop_le _ _
    rcases hpop : (pop r.asm.pending r.out.length).2 with _ | f
    · rw [popFuel_of_none hpop hok]
      exact ⟨hok', hle⟩
    · rw [popFuel_of_some hpop hok]
      exact ⟨(ih hok').1, (ih hok').2.trans hle⟩

/-- A stream shorter than what is free has room in every cut. -/
lemma fits_of_length_le (hok : r.asm.Ok) (h : r.asm.len + chunks.flatten.length ≤ capacity) :
    r.Fits chunks := by
  induction chunks generalizing r with
  | nil => trivial
  | cons chunk chunks ih =>
    rw [List.flatten_cons, List.length_append] at h
    have hlen := hok.len_feed chunk
    obtain ⟨hok', hle⟩ := len_popFuel_le ((r.asm.feed chunk).len + 1)
      (r := { r with asm := r.asm.feed chunk }) (hok.feed chunk).1
    refine ⟨by omega, ih hok' (le_trans (Nat.add_le_add_right hle _) ?_)⟩
    change (r.asm.feed chunk).len + _ ≤ _
    omega

def start : Receiver := ⟨FrameAssembler.new, out⟩

lemma waits_start {frames : List (List UInt8)} (hvalid : ∀ f ∈ frames, ValidFrame f)
    (h : coming = frames.flatten) : (start out).Waits frames coming := by
  refine ⟨ok_new, ?_, fun f hf => ?_⟩
  · rw [start, pending_new, List.nil_append, h]
  · have hmem : f ∈ frames := List.mem_of_mem_head? hf
    have := (hvalid f hmem).seven_le
    rw [start, pending_new, List.length_nil]
    omega

end Receiver

/-! ### Any bytes and any calls -/

namespace FrameAssembler

variable (a : FrameAssembler)

/-- The frame a call gives, as it stands in the output buffer. -/
def popped : Call → Option (List UInt8)
  | .feed _ => none
  | .tryPop out => (a.tryPop out).2.2.map fun n => (a.tryPop out).2.1.take n

/-- The bytes a call takes in. -/
def taken : Call → Option (List UInt8)
  | .feed data => some (data.take (capacity - a.len))
  | .tryPop _ => none

def fed : Call → Option (List UInt8)
  | .feed data => some data
  | .tryPop _ => none

end FrameAssembler

/-- The parts stand one behind the other in the stream, each in one piece. -/
def Carved : List (List UInt8) → List UInt8 → Prop
  | [], _ => True
  | f :: fs, s => ∃ g rest, s = g ++ (f ++ rest) ∧ Carved fs rest

lemma Carved.append_left {fs : List (List UInt8)} {s : List UInt8} (h : Carved fs s)
    (g : List UInt8) : Carved fs (g ++ s) := by
  cases fs with
  | nil => trivial
  | cons f fs =>
    obtain ⟨g', rest, rfl, hrest⟩ := h
    exact ⟨g ++ g', rest, (List.append_assoc _ _ _).symm, hrest⟩

/-- What a call gives has been waiting, and so has what waits behind it. -/
lemma pop_carves (p : List UInt8) (room : ℕ) :
    ∃ g, p = g ++ ((pop p room).2.getD [] ++ (pop p room).1) ∧
      ∀ f ∈ (pop p room).2, (decodeRequest f).isSome := by
  obtain ⟨g, hg⟩ := exists_eq_append_skip p
  rcases pop_cases p room with ⟨hp, -⟩ | ⟨hp, h4⟩ | ⟨hp, -⟩ | ⟨n, hp, -, -, -, hdec⟩ <;> rw [hp]
  · exact ⟨g, hg, by simp⟩
  · obtain ⟨b, q, hq⟩ := List.exists_cons_of_length_pos (l := skip p) (by omega)
    refine ⟨g ++ [b], ?_, by simp⟩
    rw [hq] at hg ⊢
    simpa using hg
  · exact ⟨g, hg, by simp⟩
  · refine ⟨g, ?_, fun f hf => ?_⟩
    · change p = g ++ ((skip p).take n ++ (skip p).drop n)
      rw [List.take_append_drop]
      exact hg
    · rw [← Option.mem_some.mp hf]
      exact hdec

namespace FrameAssembler

variable {a : FrameAssembler} (calls : List Call)

def frames : List (List UInt8) := outputs step popped new calls

def intake : List UInt8 := (outputs step taken new calls).flatten

/-- The bytes that arrive on the line during a run. -/
def input : List UInt8 := (calls.filterMap fed).flatten

/-- There is room for the bytes of the call. -/
def HasRoom (a : FrameAssembler) (c : Call) : Prop := ∀ data ∈ fed c, data.length ≤ capacity - a.len

/-- **Frames are parts of what was taken in**, from any state on. -/
lemma carved_outputs (h : a.Ok) (calls : List Call) :
    Carved (outputs step popped a calls) (a.pending ++ (outputs step taken a calls).flatten) ∧
      ∀ f ∈ outputs step popped a calls, (decodeRequest f).isSome := by
  induction calls generalizing a with
  | nil => exact ⟨trivial, by simp⟩
  | cons c calls ih =>
    obtain ⟨hcarved, hdec⟩ := ih (ok_step h c)
    rw [outputs_cons, outputs_cons]
    cases c with
    | feed data =>
      obtain ⟨-, hpend⟩ := h.feed data
      refine ⟨?_, hdec⟩
      rw [step, hpend, fill, h.length_pending, List.append_assoc] at hcarved
      exact hcarved
    | tryPop out =>
      obtain ⟨-, hpend, -, hframe⟩ := h.tryPop out
      obtain ⟨g, hg, hacc⟩ := pop_carves a.pending out.length
      rw [step, hpend] at hcarved
      rw [popped, hframe, taken, Option.toList_none, List.nil_append]
      generalize pop a.pending out.length = r at hg hacc hcarved ⊢
      obtain ⟨q, _ | f⟩ := r
      · refine ⟨?_, hdec⟩
        rw [hg, List.append_assoc]
        exact hcarved.append_left g
      · refine ⟨⟨g, _, ?_, hcarved⟩, fun e he => ?_⟩
        · rw [hg, Option.getD_some, List.append_assoc, List.append_assoc]
          rfl
        · rcases List.mem_cons.mp he with rfl | he
          · exact hacc e rfl
          · exact hdec e he

/-- With room for every chunk, what is taken in is what arrived. -/
lemma taken_of_room {calls : List Call} (h : Along step HasRoom a calls) :
    (outputs step taken a calls).flatten = (calls.filterMap fed).flatten := by
  induction calls generalizing a with
  | nil => rfl
  | cons c calls ih =>
    have hrest := ih h.2
    rw [outputs_cons]
    cases c with
    | feed data =>
      have hroom : data.length ≤ capacity - a.len := h.1 data rfl
      have hfed : (Call.feed data :: calls).filterMap fed = data :: calls.filterMap fed := rfl
      rw [hfed, List.flatten_cons, ← hrest, taken, List.take_of_length_le hroom]
      rfl
    | tryPop out =>
      have hfed : (Call.tryPop out :: calls).filterMap fed = calls.filterMap fed := rfl
      rw [hfed, ← hrest]
      rfl

end FrameAssembler

/-- **Framing does not depend on the cuts.** Frames cut into chunks that have room come out as they
went in. For any bytes and any calls, the frames that come out are accepted, and stand in one piece
and one behind the other in the bytes taken in; these are the bytes of the line as long as every
chunk has room. -/
theorem received_frames :
    (∀ (frames chunks : List (List UInt8)) (out : List UInt8),
        (∀ f ∈ frames, ValidFrame f ∧ f.length ≤ 2048) → (∀ f ∈ frames, f.length ≤ out.length) →
        chunks.flatten = frames.flatten → (Receiver.start out).Fits chunks →
        (Receiver.start out).received chunks = frames) ∧
      ∀ calls : List Call,
        (∀ f ∈ FrameAssembler.frames calls, (decodeRequest f).isSome) ∧
        Carved (FrameAssembler.frames calls) (intake calls) ∧
        (Along step HasRoom new calls → intake calls = input calls) := by
  refine ⟨fun frames chunks out hvalid hroom hstream hfits => ?_, fun calls => ?_⟩
  · have hframes : Receiver.Fitting (Receiver.start out).out.length frames := fun f hf =>
      ⟨(hvalid f hf).1, (hvalid f hf).2, hroom f hf⟩
    exact Receiver.received_of_waits hframes
      (Receiver.waits_start out (fun f hf => (hvalid f hf).1) hstream) hfits
  · obtain ⟨hcarved, hdec⟩ := carved_outputs ok_new calls
    exact ⟨hdec, hcarved, taken_of_room⟩

theorem received_frames_ping :
    ValidFrame [0xAA, 0x55, 3, 0, 0x12, 0x83, 0xD3] ∧
      (Receiver.start (List.replicate 7 0)).received [[0xAA], [0x55, 3, 0, 0x12, 0x83], [0xD3]] =
        [[0xAA, 0x55, 3, 0, 0x12, 0x83, 0xD3]] := by
  have hvalid : ValidFrame [0xAA, 0x55, 3, 0, 0x12, 0x83, 0xD3] := by decide +kernel
  refine ⟨hvalid, received_frames.1 [[0xAA, 0x55, 3, 0, 0x12, 0x83, 0xD3]] _ _ ?_ ?_ rfl ?_⟩
  · intro f hf
    rw [List.mem_singleton.mp hf]
    exact ⟨hvalid, by decide⟩
  · intro f hf
    rw [List.mem_singleton.mp hf]
    decide
  · exact Receiver.fits_of_length_le ok_new (by decide)

/-! ### Bytes that are lost -/

lemma skip_zeros (n : ℕ) (h : 3 ≤ p.length) : skip (List.replicate n 0 ++ p) = skip p := by
  induction n with
  | zero => rfl
  | succ n ih =>
    rw [List.replicate_succ, List.cons_append, skip_eq, if_pos (by simp; omega), if_neg, List.tail_cons,
      ih]
    intro hmagic
    have hlen : (window (0 :: (List.replicate n 0 ++ p)) 0 2).length = 2 :=
      length_window (by simp; omega)
    have hbytes := le16_u16 hlen
    rw [hmagic] at hbytes
    have hhead := congrArg List.head? hbytes
    cases hhead

/-- A part that does not begin with zero does not lie in zeros. -/
lemma infix_of_zeros {n : ℕ} {b : UInt8} (hb : b ≠ 0) (h : b :: f <:+: List.replicate n 0 ++ p) :
    b :: f <:+: p := by
  induction n with
  | zero => exact h
  | succ n ih =>
    rw [List.replicate_succ, List.cons_append, List.infix_cons_iff] at h
    rcases h with h | h
    · exact absurd (List.cons_prefix_cons.mp h).1 hb
    · exact ih h

/-- A chunk of 2049 bytes whose end is the beginning of a frame and one byte more, and the end of
the frame. -/
def overflowing : List Call :=
  [.feed (List.replicate 2045 0 ++ [0, 0xAA, 0x55, 0xFF]), .tryPop (List.replicate 7 0),
    .feed [3, 0, 0x12, 0x83, 0xD3], .tryPop (List.replicate 7 0)]

lemma fill_overflowing : fill [] (List.replicate 2045 0 ++ [0, 0xAA, 0x55, 0xFF]) =
    List.replicate 2045 0 ++ [0, 0xAA, 0x55] := by
  rw [fill, List.nil_append, List.take_append, List.length_replicate,
    List.take_of_length_le (by rw [List.length_replicate]; decide)]
  rfl

lemma pop_overflowing (room : ℕ) :
    pop (List.replicate 2045 0 ++ [0, 0xAA, 0x55]) room = ([0, 0xAA, 0x55], none) := by
  rw [pop, skip_zeros 2045 (by decide)]
  rfl

lemma input_overflowing : input overflowing =
    List.replicate 2045 0 ++ [0, 0xAA, 0x55, 0xFF, 3, 0, 0x12, 0x83, 0xD3] := by
  have hfed : overflowing.filterMap fed =
      [List.replicate 2045 0 ++ [0, 0xAA, 0x55, 0xFF], [3, 0, 0x12, 0x83, 0xD3]] := rfl
  rw [input, hfed, List.flatten_cons, List.append_assoc]
  rfl

lemma frames_of_pending {a : FrameAssembler} (hok : a.Ok)
    (hwait : a.pending = List.replicate 2045 0 ++ [0, 0xAA, 0x55]) :
    outputs step popped a [.tryPop (List.replicate 7 0), .feed [3, 0, 0x12, 0x83, 0xD3],
        .tryPop (List.replicate 7 0)] = [[0xAA, 0x55, 3, 0, 0x12, 0x83, 0xD3]] := by
  -- the search leaves three bytes, and the next chunk completes the frame
  obtain ⟨hok₂, hwait₂, -, hnone⟩ := hok.tryPop (List.replicate 7 0)
  rw [hwait, pop_overflowing] at hwait₂ hnone
  obtain ⟨hok₃, hwait₃⟩ := hok₂.feed [3, 0, 0x12, 0x83, 0xD3]
  obtain ⟨-, -, -, hsome⟩ := hok₃.tryPop (List.replicate 7 0)
  rw [hwait₃, hwait₂] at hsome
  have hpop : (pop [0, 0xAA, 0x55, 3, 0, 0x12, 0x83, 0xD3] 7).2 =
      some [0xAA, 0x55, 3, 0, 0x12, 0x83, 0xD3] := by decide +kernel
  simp only [outputs_cons, outputs_nil, step, popped]
  rw [hnone, hsome]
  exact congrArg Option.toList hpop

/-- A frame comes out that never stood on the line. -/
theorem frames_overflowing :
    FrameAssembler.frames overflowing = [[0xAA, 0x55, 3, 0, 0x12, 0x83, 0xD3]] ∧
      ¬ [0xAA, 0x55, 3, 0, 0x12, 0x83, 0xD3] <:+: input overflowing := by
  constructor
  · obtain ⟨hok, hwait⟩ := ok_new.feed (List.replicate 2045 0 ++ [0, 0xAA, 0x55, 0xFF])
    rw [pending_new, fill_overflowing] at hwait
    rw [FrameAssembler.frames, overflowing, outputs_cons, popped, Option.toList_none, List.nil_append,
      step]
    exact frames_of_pending hok hwait
  · intro h
    rw [input_overflowing] at h
    exact absurd (infix_of_zeros (by decide) h) (by decide)

end Pipoco.Ts
