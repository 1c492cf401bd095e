import Pipoco.Runs
import Pipoco.TsProto

/-!
The frame assembler of the serial link.

Received bytes are appended to a buffer of fixed size, and a frame is taken from its front by
moving the rest of the buffer down in place. What the assembler does depends on the bytes it holds
only: `pending` reads them off the buffer, and on them both calls are functions on lists, `fill`
and `pop`. The statements about whole runs are proved there.
-/

namespace Pipoco.Ts

open Bytes Runs

structure FrameAssembler where
  buf : List UInt8
  len : ℕ
  deriving DecidableEq, Repr

namespace FrameAssembler

variable (a : FrameAssembler)

def capacity : ℕ := 2048

def new : FrameAssembler := ⟨List.replicate capacity 0, 0⟩

def feed (data : List UInt8) : FrameAssembler :=
  let take := min data.length (a.buf.length - a.len)
  if 0 < take then ⟨put a.buf a.len (data.take take), a.len + take⟩ else a

/-- The first `count` bytes overwritten, one after the other, by those that lie `off` further. -/
def moveDown (buf : List UInt8) (off count : ℕ) : List UInt8 :=
  (List.range count).foldl (fun buf j => buf.set j (byteAt buf (off + j))) buf

def discard (n : ℕ) : FrameAssembler := ⟨moveDown a.buf n (a.len - n), a.len - n⟩

/-- The search for the magic, from position `i` on. It gives up when fewer than four bytes are
left; the fuel is never used up when it starts with the number of bytes. -/
def findMagic (buf : List UInt8) (len : ℕ) : ℕ → ℕ → ℕ
  | 0, i => i
  | fuel + 1, i =>
    if i + 4 ≤ len then
      if u16 (window buf i 2) = magic then i else findMagic buf len fuel (i + 1)
    else i

/-- The assembler and the output buffer after the call, and the length of the frame. -/
def tryPop (out : List UInt8) : FrameAssembler × List UInt8 × Option ℕ :=
  let i := findMagic a.buf a.len a.len 0
  let a := if 0 < i then a.discard i else a
  if a.len < 4 then (a, out, none)
  else
    let length := frameLen a.buf
    if length < 3 ∨ a.buf.length - 4 < length then (a.discard 1, out, none)
    else
      let total := 4 + length
      if a.len < total then (a, out, none)
      else if out.length < total then (a.discard 1, out, none)
      else
        let out := put out 0 (a.buf.take total)
        if (decodeRequest (out.take total)).isNone then (a.discard 1, out, none)
        else (a.discard total, out, some total)

/-! ### Moving down in place -/

section MoveDown

variable (buf : List UInt8) (off : ℕ) (count : ℕ)

lemma moveDown_succ :
    moveDown buf off (count + 1) =
      (moveDown buf off count).set count (byteAt (moveDown buf off count) (off + count)) := by
  rw [moveDown, List.range_succ, List.foldl_append]
  rfl

@[simp] lemma length_moveDown : (moveDown buf off count).length = buf.length := by
  induction count with
  | zero => rfl
  | succ count ih => rw [moveDown_succ, List.length_set, ih]

/-- A byte is read before it is overwritten: at any time the first bytes are those from `off` on,
and the others are as they were. -/
lemma getElem?_moveDown {count : ℕ} (h : off + count ≤ buf.length) (k : ℕ) :
    (moveDown buf off count)[k]? = if k < count then buf[off + k]? else buf[k]? := by
  induction count generalizing k with
  | zero => rfl
  | succ count ih =>
    have hread : byteAt (moveDown buf off count) (off + count) = byteAt buf (off + count) := by
      rw [byteAt, byteAt, List.getD_eq_getElem?_getD, List.getD_eq_getElem?_getD, ih (by omega),
        if_neg (by omega)]
    have hin : off + count < buf.length := by omega
    rw [moveDown_succ, List.getElem?_set, length_moveDown, ih (by omega), hread]
    rcases Nat.lt_trichotomy k count with hlt | rfl | hgt
    · rw [if_neg (by omega), if_pos hlt, if_pos (by omega)]
    · rw [if_pos rfl, if_pos (by omega), if_pos (by omega), byteAt, List.getD_eq_getElem _ _ hin,
        List.getElem?_eq_getElem hin]
    · rw [if_neg (by omega), if_neg (by omega), if_neg (by omega)]

lemma take_moveDown {count : ℕ} (h : off + count ≤ buf.length) :
    (moveDown buf off count).take count = window buf off count := by
  refine List.ext_getElem? fun k => ?_
  rw [List.getElem?_take, getElem?_window]
  by_cases hk : k < count
  · rw [if_pos hk, if_pos hk, getElem?_moveDown buf off h, if_pos hk]
  · rw [if_neg hk, if_neg hk]

end MoveDown

/-! ### The bytes that wait -/

variable (p : List UInt8)

/-- The buffer has its size and the bytes in use lie inside of it. -/
structure Ok (a : FrameAssembler) : Prop where
  size : a.buf.length = capacity
  len_le : a.len ≤ capacity

/-- The bytes received and not yet given up. -/
def pending : List UInt8 := a.buf.take a.len

variable {a}

lemma Ok.length_pending (h : a.Ok) : a.pending.length = a.len := by
  have := h.size
  have := h.len_le
  rw [pending, List.length_take]
  omega

lemma ok_new : new.Ok := ⟨List.length_replicate, Nat.zero_le _⟩

@[simp] lemma pending_new : new.pending = [] := List.take_zero

lemma Ok.discard (h : a.Ok) (n : ℕ) : (a.discard n).Ok := by
  have := h.len_le
  refine ⟨(length_moveDown _ _ _).trans h.size, ?_⟩
  change a.len - n ≤ capacity
  omega

lemma Ok.pending_discard (h : a.Ok) {n : ℕ} (hn : n ≤ a.len) :
    (a.discard n).pending = a.pending.drop n := by
  have hsize := h.size
  have hle := h.len_le
  have hfit : n + (a.len - n) ≤ a.buf.length := by omega
  rw [pending, pending, List.drop_take]
  exact take_moveDown a.buf n hfit

/-- The bytes that wait after some data has arrived: what does not fit is lost. -/
def fill (data : List UInt8) : List UInt8 := p ++ data.take (capacity - p.length)

lemma take_put_end {l bs : List UInt8} {off : ℕ} (h : off + bs.length ≤ l.length) :
    (put l off bs).take (off + bs.length) = l.take off ++ bs := by
  have hparts : (put l off bs).take (off + bs.length) =
      window (put l off bs) 0 off ++ window (put l off bs) (0 + off) bs.length :=
    window_add (put l off bs) 0 off bs.length
  rw [hparts, Nat.zero_add, window_put_self h, window_put_of_clear (Or.inr (by omega))]
  rfl

lemma Ok.feed (h : a.Ok) (data : List UInt8) :
    (a.feed data).Ok ∧ (a.feed data).pending = fill a.pending data := by
  have hsize := h.size
  rw [fill, h.length_pending]
  simp only [FrameAssembler.feed, hsize]
  have hcut : data.take (min data.length (capacity - a.len)) = data.take (capacity - a.len) := by
    rw [Nat.min_comm, ← List.take_take, List.take_length]
  by_cases htake : 0 < min data.length (capacity - a.len)
  · rw [if_pos htake, hcut]
    have hlen : (data.take (capacity - a.len)).length = min data.length (capacity - a.len) := by
      rw [List.length_take, Nat.min_comm]
    refine ⟨⟨(length_put _ _ _).trans hsize, ?_⟩, ?_⟩
    · change a.len + min data.length (capacity - a.len) ≤ capacity
      omega
    · rw [pending, pending, ← hlen]
      exact take_put_end (by omega)
  · rw [if_neg htake, ← hcut, Nat.eq_zero_of_not_pos htake, List.take_zero, List.append_nil]
    exact ⟨h, rfl⟩

lemma Ok.len_feed (h : a.Ok) (data : List UInt8) :
    (a.feed data).len = a.len + min data.length (capacity - a.len) := by
  obtain ⟨hok, hpending⟩ := h.feed data
  rw [← hok.length_pending, hpending, fill, List.length_append, List.length_take, h.length_pending,
    Nat.min_comm]

/-! ### Popping, on the bytes that wait -/

variable (room : ℕ)

/-- The bytes from the first magic on, or the last three. -/
def skip : List UInt8 → List UInt8
  | [] => []
  | b :: p =>
    if 4 ≤ (b :: p).length then
      if u16 (window (b :: p) 0 2) = magic then b :: p else skip p
    else b :: p

/-- What a call makes of the bytes that wait, with room for `room` bytes in the output buffer: the
bytes that wait afterwards, and the frame. -/
def pop : List UInt8 × Option (List UInt8) :=
  let q := skip p
  let total := 4 + frameLen q
  if q.length < 4 then (q, none)
  else if total < 7 ∨ capacity < total then (q.tail, none)
  else if q.length < total then (q, none)
  else if room < total ∨ (decodeRequest (q.take total)).isNone then (q.tail, none)
  else (q.drop total, some (q.take total))

lemma skip_eq :
    skip p = if 4 ≤ p.length then if u16 (window p 0 2) = magic then p else skip p.tail else p := by
  cases p <;> rfl

lemma frameLen_take {l : List UInt8} {n : ℕ} (h : 4 ≤ n) : frameLen (l.take n) = frameLen l := by
  have hwin : window (window l 0 n) 2 2 = window l (0 + 2) 2 := window_window l (by omega)
  rw [frameLen, frameLen, ← Nat.zero_add 2, ← hwin]
  rfl

lemma drop_findMagic {buf : List UInt8} {len : ℕ} (hlen : len ≤ buf.length) (fuel i : ℕ)
    (hfuel : len ≤ fuel + i) (hi : i ≤ len) :
    findMagic buf len fuel i ≤ len ∧
      (buf.take len).drop (findMagic buf len fuel i) = skip ((buf.take len).drop i) := by
  have hlength : ((buf.take len).drop i).length = len - i := by
    rw [List.length_drop, List.length_take]
    omega
  induction fuel generalizing i with
  | zero =>
    obtain rfl : i = len := by omega
    refine ⟨le_rfl, ?_⟩
    rw [findMagic, skip_eq, hlength, if_neg (by omega)]
  | succ fuel ih =>
    rw [findMagic, skip_eq, hlength]
    by_cases h4 : i + 4 ≤ len
    · have hwin : window ((buf.take len).drop i) 0 2 = window buf i 2 := by
        have hsub : window (window buf 0 len) i 2 = window buf (0 + i) 2 :=
          window_window buf (by omega)
        rw [Nat.zero_add] at hsub
        exact hsub
      have hleft : 4 ≤ len - i := by omega
      rw [if_pos h4, if_pos hleft, hwin]
      by_cases hm : u16 (window buf i 2) = magic
      · rw [if_pos hm, if_pos hm]
        exact ⟨hi, rfl⟩
      · rw [if_neg hm, if_neg hm, List.tail_drop]
        refine ih (i + 1) (by omega) (by omega) ?_
        rw [List.length_drop, List.length_take]
        omega
    · have hleft : ¬ 4 ≤ len - i := by omega
      rw [if_neg h4, if_neg hleft]
      exact ⟨hi, rfl⟩

lemma Ok.afterSearch (h : a.Ok) :
    ∃ b : FrameAssembler, b.Ok ∧ b.pending = skip a.pending ∧
      (if 0 < findMagic a.buf a.len a.len 0 then a.discard (findMagic a.buf a.len a.len 0) else a) =
        b := by
  have hsize := h.size
  have hle := h.len_le
  obtain ⟨hfind, hskip⟩ := drop_findMagic (hle.trans hsize.ge) a.len 0 (by omega) (by omega)
  refine ⟨_, ?_, ?_, rfl⟩
  · split
    · exact h.discard _
    · exact h
  · rw [List.drop_zero] at hskip
    split
    · rw [h.pending_discard hfind]
      exact hskip
    · next hzero =>
      rw [Nat.eq_zero_of_not_pos hzero, List.drop_zero] at hskip
      exact hskip

/-- **The call works on the bytes that wait.** -/
lemma Ok.tryPop (h : a.Ok) (out : List UInt8) :
    (a.tryPop out).1.Ok ∧ (a.tryPop out).1.pending = (pop a.pending out.length).1 ∧
      (a.tryPop out).2.1.length = out.length ∧
      (a.tryPop out).2.2.map (fun n => (a.tryPop out).2.1.take n) = (pop a.pending out.length).2 := by
  obtain ⟨b, hb, hq, hdef⟩ := h.afterSearch
  have hsize := hb.size
  simp only [FrameAssembler.tryPop, hdef, pop, hsize]
  generalize skip a.pending = q at hq ⊢
  have hlen : q.length = b.len := by rw [← hq, hb.length_pending]
  have htail : 0 < b.len → (b.discard 1).pending = q.tail := fun hpos => by
    rw [hb.pending_discard hpos, hq, List.drop_one]
  rw [hlen]
  -- no header yet
  by_cases h4 : b.len < 4
  · rw [if_pos h4, if_pos h4]
    exact ⟨hb, hq, rfl, rfl⟩
  have hfield : frameLen b.buf = frameLen q := by
    rw [← hq, pending, frameLen_take (by omega)]
  rw [if_neg h4, if_neg h4, hfield]
  obtain ⟨total, htotal⟩ : ∃ total, 4 + frameLen q = total := ⟨_, rfl⟩
  have hbad : frameLen q < 3 ∨ capacity - 4 < frameLen q ↔ total < 7 ∨ capacity < total := by omega
  simp only [hbad, htotal]
  -- a length no frame has
  by_cases hbad : total < 7 ∨ capacity < total
  · rw [if_pos hbad, if_pos hbad]
    exact ⟨hb.discard 1, htail (by omega), rfl, rfl⟩
  rw [if_neg hbad, if_neg hbad]
  -- the end is still to come
  by_cases hshort : b.len < total
  · rw [if_pos hshort, if_pos hshort]
    exact ⟨hb, hq, rfl, rfl⟩
  rw [if_neg hshort, if_neg hshort]
  -- a frame the caller has no room for is dropped, not kept
  by_cases hroom : out.length < total
  · rw [if_pos hroom, if_pos (Or.inl hroom)]
    exact ⟨hb.discard 1, htail (by omega), rfl, rfl⟩
  have hcopy : b.buf.take total = q.take total := by
    rw [← hq, pending, List.take_take, Nat.min_eq_left (not_lt.mp hshort)]
  have hframe : (q.take total).length = total := by
    rw [List.length_take, hlen]
    omega
  have hread : (put out 0 (q.take total)).take total = q.take total := by
    have hput := take_put_zero out (q.take total) (by omega)
    rwa [hframe] at hput
  rw [if_neg hroom, hcopy, hread]
  by_cases hdec : (decodeRequest (q.take total)).isNone
  · rw [if_pos hdec, if_pos (Or.inr hdec)]
    exact ⟨hb.discard 1, htail (by omega), length_put _ _ _, rfl⟩
  · rw [if_neg hdec, if_neg (not_or.mpr ⟨hroom, hdec⟩)]
    refine ⟨hb.discard _, ?_, length_put _ _ _, congrArg some hread⟩
    rw [hb.pending_discard (by omega), hq]

/-! ### What a call can do -/

/-- The bytes begin with a frame whose end has not arrived and that fits the buffer. -/
structure Incomplete (p : List UInt8) : Prop where
  header : 4 ≤ p.length
  magic_eq : u16 (window p 0 2) = magic
  three_le : 3 ≤ frameLen p
  fits : 4 + frameLen p ≤ capacity
  missing : p.length < 4 + frameLen p

lemma exists_eq_append_skip : ∃ g, p = g ++ skip p := by
  induction p with
  | nil => exact ⟨[], rfl⟩
  | cons b p ih =>
    obtain ⟨g, hg⟩ := ih
    rw [skip_eq]
    split
    · split
      · exact ⟨[], rfl⟩
      · exact ⟨b :: g, congrArg (b :: ·) hg⟩
    · exact ⟨[], rfl⟩

lemma length_skip_le : (skip p).length ≤ p.length := by
  obtain ⟨g, hg⟩ := exists_eq_append_skip p
  have hlen := congrArg List.length hg
  rw [List.length_append] at hlen
  omega

lemma magic_of_skip (h : 4 ≤ (skip p).length) : u16 (window (skip p) 0 2) = magic := by
  induction p with
  | nil => simp [skip] at h
  | cons b p ih =>
    rw [skip_eq] at h ⊢
    by_cases h4 : 4 ≤ (b :: p).length
    · rw [if_pos h4] at h ⊢
      by_cases hm : u16 (window (b :: p) 0 2) = magic
      · rw [if_pos hm]
        exact hm
      · rw [if_neg hm] at h ⊢
        exact ih h
    · rw [if_neg h4] at h
      exact absurd h h4

/-- The four ways a call can end: too few bytes, a byte given up, a frame to wait for, a frame. -/
lemma pop_cases :
    ((pop p room) = (skip p, none) ∧ (skip p).length < 4) ∨
      ((pop p room) = ((skip p).tail, none) ∧ 4 ≤ (skip p).length) ∨
      ((pop p room) = (skip p, none) ∧ Incomplete (skip p)) ∨
      ∃ n, (pop p room) = ((skip p).drop n, some ((skip p).take n)) ∧ n = 4 + frameLen (skip p) ∧
        7 ≤ n ∧ n ≤ (skip p).length ∧ (decodeRequest ((skip p).take n)).isSome := by
  have hmagic := magic_of_skip p
  simp only [pop]
  generalize skip p = q at hmagic ⊢
  by_cases h4 : q.length < 4
  · rw [if_pos h4]
    exact .inl ⟨rfl, h4⟩
  have hq : 4 ≤ q.length := by omega
  rw [if_neg h4]
  by_cases hbad : 4 + frameLen q < 7 ∨ capacity < 4 + frameLen q
  · rw [if_pos hbad]
    exact .inr (.inl ⟨rfl, hq⟩)
  rw [if_neg hbad]
  by_cases hshort : q.length < 4 + frameLen q
  · rw [if_pos hshort]
    exact .inr (.inr (.inl ⟨rfl, hq, hmagic hq, by omega, by omega, hshort⟩))
  rw [if_neg hshort]
  by_cases hlost : room < 4 + frameLen q ∨ (decodeRequest (q.take (4 + frameLen q))).isNone
  · rw [if_pos hlost]
    exact .inr (.inl ⟨rfl, hq⟩)
  · rw [if_neg hlost]
    refine .inr (.inr (.inr ⟨_, rfl, rfl, by omega, by omega, ?_⟩))
    rw [← Bool.not_eq_false, Option.isSome_eq_false_iff]
    exact fun hnone => hlost (Or.inr hnone)

lemma length_pop_le : (pop p room).1.length ≤ p.length := by
  have hle := length_skip_le p
  rcases pop_cases p room with ⟨h, -⟩ | ⟨h, -⟩ | ⟨h, -⟩ | ⟨n, h, -⟩ <;> rw [h]
  · exact hle
  · rw [List.length_tail]
    omega
  · exact hle
  · rw [List.length_drop]
    omega

/-! ### Runs -/

inductive Call
  | feed (data : List UInt8)
  | tryPop (out : List UInt8)
  deriving DecidableEq, Repr

def step (a : FrameAssembler) : Call → FrameAssembler
  | .feed data => a.feed data
  | .tryPop out => (a.tryPop out).1

lemma ok_step (h : a.Ok) (c : Call) : (a.step c).Ok := by
  cases c with
  | feed data => exact (h.feed data).1
  | tryPop out => exact (h.tryPop out).1

lemma ok_run (calls : List Call) : (run step new calls).Ok :=
  run_inv (I := Ok) (fun _ c h => ok_step h c) ok_new calls

lemma Ok.len_tryPop (h : a.Ok) (out : List UInt8) :
    (a.tryPop out).1.len = (pop a.pending out.length).1.length := by
  obtain ⟨hok, hpending, -⟩ := h.tryPop out
  rw [← hok.length_pending, hpending]

/-- A call frees a full buffer: what a whole buffer begins with is a frame or is given up. -/
lemma Ok.tryPop_full (h : a.Ok) (hfull : a.len = capacity) (out : List UInt8) :
    (a.tryPop out).1.len < capacity := by
  have hcap : capacity = 2048 := rfl
  have hlen := h.length_pending
  have hskip := length_skip_le a.pending
  rw [h.len_tryPop]
  rcases pop_cases a.pending out.length with ⟨hp, hs⟩ | ⟨hp, hs⟩ | ⟨hp, hs⟩ | ⟨n, hp, -, h7, hn, -⟩ <;>
    rw [hp]
  · exact hs.trans (by omega)
  · rw [List.length_tail]
    omega
  · exact hs.missing.trans_le hs.fits
  · rw [List.length_drop]
    omega

lemma Ok.run_tryPop_le (h : a.Ok) (outs : List (List UInt8)) :
    (run step a (outs.map .tryPop)).len ≤ a.len := by
  induction outs generalizing a with
  | nil => exact le_rfl
  | cons out outs ih =>
    refine (ih (ok_step h _)).trans ?_
    change (a.tryPop out).1.len ≤ a.len
    rw [h.len_tryPop, ← h.length_pending]
    exact length_pop_le _ _

lemma len_feed_full {data : List UInt8} (h : capacity ≤ data.length) :
    (run step new [.feed data]).len = capacity := by
  have hlen := ok_new.len_feed data
  have hzero : new.len = 0 := rfl
  rw [run_cons, run_nil, step, hlen]
  omega

/-- **The assembler never wedges.** After every sequence of calls the buffer is in bounds; a call
pops a frame, or shortens the buffer, or leaves too few bytes for a header or a frame to wait for;
and every call on a full buffer shortens it, so that there is room from then on for as long as
frames are popped. -/
theorem tryPop_progress (calls : List Call) (out : List UInt8) :
    (run step new calls).len ≤ 2048 ∧
      (((run step new calls).tryPop out).2.2.isSome ∨
        ((run step new calls).tryPop out).1.len < (run step new calls).len ∨
        ((run step new calls).tryPop out).1.len < 4 ∨
        Incomplete ((run step new calls).tryPop out).1.pending) ∧
      ((run step new calls).len = 2048 →
        ((run step new calls).tryPop out).1.len < (run step new calls).len ∧
        ∀ outs : List (List UInt8),
          (run step (run step new calls) ((out :: outs).map .tryPop)).len < 2048) := by
  have hok := ok_run calls
  generalize run step new calls = a at hok ⊢
  refine ⟨hok.len_le, ?_, fun hfull => ?_⟩
  · obtain ⟨-, hpending, -, hframe⟩ := hok.tryPop out
    have hlen := hok.len_tryPop out
    have hskip := length_skip_le a.pending
    have hold := hok.length_pending
    rcases pop_cases a.pending out.length with ⟨hp, hs⟩ | ⟨hp, hs⟩ | ⟨hp, hs⟩ | ⟨n, hp, -⟩ <;>
      rw [hp] at hlen hpending hframe
    · exact .inr (.inr (.inl (by rw [hlen]; exact hs)))
    · rw [List.length_tail] at hlen
      exact .inr (.inl (by omega))
    · exact .inr (.inr (.inr (by rw [hpending]; exact hs)))
    · left
      rw [← Option.isSome_map, hframe]
      rfl
  · have hshort := hok.tryPop_full hfull out
    refine ⟨hshort.trans_eq hfull.symm, fun outs => ?_⟩
    exact ((ok_step hok (.tryPop out)).run_tryPop_le outs).trans_lt hshort

theorem tryPop_progress_full :
    (run step new [.feed (List.replicate 2048 0)]).len = 2048 ∧
      ((run step new [.feed (List.replicate 2048 0)]).tryPop []).1.len <
        (run step new [.feed (List.replicate 2048 0)]).len := by
  have hfull : (run step new [.feed (List.replicate 2048 0)]).len = 2048 :=
    len_feed_full List.length_replicate.ge
  exact ⟨hfull, ((tryPop_progress _ []).2.2 hfull).1⟩

end FrameAssembler

end Pipoco.Ts
