import Pipoco.CanDelivery

/-!
Reception after lost frames.

A slot is emptied only by frames of its own transfer. A transfer whose last frame is lost therefore
keeps its slot until a frame with the same number and arbitration id happens to arrive, and two of
them leave no slot for any other transfer. Whether a message is returned is decided by the slots at
its start frame.
-/

namespace Pipoco.Can

open KeyedTable CanTransport Transfer

variable {M : Type} {b : CanBuild} {c : MessageCodec M} {t : CanTransport} {x : Transfer c}
  {pos : ℕ}

/-- Once the start frame has been taken, the last of the frames that follow returns the message. -/
lemma getLast?_received_tail (hc : c.Lawful) (hpos : pos < x.bytes.length)
    (hd : Distinct t.reassembly) {slot : Fin rxReassemblySlots}
    (hslot : t.reassembly slot = some (x.key, x.upTo pos)) :
    (t.received c (x.tail b pos)).getLast? = some (some x.msg) := by
  induction pos, hpos using tail_induction b generalizing t with
  | last pos hpos h =>
    have hout := (last_accepted hd hslot hpos).2
    rw [tail_last hpos h, received_cons, hout, bytes, hc x.msg]
    rfl
  | middle pos hpos h hnext ih =>
    have hslot' := middle_accepted hd hslot h
    have hih := ih (distinct_tryReceive c hd (x.middle b pos))
      (by rw [hslot', Function.update_self])
    rw [tail_middle h, received_cons, List.getLast?_cons, hih]
    rfl

lemma received_tail_absent (hpos : pos < x.bytes.length) (hd : Distinct t.reassembly)
    (hk : ∀ r, ¬ Holds t.reassembly x.key r) {o : Option M} (ho : o ∈ t.received c (x.tail b pos)) :
    o = none := by
  induction pos, hpos using tail_induction b generalizing t with
  | last pos hpos h =>
    rw [tail_last hpos h, received_cons, received_nil, List.mem_singleton, tryReceive_last] at ho
    rw [ho, (receiveContinuation_absent hk).2]
  | middle pos hpos h hnext ih =>
    rw [tail_middle h, received_cons, List.mem_cons] at ho
    rcases ho with rfl | ho
    · exact middle_output
    · refine ih (distinct_tryReceive c hd _) (fun r hr => ?_) ho
      rw [Transfer.tryReceive_middle] at hr
      obtain ⟨-, r', hr', -⟩ := of_holds_receiveContinuation hd hr
      exact hk r' hr'

lemma getLast?_received_frames (hc : c.Lawful) (hlong : x.Long b) (hd : Distinct t.reassembly) :
    (t.received c (x.frames b)).getLast? = some (some x.msg) ↔
      find t.reassembly x.key = none ∧ free t.reassembly ≠ none := by
  have hpos := start_lt hlong
  have hd' := distinct_tryReceive c hd (x.start b)
  rw [frames_of_long hlong, received_cons]
  constructor
  · intro hlast
    by_contra hcond
    have hblocked : (∃ r, Holds t.reassembly x.key r) ∨ free t.reassembly = none := by
      by_contra hne
      obtain ⟨hk, hfree⟩ := not_or.mp hne
      exact hcond ⟨find_eq_none_iff.mpr (not_exists.mp hk), hfree⟩
    have hk := start_blocked hlong hd hblocked
    rcases List.mem_cons.mp (List.mem_of_getLast? hlast) with hstart | htail
    · rw [start_output hlong] at hstart
      cases hstart
    · cases received_tail_absent hpos hd' hk htail
  · rintro ⟨hk, hfree⟩
    obtain ⟨slot, hslot⟩ := Option.ne_none_iff_exists'.mp hfree
    have hput := start_accepted hlong (find_eq_none_iff.mp hk) hslot
    have hheld : (t.tryReceive c (x.start b)).1.reassembly slot =
        some (x.key, x.upTo (b.maxCanData - 5)) := by
      rw [hput, Function.update_self]
    rw [List.getLast?_cons, getLast?_received_tail hc hpos hd' hheld]
    rfl

/-- **Slots stay full.** When both slots are taken, frames of other transfers change neither. -/
theorem reassembly_after_of_full (hfull : free t.reassembly = none) {fs : List Frame}
    (hk : ∀ f ∈ fs, ∀ r, ¬ Holds t.reassembly f.key r) :
    (t.after c fs).reassembly = t.reassembly := by
  induction fs generalizing t with
  | nil => rfl
  | cons f fs ih =>
    have hsame : (t.tryReceive c f).1.reassembly = t.reassembly :=
      (touches_tryReceive c t f).eq_of_full hfull (hk f List.mem_cons_self)
    rw [after_cons, ih, hsame]
    · rw [hsame, hfull]
    · intro g hg
      rw [hsame]
      exact hk g (List.mem_cons_of_mem _ hg)

/-- **Reception after losses.** After any frames, a message of several frames that all arrive in
order and without others in between is returned at its last frame exactly when, before its start
frame, no slot has its number and arbitration id and some slot is free. -/
theorem returned_after_losses_iff (b : CanBuild) (c : MessageCodec M) (hc : c.Lawful)
    (earlier : List Frame) (s : CanTransport) (m : M) (hfits : (c.encode m).length ≤ reasmBuf)
    (hlong : b.maxCanData - 1 < (c.encode m).length) :
    ((new.after c earlier).received c
        (s.send b c (fun _ => none) m).2.1).getLast? = some (some m) ↔
      find (new.after c earlier).reassembly ⟨s.txTid &&& 0x3f, c.route m⟩ = none ∧
        free (new.after c earlier).reassembly ≠ none := by
  have hd : Distinct (new.after c earlier).reassembly := distinct_after c distinct_empty earlier
  rw [send_healthy hfits]
  exact getLast?_received_frames (x := next s m hfits) hc hlong hd

/-- The start frames of two messages; all others are lost. -/
def abandoned : List Frame :=
  (transmit .classic byteCodec .new (healthy [List.replicate 9 1, List.replicate 9 2])).map Prod.fst
    |>.filter fun f => f.data.headD 0 >>> 6 = 1

/-- A message after one lost transfer is still returned. -/
theorem returned_after_losses_oneSlot :
    ((new.after byteCodec (abandoned.take 1)).received byteCodec
        (({ new with txTid := 2 } : CanTransport).send .classic byteCodec
          (fun _ => none) (List.replicate 9 3)).2.1).getLast? = some (some (List.replicate 9 3)) :=
  (returned_after_losses_iff .classic byteCodec (fun _ => rfl) _ _ _ (by decide) (by decide)).mpr
    (by decide +kernel)

/-- After two of them no message of a third transfer is returned, and no slot becomes free as long
as frames of these two transfers do not arrive. -/
theorem two_lost_ends_block_reception :
    (new.after byteCodec abandoned).received byteCodec
        (({ new with txTid := 2 } : CanTransport).send .classic byteCodec
          (fun _ => none) (List.replicate 9 3)).2.1 = [none, none] ∧
      ∀ later : List Frame, (∀ f ∈ later, f.key ≠ ⟨0, 0x109⟩ ∧ f.key ≠ ⟨1, 0x109⟩) →
        free ((new.after byteCodec abandoned).after byteCodec later).reassembly = none := by
  have hfull : free (new.after byteCodec abandoned).reassembly = none := by
    decide +kernel
  have hkeys : ∀ i, ((new.after byteCodec abandoned).reassembly i).map Prod.fst =
      some ⟨0, 0x109⟩ ∨ ((new.after byteCodec abandoned).reassembly i).map Prod.fst =
      some ⟨1, 0x109⟩ := by
    decide +kernel
  refine ⟨by decide +kernel, fun later hlater => ?_⟩
  rw [reassembly_after_of_full hfull, hfull]
  rintro f hf r ⟨i, hi⟩
  obtain ⟨h0, h1⟩ := hlater f hf
  have hi' := hkeys i
  rw [hi] at hi'
  simp [h0, h1] at hi'

end Pipoco.Can
