import Parley.Proofs.RoundTrip

namespace Parley.Envelope

namespace Walk

/-- The batches among the items of a walk. -/
def batches (items : List (Except ParseError (List Message) × Walk)) : List (List Message) :=
  items.filterMap fun (item, _) => item.toOption

/-- How far a walk has come after some items. -/
def reach (w : Walk) (items : List (Except ParseError (List Message) × Walk)) : Nat :=
  (items.getLast?.map (·.2.offset)).getD w.offset

theorem reach_cons (w w' : Walk) (item : Except ParseError (List Message))
    (items : List (Except ParseError (List Message) × Walk)) :
    w.reach ((item, w') :: items) = w'.reach items := by
  cases items <;> simp [reach, List.getLast?_cons]

theorem steps_failed {w : Walk} (h : w.failed = true) (fuel : Nat) : steps fuel w = [] := by
  have ended : w.next.1 = none := by simp [next, h]
  exact steps_ended ended fuel

/-- However many steps a walk takes, its batches are envelopes that stand one behind the other. -/
theorem steps_sound (fuel : Nat) (w : Walk) :
    ∃ envelopes rest, List.Forall₂ Spelled (batches (steps fuel w)) envelopes ∧
      w.input.drop w.offset = envelopes.flatten ++ rest ∧
      w.reach (steps fuel w) = w.offset + envelopes.flatten.length := by
  induction fuel generalizing w with
  | zero => exact ⟨[], _, .nil, rfl, rfl⟩
  | succ fuel ih =>
    unfold steps
    split
    · rename_i item w' hn
      unfold next at hn
      split at hn
      · cases hn
      split at hn
      · rename_i p hp
        cases hn
        obtain ⟨b, rest, spelled, hb, hc⟩ := parse_sound hp
        obtain ⟨envelopes, rest', all, tail, reached⟩ :=
          ih { w with offset := w.offset + p.consumed }
        rw [reach_cons, reached]
        dsimp only at tail
        rw [← List.drop_drop, hb, hc, List.drop_left] at tail
        refine ⟨b :: envelopes, rest', .cons spelled all, ?_, ?_⟩
        · rw [hb, tail, List.flatten_cons, List.append_assoc]
        · rw [List.flatten_cons, List.length_append, hc, Nat.add_assoc]
      · cases hn
        rw [steps_failed rfl]
        exact ⟨[], _, .nil, rfl, rfl⟩
    · exact ⟨[], _, .nil, rfl, rfl⟩

theorem le_reach (fuel : Nat) (w : Walk) : w.offset ≤ w.reach (steps fuel w) := by
  obtain ⟨envelopes, rest, -, -, reached⟩ := steps_sound fuel w
  exact reached ▸ Nat.le_add_right _ _

/-- No envelope at the front of what lies ahead is left out. -/
theorem steps_reach {bs : List (List Message)} {envelopes : List Bytes} {rest : Bytes}
    (h : List.Forall₂ Spelled bs envelopes) {w : Walk} (hf : w.failed = false)
    (hi : w.input.drop w.offset = envelopes.flatten ++ rest) {fuel : Nat}
    (hfuel : bs.length ≤ fuel) :
    w.offset + envelopes.flatten.length ≤ w.reach (steps fuel w) := by
  induction h generalizing w fuel with
  | nil => exact w.le_reach fuel
  | @cons ms b bs envelopes spelled _ ih =>
    obtain ⟨fuel, rfl⟩ := Nat.exists_eq_succ_of_ne_zero (Nat.ne_of_gt (Nat.zero_lt_of_lt hfuel))
    rw [List.flatten_cons, List.append_assoc] at hi
    have further := ih (w := { w with offset := w.offset + b.length }) hf
      (by rw [← List.drop_drop, hi, List.drop_left]) (Nat.le_of_succ_le_succ hfuel)
    simp only [steps, next_spelled spelled hf hi]
    rwa [reach_cons, List.flatten_cons, List.length_append, ← Nat.add_assoc]

/-- A walk over envelopes yields each, and ends with the last. -/
theorem steps_envelopes {bs : List (List Message)} {envelopes : List Bytes}
    (h : List.Forall₂ Spelled bs envelopes) {w : Walk} (hf : w.failed = false)
    (hi : w.input.drop w.offset = envelopes.flatten) {fuel : Nat} (hfuel : bs.length < fuel) :
    (steps fuel w).map (·.1) = bs.map .ok ∧
      w.reach (steps fuel w) = w.offset + envelopes.flatten.length := by
  induction h generalizing w fuel with
  | nil =>
    obtain ⟨fuel, rfl⟩ := Nat.exists_eq_succ_of_ne_zero (Nat.ne_of_gt hfuel)
    simp [steps, next_over hi, reach]
  | @cons ms b bs envelopes spelled _ ih =>
    obtain ⟨fuel, rfl⟩ := Nat.exists_eq_succ_of_ne_zero (Nat.ne_of_gt (Nat.zero_lt_of_lt hfuel))
    have step := next_spelled spelled hf (hi.trans List.flatten_cons)
    obtain ⟨items, reached⟩ := ih (w := { w with offset := w.offset + b.length }) hf
      (by rw [← List.drop_drop, hi, List.flatten_cons, List.drop_left])
      (Nat.lt_of_succ_lt_succ hfuel)
    simp only [steps, step]
    refine ⟨by rw [List.map_cons, List.map_cons, items], ?_⟩
    rw [reach_cons, reached, List.flatten_cons, List.length_append, Nat.add_assoc]

end Walk

/-- The batches read of a buffer are the envelopes at its front, up to the offset. -/
theorem readAll_sound (input : Bytes) :
    ∃ envelopes, List.Forall₂ Spelled (readAll input).batches envelopes ∧
      input.take (readAll input).offset = envelopes.flatten := by
  obtain ⟨envelopes, rest, spelled, front, reached⟩ :=
    Walk.steps_sound (input.length + 1) (Walk.start input)
  refine ⟨envelopes, spelled, ?_⟩
  have offset : (readAll input).offset = envelopes.flatten.length :=
    reached.trans (Nat.zero_add _)
  rw [offset, show input = envelopes.flatten ++ rest from front, List.take_left]

theorem length_le_flatten {bs : List (List Message)} {envelopes : List Bytes}
    (h : List.Forall₂ Spelled bs envelopes) : bs.length ≤ envelopes.flatten.length := by
  induction h with
  | nil => exact Nat.le_refl 0
  | cons spelled _ ih =>
    have := List.length_pos_iff.mpr spelled.ne_nil
    simp only [List.length_cons, List.flatten_cons, List.length_append]
    omega

/-- The whole walk over envelopes meets no error. -/
theorem Walk.all_envelopes {bs : List (List Message)} {envelopes : List Bytes}
    (h : List.Forall₂ Spelled bs envelopes) :
    (all envelopes.flatten).map (·.1) = bs.map .ok ∧
      (start envelopes.flatten).reach (all envelopes.flatten) = 0 + envelopes.flatten.length :=
  steps_envelopes h (w := start envelopes.flatten) rfl rfl
    (Nat.lt_succ_of_le (length_le_flatten h))

/-- A buffer that holds envelopes and nothing else is read in full. -/
theorem readAll_envelopes {bs : List (List Message)} {envelopes : List Bytes}
    (h : List.Forall₂ Spelled bs envelopes) :
    readAll envelopes.flatten = ⟨bs, envelopes.flatten.length, none⟩ := by
  obtain ⟨items, reached⟩ := Walk.all_envelopes h
  have batches : (readAll envelopes.flatten).batches = bs := by
    have split : (readAll envelopes.flatten).batches =
        ((Walk.all envelopes.flatten).map (·.1)).filterMap (·.toOption) := by
      rw [List.filterMap_map]
      rfl
    rw [split, items, List.filterMap_map]
    exact List.filterMap_some
  have error : (readAll envelopes.flatten).error = none := by
    refine List.findSome?_eq_none_iff.mpr fun (item, w) hm => ?_
    have : item ∈ bs.map .ok := items ▸ List.mem_map.mpr ⟨_, hm, rfl⟩
    obtain ⟨ms, -, rfl⟩ := List.mem_map.mp this
    rfl
  have offset : (readAll envelopes.flatten).offset = envelopes.flatten.length :=
    reached.trans (Nat.zero_add _)
  rw [← batches, ← error, ← offset]

/-- What is left of a buffer without its malformed end is read as the buffer was, in full. -/
theorem readAll_take (input : Bytes) :
    readAll (input.take (readAll input).offset) =
      ⟨(readAll input).batches, (input.take (readAll input).offset).length, none⟩ := by
  obtain ⟨envelopes, spelled, front⟩ := readAll_sound input
  rw [front]
  exact readAll_envelopes spelled

/-- The front of a buffer, as far as envelopes reach that hold these batches. -/
structure Front (input : Bytes) (batches : List (List Message)) (front : Bytes) : Prop where
  leads : front <+: input
  whole : ∃ envelopes, List.Forall₂ Spelled batches envelopes ∧ envelopes.flatten = front
  longest : ∀ batches' envelopes, List.Forall₂ Spelled batches' envelopes →
    envelopes.flatten <+: input → envelopes.flatten <+: front

theorem readAll_front (input : Bytes) :
    Front input (readAll input).batches (input.take (readAll input).offset) := by
  obtain ⟨envelopes, spelled, front⟩ := readAll_sound input
  refine ⟨List.take_prefix _ _, ⟨envelopes, spelled, front.symm⟩, ?_⟩
  rintro batches' envelopes' spelled' ⟨rest, split⟩
  have size : batches'.length ≤ input.length + 1 := by
    have := length_le_flatten spelled'
    rw [← split, List.length_append]
    omega
  have reached : (Walk.start input).offset + envelopes'.flatten.length ≤ (readAll input).offset :=
    Walk.steps_reach spelled' (w := Walk.start input) rfl split.symm size
  rw [show (Walk.start input).offset = 0 from rfl, Nat.zero_add] at reached
  have shorter := List.prefix_append envelopes'.flatten rest
  rw [split] at shorter
  exact List.prefix_take_iff.mpr ⟨shorter, reached⟩

/-- The front of a buffer is walked over to its end. -/
theorem walk_front {input front : Bytes} {batches : List (List Message)}
    (h : Front input batches front) : (Walk.all front).map (·.1) = batches.map .ok := by
  obtain ⟨envelopes, spelled, rfl⟩ := h.whole
  exact (Walk.all_envelopes spelled).1

theorem readAll_encode {ms : List Message} {b : Bytes} (h : encode ms = .ok b) :
    readAll b = ⟨[ms], b.length, none⟩ := by
  have read := readAll_envelopes (.cons (encode_spelled h) .nil)
  rwa [List.flatten_singleton] at read

/-- Buffers that are read in full are so too when they stand one behind the other. -/
theorem readAll_flatten {buffers : List Bytes}
    (h : ∀ b ∈ buffers, (readAll b).offset = b.length) :
    readAll buffers.flatten =
      ⟨buffers.flatMap fun b => (readAll b).batches, buffers.flatten.length, none⟩ := by
  obtain ⟨envelopes, spelled, whole⟩ : ∃ envelopes,
      List.Forall₂ Spelled (buffers.flatMap fun b => (readAll b).batches) envelopes ∧
        buffers.flatten = envelopes.flatten := by
    induction buffers with
    | nil => exact ⟨[], .nil, rfl⟩
    | cons b buffers ih =>
      obtain ⟨later, spelled, whole⟩ := ih fun b' hb => h b' (List.mem_cons_of_mem b hb)
      obtain ⟨first, spelled', front⟩ := readAll_sound b
      rw [h b List.mem_cons_self, List.take_length] at front
      refine ⟨first ++ later, ?_, ?_⟩
      · rw [List.flatMap_cons]
        exact List.rel_append spelled' spelled
      · rw [List.flatten_cons, List.flatten_append, whole, ← front]
  rw [whole]
  exact readAll_envelopes spelled

end Parley.Envelope
