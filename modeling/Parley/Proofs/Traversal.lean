import Parley.Proofs.RoundTrip

namespace Parley.Envelope

/-- Bytes that start with slices in which these batches are read, each slice in full. -/
inductive Sliced : Bytes → List (List Message) → List Bytes → Prop
  | nil (rest : Bytes) : Sliced rest [] []
  | cons {ms : List Message} {slice rest : Bytes} {batches : List (List Message)}
      {slices : List Bytes} (filled : slice ≠ [])
      (read : parse (slice ++ rest) = .ok ⟨ms, slice.length⟩) (tail : Sliced rest batches slices) :
      Sliced (slice ++ rest) (ms :: batches) (slice :: slices)

namespace Sliced

variable {input : Bytes} {batches : List (List Message)} {slices : List Bytes}

theorem length_eq (h : Sliced input batches slices) : batches.length = slices.length := by
  induction h with
  | nil => rfl
  | cons _ _ _ ih => rw [List.length_cons, List.length_cons, ih]

theorem leads (h : Sliced input batches slices) : slices.flatten <+: input := by
  induction h with
  | nil => exact List.nil_prefix
  | cons _ _ _ ih =>
    rw [List.flatten_cons]
    exact (List.prefix_append_right_inj _).mpr ih

theorem length_le (h : Sliced input batches slices) : batches.length ≤ input.length := by
  induction h with
  | nil => exact Nat.zero_le _
  | cons filled _ _ ih =>
    have := List.length_pos_iff.mpr filled
    rw [List.length_cons, List.length_append]
    omega

end Sliced

namespace Walk

/-- What a walk yields: batches, and the error that ends it, if one does. -/
def items (batches : List (List Message)) (fault : Option ParseError) :
    List (Except ParseError (List Message)) :=
  batches.map .ok ++ fault.toList.map .error

theorem after_next (k : Nat) (w : Walk) : w.after (k + 1) = w.next.2.after k := rfl

theorem after_rest {w : Walk} (h : w.next = (none, w)) (k : Nat) : w.after k = w := by
  induction k with
  | zero => rfl
  | succ k ih => rw [after_next, h, ih]

/-- What becomes of a walk from here on. -/
structure Traverses (w : Walk) (batches : List (List Message)) (slices : List Bytes)
    (fault : Option ParseError) : Prop where
  sliced : Sliced (w.input.drop w.offset) batches slices
  yields : ∀ k, (w.after k).next.1 = (items batches fault)[k]?
  offset : ∀ k, (w.after k).offset = w.offset + (slices.take k).flatten.length
  complete : fault = none → w.offset + slices.flatten.length = w.input.length
  located : ∀ e, fault = some e → ∃ e',
    parse (w.input.drop (w.offset + slices.flatten.length)) = .error e' ∧
      e = { e' with consumed := w.offset + slices.flatten.length + e'.consumed }

namespace Traverses

variable {w : Walk} {batches : List (List Message)} {slices : List Bytes}
  {fault : Option ParseError}

theorem rest (h : w.offset = w.input.length) : w.Traverses [] [] none := by
  have stays := next_end h
  constructor
  case sliced => exact .nil _
  case yields =>
    intro k
    rw [after_rest stays, stays]
    rfl
  case offset =>
    intro k
    rw [after_rest stays]
    simp
  case complete =>
    intro _
    exact h
  case located =>
    intro e he
    cases he

/-- An error does not move the walk, and nothing comes behind it. -/
theorem fail {e : ParseError} (hf : w.failed = false) (hw : w.offset < w.input.length)
    (h : parse (w.input.drop w.offset) = .error e) :
    w.Traverses [] [] (some { e with consumed := e.consumed + w.offset }) := by
  have step : w.next = (some (.error { e with consumed := e.consumed + w.offset }),
      { w with failed := true }) := by
    simp [next, hf, hw, h]
  have stays : next { w with failed := true } = (none, { w with failed := true }) := by
    simp [next]
  constructor
  case sliced => exact .nil _
  case yields =>
    intro k
    cases k with
    | zero => simp [after, step, items]
    | succ k =>
      rw [after_next, step, after_rest stays, stays]
      simp [items]
  case offset =>
    intro k
    cases k with
    | zero => rfl
    | succ k =>
      rw [after_next, step, after_rest stays]
      simp
  case complete =>
    intro he
    cases he
  case located =>
    intro e' he
    cases he
    exact ⟨e, h, by simp [Nat.add_comm]⟩

theorem step {ms : List Message} {b rest : Bytes} (spelled : Spelled ms b)
    (hf : w.failed = false) (hi : w.input.drop w.offset = b ++ rest)
    (h : Traverses { w with offset := w.offset + b.length } batches slices fault) :
    w.Traverses (ms :: batches) (b :: slices) fault := by
  have step := next_spelled spelled hf hi
  obtain ⟨sliced, yields, offset, complete, located⟩ := h
  dsimp only at sliced offset complete located
  rw [← List.drop_drop, hi, List.drop_left] at sliced
  constructor
  case sliced =>
    rw [hi]
    exact .cons spelled.ne_nil (parse_complete spelled rest) sliced
  case yields =>
    intro k
    cases k with
    | zero => simp [after, step, items]
    | succ k =>
      rw [after_next, step, yields]
      simp [items]
  case offset =>
    intro k
    cases k with
    | zero => rfl
    | succ k =>
      rw [after_next, step, offset, List.take_succ_cons, List.flatten_cons, List.length_append,
        Nat.add_assoc]
  case complete =>
    rwa [List.flatten_cons, List.length_append, ← Nat.add_assoc]
  case located =>
    rwa [List.flatten_cons, List.length_append, ← Nat.add_assoc]

end Traverses

/-- Every walk comes to an end: each envelope leaves less ahead than was there before it. -/
theorem exists_traverses (w : Walk) (hf : w.failed = false) (hw : w.offset ≤ w.input.length) :
    ∃ batches slices fault, w.Traverses batches slices fault := by
  induction hn : w.input.length - w.offset using Nat.strong_induction_on generalizing w with
  | h n ih =>
    rcases Nat.eq_or_lt_of_le hw with atEnd | more
    · exact ⟨[], [], none, .rest atEnd⟩
    · cases hp : parse (w.input.drop w.offset) with
      | error e => exact ⟨[], [], _, .fail hf more hp⟩
      | ok p =>
        have read : parse (w.input.drop w.offset) = .ok ⟨p.messages, p.consumed⟩ := hp
        obtain ⟨b, rest, spelled, hi, -⟩ := parse_sound read
        have filled := List.length_pos_iff.mpr spelled.ne_nil
        have within : w.offset + b.length ≤ w.input.length := by
          have := congrArg List.length hi
          rw [List.length_drop, List.length_append] at this
          omega
        obtain ⟨batches, slices, fault, further⟩ :=
          ih (w.input.length - (w.offset + b.length)) (by omega)
            { w with offset := w.offset + b.length } hf within rfl
        exact ⟨_, _, fault, .step spelled hf hi further⟩

/-- Enough fuel takes a walk through all that it yields. -/
theorem steps_eq_items {items : List (Except ParseError (List Message))} {w : Walk}
    (h : ∀ k, (w.after k).next.1 = items[k]?) {fuel : Nat} (hfuel : items.length ≤ fuel) :
    (steps fuel w).map (·.1) = items := by
  induction items generalizing w fuel with
  | nil =>
    have ended : w.next.1 = none := h 0
    rw [steps_ended ended]
    rfl
  | cons item items ih =>
    obtain ⟨fuel, rfl⟩ := Nat.exists_eq_add_one_of_ne_zero (Nat.ne_of_gt (Nat.zero_lt_of_lt hfuel))
    have first : w.next.1 = some item := h 0
    have further := ih (w := w.next.2) (fun k => h (k + 1)) (Nat.le_of_succ_le_succ hfuel)
    rw [steps_next first, List.map_cons, further]

/-- A walk over any input ends. It yields the batches of the envelopes at the front, which stand one
behind the other and each of which is what is read where the one before it ends. If they are not all
of the input, it yields the error of what stands behind them, located in the whole input, and does
not move. From then on it yields nothing and stays where it is. -/
theorem walk_traverses (input : Bytes) :
    ∃ batches slices fault,
      let walk := (start input).after
      let stop := (items batches fault).length
      (∀ k, (walk k).next.1 = (items batches fault)[k]?) ∧
        (∀ k, stop ≤ k → (walk k).next.1 = none ∧ (walk k).offset = (walk stop).offset) ∧
        (all input).map (·.1) = items batches fault ∧
        Sliced input batches slices ∧
        (∀ k, (walk k).offset = (slices.take k).flatten.length) ∧
        input.take (walk stop).offset = slices.flatten ∧
        match fault with
        | none => (walk stop).offset = input.length
        | some e => ∃ e', parse (input.drop (walk stop).offset) = .error e' ∧ e.cause = e'.cause ∧
            e.messages = e'.messages ∧ e.consumed = (walk stop).offset + e'.consumed := by
  obtain ⟨batches, slices, fault, sliced, yields, offset, complete, located⟩ :=
    exists_traverses (start input) rfl (Nat.zero_le _)
  change Sliced input batches slices at sliced
  change ∀ k, ((start input).after k).offset = 0 + _ at offset
  change fault = none → 0 + _ = input.length at complete
  change ∀ e, fault = some e → ∃ e', parse (input.drop (0 + _)) = .error e' ∧ _ at located
  simp only [Nat.zero_add] at offset complete located
  have size : (items batches fault).length = slices.length + fault.toList.length := by
    rw [items, List.length_append, List.length_map, List.length_map, sliced.length_eq]
  have past {k : Nat} (hk : (items batches fault).length ≤ k) :
      ((start input).after k).offset = slices.flatten.length := by
    rw [offset, List.take_of_length_le (by omega)]
  have stop := past (Nat.le_refl _)
  have enough : (items batches fault).length ≤ input.length + 1 := by
    have short := sliced.length_le
    have same := sliced.length_eq
    have single : fault.toList.length ≤ 1 := by cases fault <;> simp
    omega
  have whole := steps_eq_items yields enough
  refine ⟨batches, slices, fault, yields, ?_, whole, sliced, offset, ?_, ?_⟩
  · intro k hk
    constructor
    · rw [yields, List.getElem?_eq_none hk]
    · rw [past hk, stop]
  · rw [stop]
    exact (List.prefix_iff_eq_take.mp sliced.leads).symm
  · rw [stop]
    cases fault with
    | none => exact complete rfl
    | some e =>
      obtain ⟨e', he', rfl⟩ := located e rfl
      exact ⟨e', he', rfl, rfl, congrArg (· + _) (Nat.zero_add _)⟩

/-- What stands behind a malformed envelope is not come to. -/
example : (all (Bytes.ofString "inv:1:message:3:Ann:oneinv:0:inv:1:message:1:Ann:x")).map (·.1) =
    [.ok [⟨"one", "Ann"⟩], .error ⟨.countZero, 23, []⟩] := by
  decide +kernel

end Walk

end Parley.Envelope
