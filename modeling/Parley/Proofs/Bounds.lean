import Parley.Proofs.Grammar

namespace Parley

namespace Bytes

variable {n : Nat} {stop : UInt8} {b : Bytes}

/-- The first `n` bytes, if there are so many. -/
def first? (n : Nat) (b : Bytes) : Option Bytes :=
  if n ≤ b.length then some (b.take n) else none

/-- What is behind the first `n` bytes, if there are so many. -/
def past? (n : Nat) (b : Bytes) : Option Bytes :=
  if n ≤ b.length then some (b.drop n) else none

def position? (stop : UInt8) (b : Bytes) : Option Nat := b.findIdx? (· == stop)

theorem first?_eq (h : n ≤ b.length) : first? n b = some (b.take n) := if_pos h

theorem past?_eq (h : n ≤ b.length) : past? n b = some (b.drop n) := if_pos h

theorem upTo?_cons (x : UInt8) (b : Bytes) :
    upTo? stop (x :: b) = if x == stop then some [] else (upTo? stop b).map (x :: ·) := by
  unfold upTo?
  by_cases h : x = stop
  · simp [h]
  · have h' : stop ≠ x := Ne.symm h
    by_cases hm : stop ∈ b <;> simp [h, h', hm]

theorem position?_eq (stop : UInt8) (b : Bytes) :
    position? stop b = (upTo? stop b).map List.length := by
  induction b with
  | nil => rfl
  | cons x b ih =>
    unfold position? at ih ⊢
    rw [upTo?_cons, List.findIdx?_cons, ih]
    split
    · rfl
    · simp [Function.comp_def]

end Bytes

namespace Envelope

/-- A reader of which nothing comes, neither a result nor an error, if it asks for a slice that is
not there or for more attempts than it is allowed. -/
abbrev Careful (ε α : Type) := ExceptT ε Option α

namespace Careful

variable {ε ε' α β : Type}

theorem run_bind {x : Careful ε α} {r : Except ε α} (hx : x.run = some r) {f : α → Careful ε β}
    {g : α → Except ε β} (hf : ∀ a, r = .ok a → (f a).run = some (g a)) :
    (x >>= f).run = some (r >>= g) := by
  rw [ExceptT.run_bind, hx]
  cases r with
  | error e => rfl
  | ok a => exact hf a rfl

theorem run_adapt {x : Careful ε α} {r : Except ε α} (hx : x.run = some r) (f : ε → ε') :
    (ExceptT.adapt f x : Careful ε' α).run = some (r.mapError f) := by
  change Except.mapError f <$> x.run = _
  rw [hx]
  rfl

theorem slice_bind {slice : Option Bytes} {b : Bytes} (h : slice = some b)
    (f : Bytes → Careful ε β) : (liftM slice >>= f).run = (f b).run := by
  rw [h]
  rfl

end Careful

/-- What stands in front of the first colon, or this error. -/
def field (missing : EnvelopeError) (input : Bytes) : Careful EnvelopeError Bytes :=
  match input.position? colon with
  | none => throw missing
  | some stop => liftM (input.first? stop)

theorem field_missing {input : Bytes} (h : Bytes.upTo? colon input = none)
    (missing : EnvelopeError) : field missing input = throw missing := by
  rw [field, Bytes.position?_eq, h]
  rfl

theorem field_found {input b : Bytes} (h : Bytes.upTo? colon input = some b)
    (missing : EnvelopeError) : field missing input = pure b := by
  have slice : Bytes.first? b.length input = some b := by
    obtain ⟨-, rest, rfl⟩ := Bytes.upTo?_eq_some_iff.mp h
    rw [Bytes.first?_eq (by simp), List.take_left]
  rw [field, Bytes.position?_eq, h, Option.map_some]
  dsimp only
  rw [slice]
  rfl

theorem literal_le {word input : Bytes} {n : Nat} (h : literal word input = .ok n) :
    n ≤ input.length := by
  obtain ⟨rfl, rest, rfl⟩ := literal_eq_ok_iff.mp h
  simp

theorem lengthField_le {input : Bytes} {n used : Nat} (h : lengthField input = .ok ⟨n, used⟩) :
    used ≤ input.length := by
  obtain ⟨digits, rest, -, rfl, rfl⟩ := lengthField_eq_ok_iff.mp h
  simp

def lengthFieldChecked (input : Bytes) : Careful EnvelopeError (Taken Nat) := do
  let digits ← field .lengthUnterminated input
  match Decimal.value? digits with
  | none => throw .lengthNotDecimal
  | some n => if n ≤ maxLength then return ⟨n, digits.length + 1⟩ else throw .lengthTooLarge

theorem lengthFieldChecked_run (input : Bytes) :
    (lengthFieldChecked input).run = some (lengthField input) := by
  unfold lengthFieldChecked lengthField
  cases h : Bytes.upTo? colon input with
  | none =>
    rw [field_missing h]
    rfl
  | some digits =>
    rw [field_found h, pure_bind]
    dsimp only
    cases Decimal.value? digits with
    | none => rfl
    | some n =>
      dsimp only
      split <;> rfl

namespace Header

def parseChecked (input : Bytes) : Careful EnvelopeError (Taken Header) := do
  let lead ← literal word input
  let count ← lengthFieldChecked (← input.past? lead)
  if count.value = 0 then throw .countZero else return ⟨⟨count.value⟩, lead + count.used⟩

theorem parseChecked_run (input : Bytes) : (parseChecked input).run = some (parse input) := by
  refine Careful.run_bind rfl fun lead hl => ?_
  rw [Careful.slice_bind (Bytes.past?_eq (literal_le hl))]
  refine Careful.run_bind (lengthFieldChecked_run _) fun count _ => ?_
  split <;> rfl

theorem parse_takes {input : Bytes} {h : Header} {used : Nat} (hp : parse input = .ok ⟨h, used⟩) :
    used ≤ input.length := by
  obtain ⟨b, rest, -, rfl, rfl⟩ := parse_sound hp
  simp

end Header

namespace Message

def parseChecked (input : Bytes) : Careful EnvelopeError (Taken Message) := do
  let lead ← literal word input
  let length ← lengthFieldChecked (← input.past? lead)
  if length.value = 0 then throw .lengthZero
  else
    let used := lead + length.used
    let name ← field .nicknameUnterminated (← input.past? used)
    let nickname ← textField name
    let used := used + name.length + 1
    let rest ← input.past? used
    if rest.length < length.value then throw .payloadTruncated
    else
      let payload ← textField (← rest.first? length.value)
      return ⟨⟨payload, nickname⟩, used + length.value⟩

theorem parseChecked_run (input : Bytes) : (parseChecked input).run = some (parse input) := by
  refine Careful.run_bind rfl fun lead hl => ?_
  have lead_le := literal_le hl
  rw [Careful.slice_bind (Bytes.past?_eq lead_le)]
  refine Careful.run_bind (lengthFieldChecked_run _) fun length hn => ?_
  have length_le := lengthField_le hn
  rw [List.length_drop] at length_le
  split
  · rfl
  rw [Careful.slice_bind (Bytes.past?_eq (by omega))]
  cases hname : Bytes.upTo? colon (input.drop (lead + length.used)) with
  | none =>
    rw [field_missing hname]
    simp only [hname]
    rfl
  | some name =>
    -- the colon behind the nickname leaves room for what is taken from there on
    obtain ⟨-, rest, split⟩ := Bytes.upTo?_eq_some_iff.mp hname
    have name_lt := congrArg List.length split
    rw [List.length_drop, List.length_append, List.length_cons] at name_lt
    rw [field_found hname, pure_bind]
    simp only [hname]
    refine Careful.run_bind rfl fun nickname _ => ?_
    rw [Careful.slice_bind (Bytes.past?_eq (by omega))]
    by_cases short : (input.drop (lead + length.used + name.length + 1)).length < length.value
    · rw [if_pos short, if_pos (lt_of_le_of_lt (List.length_take_le' _ _) short)]
      rfl
    · have enough := Nat.le_of_not_lt short
      have whole := Nat.not_lt.mpr (List.length_take_of_le enough).ge
      rw [if_neg short, if_neg whole, Careful.slice_bind (Bytes.first?_eq enough)]
      exact Careful.run_bind rfl fun payload _ => rfl

/-- The shortest record is that of a message without nickname and with one byte of payload. -/
theorem Spelled.length_ge {m : Message} {b : Bytes} (h : m.Spelled b) : 12 ≤ b.length := by
  obtain ⟨digits, numeral, filled, -, rfl⟩ := h
  have digit := List.length_pos_iff.mpr numeral.nonempty
  have letters : word.length = 7 := rfl
  rw [spelled_length]
  omega

theorem parse_takes {input : Bytes} {m : Message} {used : Nat} (h : parse input = .ok ⟨m, used⟩) :
    12 ≤ used ∧ used ≤ input.length := by
  obtain ⟨b, rest, spelled, rfl, rfl⟩ := parse_sound h
  exact ⟨spelled.length_ge, by simp⟩

end Message

/-- These messages were found in so many bytes of this input, a dozen bytes at least for each. -/
structure Fits (input : Bytes) (messages : List Message) (consumed : Nat) : Prop where
  filled : 12 * messages.length ≤ consumed
  within : consumed ≤ input.length

/-- Where the reading of an envelope stands between two attempts at a record. -/
structure Progress where
  count : Nat
  consumed : Nat
  messages : List Message

namespace Progress

def add (p : Progress) (m : Taken Message) : Progress :=
  { p with consumed := p.consumed + m.used, messages := p.messages ++ [m.value] }

/-- One attempt at a record. -/
def attempt (input : Bytes) (p : Progress) : Careful ParseError Progress := do
  let rest ← input.past? p.consumed
  let m ← ExceptT.adapt (⟨·, p.consumed, p.messages⟩) (Message.parseChecked rest)
  return p.add m

/-- Attempts at records, as long as there are fewer messages than were announced. -/
def finish (input : Bytes) : (attempts : Nat) → Progress → Careful ParseError Parsed
  | attempts, p =>
    if p.messages.length < p.count then
      match attempts with
      | 0 => liftM (none : Option Parsed)
      | attempts + 1 => p.attempt input >>= finish input attempts
    else return ⟨p.messages, p.consumed⟩

/-- What the reading comes to from here on. -/
def outcome (input : Bytes) (p : Progress) : Except ParseError Parsed :=
  parseMessages (p.count - p.messages.length) (input.drop p.consumed) p.consumed
    p.messages.reverse

theorem outcome_done {p : Progress} (h : ¬p.messages.length < p.count) (input : Bytes) :
    p.outcome input = .ok ⟨p.messages, p.consumed⟩ := by
  rw [outcome, Nat.sub_eq_zero_of_le (Nat.le_of_not_lt h), parseMessages, List.reverse_reverse]

theorem outcome_more {p : Progress} (h : p.messages.length < p.count) (input : Bytes) :
    p.outcome input = match Message.parse (input.drop p.consumed) with
      | .ok m => (p.add m).outcome input
      | .error cause => .error ⟨cause, p.consumed, p.messages⟩ := by
  obtain ⟨n, hn⟩ := Nat.exists_eq_add_of_lt h
  have left : p.count - p.messages.length = n + 1 := by omega
  rw [outcome, left, parseMessages]
  cases Message.parse (input.drop p.consumed) with
  | error cause => simp
  | ok m =>
    have fewer : (p.add m).count - (p.add m).messages.length = n := by
      simp only [add, List.length_append, List.length_singleton]
      omega
    simp only [outcome, fewer]
    simp [add, List.drop_drop]

theorem attempt_run {input : Bytes} {p : Progress} (h : p.consumed ≤ input.length) :
    (p.attempt input).run = some (match Message.parse (input.drop p.consumed) with
      | .ok m => .ok (p.add m)
      | .error cause => .error ⟨cause, p.consumed, p.messages⟩) := by
  have read := Careful.run_adapt (Message.parseChecked_run (input.drop p.consumed))
    fun cause => (⟨cause, p.consumed, p.messages⟩ : ParseError)
  rw [attempt, Careful.slice_bind (Bytes.past?_eq h), ExceptT.run_bind, read]
  cases Message.parse (input.drop p.consumed) <;> rfl

end Progress

theorem Fits.add {input : Bytes} {p : Progress} (h : Fits input p.messages p.consumed)
    {m : Taken Message} (hm : Message.parse (input.drop p.consumed) = .ok m) :
    Fits input (p.add m).messages (p.add m).consumed := by
  obtain ⟨filled, within⟩ := h
  obtain ⟨least, most⟩ := Message.parse_takes hm
  rw [List.length_drop] at most
  constructor
  case filled =>
    simp only [Progress.add, List.length_append, List.length_singleton]
    omega
  case within =>
    simp only [Progress.add]
    omega

/-- What was found fits, whether it is all or what stands in front of the first bad record. -/
def OutcomeFits (input : Bytes) : Except ParseError Parsed → Prop
  | .ok p => Fits input p.messages p.consumed
  | .error e => Fits input e.messages e.consumed

/-- Every message found leaves a dozen bytes less for those to come. So attempts are left over at
the end if, with those already made, there are more than dozens in the input. -/
theorem Progress.finish_run {input : Bytes} {attempts : Nat} {p : Progress}
    (h : Fits input p.messages p.consumed)
    (enough : input.length < 12 * (p.messages.length + attempts)) :
    (p.finish input attempts).run = some (p.outcome input) ∧
      OutcomeFits input (p.outcome input) := by
  induction attempts generalizing p with
  | zero =>
    -- the messages found would take up more than the input
    obtain ⟨filled, within⟩ := h
    omega
  | succ attempts ih =>
    unfold finish
    split
    · rename_i more
      rw [outcome_more more, ExceptT.run_bind, attempt_run h.within]
      cases hm : Message.parse (input.drop p.consumed) with
      | error cause => exact ⟨rfl, h⟩
      | ok m =>
        refine ih (h.add hm) ?_
        simp only [add, List.length_append, List.length_singleton]
        omega
    · rename_i done
      rw [outcome_done done]
      exact ⟨rfl, h⟩

/-- `parse` with nothing for granted and so many attempts at a record. -/
def parseWithin (attempts : Nat) (input : Bytes) : Careful ParseError Parsed := do
  let header ← ExceptT.adapt (⟨·, 0, []⟩) (Header.parseChecked input)
  Progress.finish input attempts ⟨header.value.count, header.used, []⟩

/-- However many messages a header announces, an envelope is read from slices that are there, and
with at most one attempt at a record for each whole dozen of bytes and one more. The messages found,
all of them or those in front of what is no record, take up a dozen bytes each or more, and nothing
beyond the input. -/
theorem parse_bounded (input : Bytes) :
    (parseWithin (input.length / 12 + 1) input).run = some (parse input) ∧
      match parse input with
      | .ok p => 12 * p.messages.length ≤ p.consumed ∧ p.consumed ≤ input.length
      | .error e => 12 * e.messages.length ≤ e.consumed ∧ e.consumed ≤ input.length := by
  have whole : (parseWithin (input.length / 12 + 1) input).run = some (parse input) ∧
      OutcomeFits input (parse input) := by
    have header := Careful.run_adapt (Header.parseChecked_run input)
      fun cause => (⟨cause, 0, []⟩ : ParseError)
    rw [parseWithin, ExceptT.run_bind, header, parse]
    cases hh : Header.parse input with
    | error cause => exact ⟨rfl, Nat.le_refl 0, Nat.zero_le _⟩
    | ok taken =>
      have started : Fits input [] taken.used := ⟨Nat.zero_le _, Header.parse_takes hh⟩
      have room : input.length < 12 * (0 + (input.length / 12 + 1)) := by omega
      exact Progress.finish_run (p := ⟨taken.value.count, taken.used, []⟩) started room
  obtain ⟨run, fit⟩ := whole
  refine ⟨run, ?_⟩
  cases hp : parse input with
  | ok p =>
    rw [hp] at fit
    exact ⟨fit.filled, fit.within⟩
  | error e =>
    rw [hp] at fit
    exact ⟨fit.filled, fit.within⟩

/-- The bound is met: these eighteen bytes call for two attempts, of which the second fails. -/
example :
    let input := Bytes.ofString "inv:9:message:1::a"
    (parseWithin 1 input).run = none ∧
      (parseWithin 2 input).run = some (.error ⟨.wrongLiteral, 18, [⟨"a", ""⟩]⟩) := by
  decide +kernel

end Envelope

end Parley
